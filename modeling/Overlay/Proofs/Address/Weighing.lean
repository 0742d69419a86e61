/-
The weight of an address: what its kind decides, and what its steps do.

# One word for both

A precedence packs the rank of the kind and the specificity into one word.
Taken as numbers (`toNat_precedence`), the rank counts thousands and the
specificity, cut off at 999, stays below one thousand. So addresses of
different kinds compare as their kinds do, whatever else is in them: the
cut comes behind the sum, and holds even where the sum has gone around the
word.

# Where steps stop to count

Within a kind the `points` decide: fifty for every step, and a fixed
amount for a position and for an attribute. They decide as long as the
address with fewer of them is below the cut. From there on more steps add
nothing, so that a path of twenty-one steps weighs as much as one of
twenty (`longer_path_no_stronger`). Sums that leave the word begin at zero
again; no path of less than eighty million steps gets there.
-/
import Overlay.Proofs.Address.Normalizing

namespace Overlay

-- =============================================================== kinds

namespace AddressKind

/-- The kinds, from the one that wins over all others down. -/
def order : List AddressKind :=
  [.absolute, .qualified, .dotNotation, .simple, .attributed, .pattern]

/-- The ranks are the places in the order, counted from the end. -/
theorem toNat_rank (k : AddressKind) :
    k.rank.toNat + order.idxOf k = 6 := by
  cases k <;> rfl

theorem idxOf_order_inj {k l : AddressKind}
    (h : order.idxOf k = order.idxOf l) : k = l := by
  have hmem : k ∈ order := by
    cases k <;> decide
  exact (List.idxOf_inj hmem).mp h

end AddressKind

-- ============================================================== weights

namespace Address

variable (a : Address)

/-- The specificity of an address as a number, which no word limits. -/
def points : Nat :=
  50 * a.steps.length + (if a.hasPosition then 100 else 0)
    + (if a.attr.isSome then 150 else 0)

/-- The weight of an address are its points, counted in 32 bits. -/
theorem toNat_specificity : a.specificity.toNat = a.points % 2 ^ 32 := by
  have hsteps : (50 * UInt32.ofNat a.steps.length).toNat
      = 50 * a.steps.length % 2 ^ 32 := by
    rw [UInt32.toNat_mul, UInt32.toNat_ofNat']
    show 50 * (a.steps.length % 2 ^ 32) % 2 ^ 32 = _
    rw [Nat.mul_mod, Nat.mod_mod, ← Nat.mul_mod]
  unfold specificity points
  cases a.hasPosition <;> cases a.attr.isSome <;>
    simp only [Bool.false_eq_true, ↓reduceIte, Nat.add_zero,
      UInt32.toNat_add, hsteps, UInt32.reduceToNat] <;>
    omega

/-- The kind gives the thousands of a precedence, and the points, as far as
the word and the cut let them through, the rest. -/
theorem toNat_precedence : a.precedence.toNat
    = 1000 * a.kind.rank.toNat + min (a.points % 2 ^ 32) 999 := by
  have hrank := AddressKind.toNat_rank a.kind
  have hcut : (min a.specificity 999).toNat
      = min (a.points % 2 ^ 32) 999 := by
    rw [← toNat_specificity]
    show (if a.specificity ≤ 999 then a.specificity else 999).toNat = _
    have hle : a.specificity ≤ 999 ↔ a.specificity.toNat ≤ 999 := Iff.rfl
    split <;> rename_i h
    · exact (Nat.min_eq_left (hle.mp h)).symm
    · have hlt := Nat.not_le.mp (mt hle.mpr h)
      exact (Nat.min_eq_right hlt.le).symm
  rw [precedence, UInt32.toNat_add, UInt32.toNat_mul, hcut]
  show (a.kind.rank.toNat * 1000 % 2 ^ 32 + _) % 2 ^ 32 = _
  omega

variable {a} {b : Address}

/-- Of addresses of different kinds the one whose kind is earlier in the
order weighs more. -/
theorem precedence_lt_iff_of_kind_ne (hne : a.kind ≠ b.kind) :
    b.precedence < a.precedence
      ↔ AddressKind.order.idxOf a.kind < AddressKind.order.idxOf b.kind := by
  have ha := AddressKind.toNat_rank a.kind
  have hb := AddressKind.toNat_rank b.kind
  have hplaces : AddressKind.order.idxOf a.kind
      ≠ AddressKind.order.idxOf b.kind :=
    fun h => hne (AddressKind.idxOf_order_inj h)
  rw [UInt32.lt_iff_toNat_lt, toNat_precedence, toNat_precedence]
  omega

/-- Of addresses of one kind the one with more points weighs more, until
both are cut off. -/
theorem precedence_of_points (hkind : a.kind = b.kind)
    (hpoints : b.points < a.points) (hword : a.points < 2 ^ 32) :
    b.precedence ≤ a.precedence
      ∧ (b.precedence < a.precedence ↔ b.points < 999) := by
  rw [UInt32.le_iff_toNat_le, UInt32.lt_iff_toNat_lt, toNat_precedence,
    toNat_precedence, hkind, Nat.mod_eq_of_lt hword,
    Nat.mod_eq_of_lt (hpoints.trans hword)]
  omega

/-- How addresses compare. Where their kinds differ, the kinds decide, by
their order and whatever the length, the positions and the attributes.
Where the kinds are the same, and both addresses or none give a position,
and both or none an attribute, the one with more steps weighs no less, as
long as its points fit a word; and it weighs more exactly if the other one
is below the cut. -/
theorem precedence_compare (a b : Address) :
    (a.kind ≠ b.kind → (b.precedence < a.precedence
      ↔ AddressKind.order.idxOf a.kind < AddressKind.order.idxOf b.kind))
    ∧ (a.kind = b.kind → a.hasPosition = b.hasPosition →
        a.attr.isSome = b.attr.isSome → b.steps.length < a.steps.length →
        a.points < 2 ^ 32 →
        b.precedence ≤ a.precedence
          ∧ (b.precedence < a.precedence ↔ b.points < 999)) := by
  refine ⟨precedence_lt_iff_of_kind_ne,
    fun hkind hposition hattr hsteps hword =>
      precedence_of_points hkind ?_ hword⟩
  rw [points, points, hposition, hattr]
  omega

-- ======================================================== long paths

/-- The dotted path of two steps `a` and some more. -/
def chain (more : Nat) : Address where
  qualifier := none
  shape := .dotted
  steps := List.replicate (more + 2) ⟨"a", none⟩
  steps_ne_nil := by simp
  attr := none

theorem length_chain (n : Nat) : (chain n).steps.length = n + 2 :=
  List.length_replicate

theorem parse_chain (n : Nat) : parse (chain n).normalize = .ok (chain n) := by
  have hname : isName false "a".toList = true := by
    decide +kernel
  refine parse_normalize_of_isGrammatical
    ⟨nofun, fun s hs => ?_, fun _ => ?_, nofun, nofun⟩
  · rw [List.eq_of_mem_replicate hs]
    exact ⟨hname, nofun⟩
  · rw [length_chain]
    omega

theorem hasPosition_chain (n : Nat) : (chain n).hasPosition = false := by
  simp [hasPosition, chain]

theorem kind_chain (n : Nat) : (chain n).kind = .dotNotation := by
  have hpattern : (chain n).isPattern = false := by
    simp only [isPattern, chain, List.any_replicate, Option.any_none,
      Bool.or_false]
    rw [if_neg (Nat.succ_ne_zero (n + 1))]
    decide +kernel
  rw [kind, hpattern]
  rfl

theorem points_chain (n : Nat) : (chain n).points = 50 * (n + 2) := by
  rw [points, hasPosition_chain, length_chain]
  rfl

theorem toNat_precedence_chain (n : Nat) :
    (chain n).precedence.toNat
      = 4000 + min (50 * (n + 2) % 2 ^ 32) 999 := by
  rw [toNat_precedence, kind_chain, points_chain]
  rfl

/-- A path of four steps weighs more than one of three, which weighs more
than a pattern. -/
theorem precedence_compare_chain :
    ∃ p, parse "*a" = .ok p ∧ (chain 1).precedence < (chain 2).precedence
      ∧ p.precedence < (chain 1).precedence := by
  have hread : (parse "*a").toOption.any (·.kind == .pattern) = true := by
    decide +kernel
  obtain ⟨p, hp, hkind⟩ := (Option.any_eq_true _ _).mp hread
  have hlonger := (precedence_compare (chain 2) (chain 1)).2
    ((kind_chain 2).trans (kind_chain 1).symm)
    ((hasPosition_chain 2).trans (hasPosition_chain 1).symm) rfl
    (by rw [length_chain, length_chain]; decide)
    (by rw [points_chain]; decide)
  have hne : (chain 1).kind ≠ p.kind := by
    rw [kind_chain, eq_of_beq hkind]
    decide
  refine ⟨p, toOption_eq_some_iff.mp hp,
    hlonger.2.mpr (by rw [points_chain]; decide),
    ((precedence_compare (chain 1) p).1 hne).mpr ?_⟩
  rw [kind_chain, eq_of_beq hkind]
  decide

/-- A path of twenty-one steps weighs no more than one of twenty, and one
of so many steps that the word is left weighs less than one of two. -/
theorem longer_path_no_stronger :
    (∃ a b, parse (chain 19).normalize = .ok a
        ∧ parse (chain 18).normalize = .ok b
        ∧ a.kind = b.kind ∧ a.hasPosition = b.hasPosition
        ∧ a.attr.isSome = b.attr.isSome
        ∧ b.steps.length < a.steps.length
        ∧ ¬ b.precedence < a.precedence)
      ∧ ∃ a b, parse (chain 85899344).normalize = .ok a
        ∧ parse (chain 0).normalize = .ok b
        ∧ a.kind = b.kind ∧ a.hasPosition = b.hasPosition
        ∧ a.attr.isSome = b.attr.isSome
        ∧ b.steps.length < a.steps.length
        ∧ a.precedence < b.precedence := by
  have hlike : ∀ m n, (chain m).kind = (chain n).kind
      ∧ (chain m).hasPosition = (chain n).hasPosition
      ∧ (chain m).attr.isSome = (chain n).attr.isSome := fun m n =>
    ⟨(kind_chain m).trans (kind_chain n).symm,
      (hasPosition_chain m).trans (hasPosition_chain n).symm, rfl⟩
  obtain ⟨hkind, hposition, hattr⟩ := hlike 19 18
  obtain ⟨hkind', hposition', hattr'⟩ := hlike 85899344 0
  refine ⟨⟨_, _, parse_chain 19, parse_chain 18, hkind, hposition, hattr,
      ?_, ?_⟩,
    ⟨_, _, parse_chain 85899344, parse_chain 0, hkind', hposition', hattr',
      ?_, ?_⟩⟩
  · rw [length_chain, length_chain]
    omega
  · rw [UInt32.lt_iff_toNat_lt, toNat_precedence_chain,
      toNat_precedence_chain]
    omega
  · rw [length_chain, length_chain]
    omega
  · rw [UInt32.lt_iff_toNat_lt, toNat_precedence_chain,
      toNat_precedence_chain]
    omega

end Address

end Overlay
