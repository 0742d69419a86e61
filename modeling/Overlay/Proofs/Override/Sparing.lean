/-
What requests for generated values take from the stream.

# Draws that are there or not

Most kinds look at all their parameters before they draw: either there is
a draw, or the stream is left alone (`Generator.Draw`). So whether such a
request is refused can be told from the request, and does not depend on
the stream (`Generator.offers_of_not_misnamed`).

# Identifiers

Identifiers are the exception. Their words are drawn first, and only then
is the parameter looked at. A request that names a part that identifiers
do not have is refused like others, but four words are gone
(`Generator.draw_of_misnamed`).

# Runs

Requests that are refused and take nothing can stand anywhere among other
requests, which get the values that they would get without them
(`Sources.generateAll_of_idle`).

A date is counted from today. Days beyond the years that can be told have
no text; no day within a year from today is one of them, unless today is
close to the end of the calendar itself (`Calendar.Date.IsInner`).
-/
import Overlay.Override.Sources
import Overlay.Proofs.Template.Drawing

namespace Overlay

open Overlay.Random

-- =============================================================== dates

/-- Whether all days within a year from this one can be told. -/
def Calendar.Date.IsInner (today : Calendar.Date) : Prop :=
  ∀ n : Int, -365 ≤ n → n ≤ 365 →
    Calendar.yearInRange (today.addDays n).year = true

instance (today : Calendar.Date) : Decidable today.IsInner :=
  inferInstanceAs (Decidable (∀ n : Int, -365 ≤ n → n ≤ 365 → _))

/-- Whether a value is a text, or a date within a year from today. -/
def Generated.IsNear : Generated → Prop
  | .text _ => True
  | .day n => -365 ≤ n ∧ n ≤ 365

/-- Such a value has a text. -/
theorem Generated.IsNear.render {today : Calendar.Date} {value : Generated}
    (h : value.IsNear) (hday : today.IsInner) :
    value.render? today ≠ none := by
  cases value with
  | text s => simp [render?]
  | day n => simp [render?, hday n h.1 h.2]

/-- What is drawn from a range is in the range. -/
theorem Random.integer_mem {low high : Int} (h : low ≤ high)
    (hsize : (high - low + 1).toNat < words) (s : Stream) :
    low ≤ (integer low high s).1 ∧ (integer low high s).1 ≤ high := by
  have hlt := below_lt (n := (high - low + 1).toNat) (by omega) patience s
  have hdraw : (integer low high s).1
      = low + ((below (high - low + 1).toNat patience s).1 : Int) := by
    unfold integer
    rw [if_neg (Nat.not_le.mpr hsize)]
    rfl
  omega

-- ============================================================ requests

/-- Whether a request names a part that identifiers do not have. -/
def GeneratorSpec.IsMisnamed (spec : GeneratorSpec) : Prop :=
  spec.kind = "uuid" ∧ ∃ part, spec.param? 0 = some part ∧ part ≠ "short"

namespace Generator

variable {spec : GeneratorSpec}

/-- Whether a request for anything but an identifier is refused depends on
the request alone. -/
inductive Offers (spec : GeneratorSpec) : Prop
  /-- The request cannot be used. -/
  | refused (h : draw spec = pure none) : Offers spec
  /-- There is a draw, and its values can be told. -/
  | accepted (m : StateM Stream Generated) (h : draw spec = some <$> m)
      (hnear : ∀ s, (m s).1.IsNear) : Offers spec

theorem Offers.of_draw {d : Draw} (h : draw spec = d.run)
    (hnear : ∀ m, d = some m → ∀ s, (m s).1.IsNear) : Offers spec := by
  cases d with
  | none => exact .refused h
  | some m => exact .accepted m h (hnear m rfl)

/-- A request for letters that is accepted draws a count of them. -/
theorem of_alpha {m : StateM Stream Generated} (h : alpha spec = some m) :
    ∃ count, m = letters count >>= fun cs =>
      pure (.text (String.ofList cs)) := by
  simp only [alpha, Option.bind_eq_bind, Option.bind_eq_some_iff] at h
  obtain ⟨count, -, -, -, h⟩ := h
  exact ⟨count, (Option.some.inj h).symm⟩

/-- A request for a number that is accepted draws one from a range. -/
theorem of_number {m : StateM Stream Generated} (h : number spec = some m) :
    ∃ low high, m = integer low high >>= fun n =>
      pure (.text (toString n)) := by
  simp only [number, Option.bind_eq_bind, Option.bind_eq_some_iff] at h
  obtain ⟨low, -, high, -, -, -, h⟩ := h
  exact ⟨low, high, (Option.some.inj h).symm⟩

/-- A request for a date that is accepted is for today, or draws the
distance of a day that comes or that is over. -/
theorem of_date {m : StateM Stream Generated} (h : date spec = some m) :
    m = pure (.day 0) ∨ ∃ f : Int → Int, (∀ n, f n = n ∨ f n = -n)
      ∧ m = integer 1 365 >>= fun n => pure (.day (f n)) := by
  unfold date at h
  split at h <;> cases h
  case h_1 => exact .inl rfl
  case h_2 => exact .inl rfl
  case h_3 => exact .inr ⟨id, fun n => .inl rfl, rfl⟩
  case h_4 => exact .inr ⟨Neg.neg, fun n => .inr rfl, rfl⟩

theorem alpha_isNear {m : StateM Stream Generated} (h : alpha spec = some m)
    (s : Stream) : (m s).1.IsNear := by
  obtain ⟨count, rfl⟩ := of_alpha h
  trivial

theorem number_isNear {m : StateM Stream Generated}
    (h : number spec = some m) (s : Stream) : (m s).1.IsNear := by
  obtain ⟨low, high, rfl⟩ := of_number h
  trivial

theorem currency_isNear {m : StateM Stream Generated}
    (h : currency spec = some m) (s : Stream) : (m s).1.IsNear := by
  simp only [currency, Option.bind_eq_bind, Option.bind_eq_some_iff] at h
  obtain ⟨_, -, h⟩ := h
  cases h
  trivial

/-- A day that is drawn is a year at most from today. -/
theorem date_isNear {m : StateM Stream Generated} (h : date spec = some m)
    (s : Stream) : (m s).1.IsNear := by
  obtain rfl | ⟨f, hf, rfl⟩ := of_date h
  · exact ⟨by decide, by decide⟩
  · have hyear : 1 ≤ (integer 1 365 s).1 ∧ (integer 1 365 s).1 ≤ 365 :=
      integer_mem (by decide) (by decide +kernel) s
    have hday := hf (integer 1 365 s).1
    show -365 ≤ f (integer 1 365 s).1 ∧ f (integer 1 365 s).1 ≤ 365
    omega

/-- The kinds, each with its draw. -/
theorem draw_cases (spec : GeneratorSpec) :
    spec.kind = "uuid" ∧ draw spec = uuid spec
      ∨ draw spec = (alpha spec).run ∨ draw spec = (number spec).run
      ∨ draw spec = (currency spec).run ∨ draw spec = (date spec).run
      ∨ draw spec = Draw.run none := by
  unfold draw
  split
  case h_1 hkind => exact .inl ⟨hkind, rfl⟩
  case h_2 => exact .inr (.inl rfl)
  case h_3 => exact .inr (.inr (.inl rfl))
  case h_4 => exact .inr (.inr (.inr (.inl rfl)))
  case h_5 => exact .inr (.inr (.inr (.inr (.inl rfl))))
  case h_6 => exact .inr (.inr (.inr (.inr (.inr rfl))))

-- ========================================================= identifiers

/-- An identifier has all parts but those that it does not have. -/
theorem identifierPart_cases (part : Option String) :
    (∃ name, part = some name ∧ name ≠ "short"
        ∧ ∀ id, identifierPart part id = none)
      ∨ ∃ f : String → String, ∀ id, identifierPart part id = some (f id) := by
  unfold identifierPart
  split
  case h_1 => exact .inr ⟨id, fun _ => rfl⟩
  case h_2 => exact .inr ⟨_, fun _ => rfl⟩
  case h_3 name hname => exact .inl ⟨name, rfl, hname, fun _ => rfl⟩

/-- The words of an identifier are taken whatever comes of them. -/
theorem uuid_eq (spec : GeneratorSpec) (s : Stream) :
    uuid spec s
      = ((identifierPart (spec.param? 0) (identifier s).1).map .text,
          { s with position := s.position + 4 }) := rfl

/-- A request that names a part that identifiers do not have is refused,
and takes four words. -/
theorem draw_of_misnamed (h : spec.IsMisnamed) (s : Stream) :
    draw spec s = (none, { s with position := s.position + 4 }) := by
  obtain ⟨hkind, part, hpart, hne⟩ := h
  have hdraw : draw spec = uuid spec := by simp [draw, hkind]
  have hnone : identifierPart (some part) (identifier s).1 = none := by
    rcases identifierPart_cases (some part) with ⟨-, -, -, h⟩ | ⟨f, h⟩
    · exact h _
    · simp [identifierPart] at h
  rw [hdraw, uuid_eq, hpart, hnone]
  rfl

/-- Any other request has a draw, or it has none. -/
theorem offers_of_not_misnamed (h : ¬ spec.IsMisnamed) : Offers spec := by
  rcases draw_cases spec with
    ⟨hkind, hdraw⟩ | hdraw | hdraw | hdraw | hdraw | hdraw
  · rcases identifierPart_cases (spec.param? 0) with
      ⟨name, hpart, hne, -⟩ | ⟨f, hf⟩
    · exact absurd ⟨hkind, name, hpart, hne⟩ h
    · refine .accepted (do return .text (f (← identifier))) ?_
        fun _ => trivial
      rw [hdraw]
      funext s
      rw [uuid_eq, hf]
      rfl
  · exact .of_draw hdraw fun _ => alpha_isNear
  · exact .of_draw hdraw fun _ => number_isNear
  · exact .of_draw hdraw fun _ => currency_isNear
  · exact .of_draw hdraw fun _ => date_isNear
  · exact .of_draw hdraw fun _ hm => nomatch hm

end Generator

-- ================================================================ runs

namespace Sources

/-- The values of some requests, one after the other. -/
def generateAll (specs : List GeneratorSpec) :
    StateM Sources (List (Option String)) := specs.mapM generate

/-- Whether a request is refused and takes nothing, wherever it stands. -/
def IsIdle (spec : GeneratorSpec) : Prop :=
  ∀ s : Sources, generate spec s = (none, s)

/-- A request that was refused once is idle, unless it asks for a part
that identifiers do not have. -/
theorem isIdle_of_refused {spec : GeneratorSpec} {s : Sources}
    (hday : s.today.IsInner) (h : (generate spec s).1 = none)
    (hnamed : ¬ spec.IsMisnamed) : IsIdle spec := by
  cases Generator.offers_of_not_misnamed hnamed with
  | refused hdraw =>
      intro s
      rw [generate, ValueSource.generate, hdraw]
      rfl
  | accepted m hdraw hnear =>
      rw [generate, ValueSource.generate, hdraw] at h
      exact absurd h ((hnear s.values.stream).render hday)

theorem generateAll_cons (spec : GeneratorSpec) (rest : List GeneratorSpec)
    (s : Sources) :
    generateAll (spec :: rest) s
      = ((generate spec s).1 :: (generateAll rest (generate spec s).2).1,
          (generateAll rest (generate spec s).2).2) := by
  rw [generateAll, List.mapM_cons]
  rfl

/-- Idle requests can be left out of a run: the others get the same values,
and the sources end up the same. -/
theorem generateAll_of_idle {calls : List (GeneratorSpec × Bool)}
    (h : ∀ c ∈ calls, c.2 = true → IsIdle c.1) (s : Sources) :
    generateAll ((calls.filter (!·.2)).map (·.1)) s
      = ((((generateAll (calls.map (·.1)) s).1.zip calls).filter
            (!·.2.2)).map (·.1),
          (generateAll (calls.map (·.1)) s).2) := by
  induction calls generalizing s with
  | nil => rfl
  | cons c rest ih =>
      have ih := ih fun d hd => h d (List.mem_cons_of_mem c hd)
      obtain ⟨spec, inserted⟩ := c
      rw [List.map_cons, generateAll_cons]
      cases inserted with
      | true =>
          have hidle := h _ (List.mem_cons_self ..) rfl s
          rw [List.filter_cons_of_neg (by simp), ih, hidle]
          rfl
      | false =>
          rw [List.filter_cons_of_pos (by simp), List.map_cons,
            generateAll_cons, ih]
          rfl

/-- A request for a generated value that is refused leaves the sources as
they are, unless it names a part that identifiers do not have: such a
request is refused after four words were taken. So requests that are
refused, other than these, can be put in anywhere among other requests, as
many as there may be: the values of the others stay what they are, and so
do the sources. -/
theorem generate_spares (s : Sources) (hday : s.today.IsInner) :
    (∀ spec : GeneratorSpec, (generate spec s).1 = none →
        ¬ spec.IsMisnamed → (generate spec s).2 = s)
      ∧ (∀ spec : GeneratorSpec, spec.IsMisnamed →
          generate spec s = (none, { s with
            values := { s.values with
              stream := { s.values.stream with
                position := s.values.stream.position + 4 } } }))
      ∧ ∀ calls : List (GeneratorSpec × Bool),
          (∀ c ∈ calls, c.2 = true →
            (generate c.1 s).1 = none ∧ ¬ c.1.IsMisnamed) →
          generateAll ((calls.filter (!·.2)).map (·.1)) s
            = ((((generateAll (calls.map (·.1)) s).1.zip calls).filter
                  (!·.2.2)).map (·.1),
                (generateAll (calls.map (·.1)) s).2) := by
  refine ⟨fun spec h hnamed => ?_, fun spec h => ?_, fun calls h => ?_⟩
  · rw [isIdle_of_refused hday h hnamed s]
  · rw [generate, ValueSource.generate, Generator.draw_of_misnamed h]
    rfl
  · exact generateAll_of_idle (fun c hc hinserted =>
      isIdle_of_refused hday (h c hc hinserted).1 (h c hc hinserted).2) s

/-- An unknown kind and a range that is upside down, put in around a
number. -/
theorem generate_spares_around_number :
    let s : Sources :=
      { today := ⟨2024, 3, 1⟩, rows := default, values := .ofSeed 7 }
    let color : GeneratorSpec := ⟨"generate:color", "color", []⟩
    let number : GeneratorSpec := ⟨"generate:number", "number", []⟩
    let backwards : GeneratorSpec :=
      ⟨"generate:number:9:1", "number", ["9", "1"]⟩
    s.today.IsInner
      ∧ (generate color s).1 = none ∧ (generate color s).2 = s
      ∧ (generateAll [number] s).1 = [some "31"]
      ∧ (generateAll [color, number, backwards] s).2
        = (generateAll [number] s).2 := by
  intro s color number backwards
  have hday : s.today.IsInner := by decide +kernel
  have hcolor : (generate color s).1 = none := by decide +kernel
  have hbackwards : (generate backwards s).1 = none := by decide +kernel
  have hnamed : ∀ spec : GeneratorSpec, spec.kind ≠ "uuid" →
      ¬ spec.IsMisnamed := fun _ hkind h => hkind h.1
  obtain ⟨hleft, -, hruns⟩ := generate_spares s hday
  refine ⟨hday, hcolor, hleft color hcolor (hnamed color (by decide)),
    by decide +kernel, ?_⟩
  have hrun := hruns [(color, true), (number, false), (backwards, true)] (by
    intro c hc hinserted
    simp only [List.mem_cons, List.not_mem_nil, or_false] at hc
    rcases hc with rfl | rfl | rfl
    · exact ⟨hcolor, hnamed color (by decide)⟩
    · cases hinserted
    · exact ⟨hbackwards, hnamed backwards (by decide)⟩)
  simp only [List.filter_cons, List.filter_nil, List.map_cons, List.map_nil,
    Bool.not_true, Bool.not_false, Bool.false_eq_true, ↓reduceIte] at hrun
  simp only [hrun]

/-- A request for a part that identifiers do not have is refused, but the
number that comes next is another one. -/
theorem misnamed_identifier_draws :
    let s : Sources :=
      { today := ⟨2024, 3, 1⟩, rows := default, values := .ofSeed 7 }
    let long : GeneratorSpec := ⟨"generate:uuid:long", "uuid", ["long"]⟩
    let number : GeneratorSpec := ⟨"generate:number", "number", []⟩
    (generate long s).1 = none ∧ (generate long s).2 ≠ s
      ∧ (generateAll [number] s).1 = [some "31"]
      ∧ (generateAll [long, number] s).1 = [none, some "143"] := by
  intro s long number
  refine ⟨by decide +kernel, fun h => ?_, by decide +kernel,
    by decide +kernel⟩
  have hmisnamed : long.IsMisnamed := ⟨rfl, "long", rfl, by decide⟩
  rw [generate, ValueSource.generate, Generator.draw_of_misnamed hmisnamed]
    at h
  exact absurd (congrArg (·.values.stream.position) h) (by decide)

end Sources

end Overlay
