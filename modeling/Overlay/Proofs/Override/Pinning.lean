/-
References with a row number.

# Reading

A reference is taken apart from left to right, and its parts can be told
by their characters: neither the name nor the field holds a bracket
(`ValueSpec.of_readRef`). So there is one way only to find a number in
brackets in it (`ValueSpec.of_bracket`).

# Looking up

A row with a number is looked up, among the rows of the template with
their computed fields, and the sources stay as they are but for what is
noted about these (`Sources.pinnedRow_eq`). But a number that is zero, too
large for a word, or written with digits of another script is forgotten
when the reference is read, and without it the reference draws the next
row like any other.
-/
import Overlay.Proofs.Override.Confining

namespace Overlay

open Text

-- ============================================================= reading

namespace ValueSpec

variable {raw : String} {r : RowRef}

/-- The row number in brackets, if there are any. -/
inductive Bracket (row : Option Nat) : List Char → Prop
  | missing (h : row = none) : Bracket row []
  | number (digits : List Char) (hne : digits ≠ [])
      (hdigits : ∀ c ∈ digits, isDigit c = true)
      (h : row = (Decimal.unsigned? Decimal.wordBound digits).filter (· > 0)) :
      Bracket row ('[' :: digits ++ [']'])

/-- The field behind a dot, if there is one. -/
inductive Suffix (field : Option String) : List Char → Prop
  | missing (h : field = none) : Suffix field []
  | field (name : List Char)
      (hname : ∀ c ∈ name, isRefChar c = true ∨ c = '.')
      (h : field = some (String.ofList name)) : Suffix field ('.' :: name)

/-- What is split off as the number of a row is a bracket, or nothing. A
number that is too large, or zero, is in the bracket all the same and counts
for none. -/
theorem of_splitRow {cs rest : List Char} {digits : Option (List Char)}
    (h : splitRow cs = some (digits, rest)) :
    ∃ bracket, cs = bracket ++ rest
      ∧ Bracket ((digits.bind (Decimal.unsigned? Decimal.wordBound)).filter
        (· > 0)) bracket := by
  unfold splitRow at h
  split at h
  case h_1 inside =>
      dsimp only at h
      split at h
      case h_1 d ds after hdigits hafter =>
          cases h
          have hinside := List.prefix_append_drop
            (List.takeWhile_prefix isDigit (l := inside))
          rw [hafter] at hinside
          refine ⟨'[' :: inside.takeWhile isDigit ++ [']'], ?_,
            .number _ (by rw [hdigits]; simp)
              (fun c hc => List.mem_takeWhile_imp hc) rfl⟩
          rw [List.append_assoc, List.cons_append, List.singleton_append,
            ← hinside]
      case h_2 => cases h
  case h_2 =>
      cases h
      exact ⟨[], rfl, .missing rfl⟩

/-- What is left over is the field behind its dot, or nothing. -/
theorem of_splitField {cs : List Char} {field : Option String}
    (h : splitField cs = some field) : Suffix field cs := by
  unfold splitField at h
  split at h
  case h_1 =>
      cases h
      exact .missing rfl
  case h_2 name =>
      rcases ite_eq_iff.mp h with ⟨hname, h⟩ | ⟨-, h⟩
      · cases h
        rw [Bool.and_eq_true, List.all_eq_true] at hname
        exact .field name (fun c hc => by simpa using hname.2 c hc) rfl
      · cases h
  case h_3 => cases h

/-- A reference is a name, a row number, and a field. -/
theorem of_readRef (h : readRef raw = some r) :
    r.raw = raw ∧ ∃ name bracket tail,
      raw.toList = '@' :: name ++ bracket ++ tail
        ∧ (∀ c ∈ name, isRefChar c = true)
        ∧ r.template = String.ofList name
        ∧ Bracket r.row bracket ∧ Suffix r.field tail := by
  unfold readRef at h
  split at h
  case h_1 rest hraw =>
      obtain ⟨-, -, h⟩ := Option.bind_eq_some_iff.mp h
      obtain ⟨⟨digits, behind⟩, hrow, h⟩ := Option.bind_eq_some_iff.mp h
      obtain ⟨field, hfield, h⟩ := Option.bind_eq_some_iff.mp h
      cases h
      obtain ⟨bracket, hbehind, hbracket⟩ := of_splitRow hrow
      refine ⟨rfl, rest.takeWhile isRefChar, bracket, behind, ?_,
        fun c hc => List.mem_takeWhile_imp hc, rfl, hbracket,
        of_splitField hfield⟩
      have hrest := List.prefix_append_drop
        (List.takeWhile_prefix isRefChar (l := rest))
      rw [hbehind] at hrest
      rw [hraw, List.cons_append, List.cons_append, List.append_assoc,
        ← hrest]
  case h_2 => cases h

/-- In such a field there is nothing but characters of references and the dot
in front. -/
theorem Suffix.not_mem {field : Option String} {tail : List Char}
    (h : Suffix field tail) {c : Char} (hc : isRefChar c = false)
    (hdot : c ≠ '.') : c ∉ tail := by
  intro hmem
  cases h with
  | missing => cases hmem
  | field name hname =>
      rcases List.mem_cons.mp hmem with rfl | hmem
      · exact hdot rfl
      · rcases hname c hmem with h | rfl
        · rw [hc] at h
          cases h
        · exact hdot rfl

/-- A number in brackets is the row number of a reference, whatever stands
before and behind it. -/
theorem of_bracket (h : readRef raw = some r)
    {name digits tail : List Char}
    (hraw : raw.toList = '@' :: name ++ '[' :: digits ++ ']' :: tail)
    (hdigits : ∀ c ∈ digits, isDigit c = true) :
    r.raw = raw ∧ r.template = String.ofList name
      ∧ r.row
        = (Decimal.unsigned? Decimal.wordBound digits).filter (· > 0)
      ∧ Suffix r.field tail := by
  obtain ⟨hwritten, name', bracket, tail', hparts, hname, htemplate,
    hbracket, hsuffix⟩ := of_readRef h
  have hopen : '[' ∉ name' ∧ '[' ∉ tail' ∧ ']' ∉ tail' :=
    ⟨fun hmem => absurd (hname _ hmem) (by decide),
      hsuffix.not_mem rfl (by decide), hsuffix.not_mem rfl (by decide)⟩
  have hclose : ∀ ds : List Char, (∀ c ∈ ds, isDigit c = true) →
      '[' ∉ ds ∧ ']' ∉ ds := fun ds hds =>
    ⟨fun hmem => absurd (hds _ hmem) (by decide),
      fun hmem => absurd (hds _ hmem) (by decide)⟩
  rw [hraw] at hparts
  cases hbracket with
  | missing =>
      have hmem : '[' ∈ '@' :: name ++ '[' :: digits ++ ']' :: tail := by simp
      rw [hparts] at hmem
      simp [hopen] at hmem
  | number digits' hne hdigits' hrow =>
      have hcut : name' ++ '[' :: (digits' ++ ']' :: tail')
          = name ++ '[' :: (digits ++ ']' :: tail) := by
        simpa using hparts.symm
      obtain ⟨rfl, -, hinside⟩ := (List.append_cons_inj_of_notMem hopen.1
        (by simp [hclose digits' hdigits', hopen])).mp hcut
      obtain ⟨rfl, -, rfl⟩ := (List.append_cons_inj_of_notMem
        (hclose digits' hdigits').2 hopen.2.2).mp hinside
      exact ⟨hwritten, htemplate, hrow, hsuffix⟩

end ValueSpec

-- ========================================================== looking up

namespace RowSupply

/-- Looking a row up changes nothing but the notes. -/
theorem rowAt_snd (name : String) (number : Nat) (s : RowSupply) :
    ∃ notes, (rowAt name number s).2
      = { s with issues := s.issues ++ notes } := by
  unfold rowAt
  split
  · exact ⟨[], by rw [List.append_nil]⟩
  · split
    · exact ⟨[], by rw [List.append_nil]⟩
    · exact ⟨_, rfl⟩

end RowSupply

namespace Sources

/-- The sources with more notes about computed fields. -/
def noted (s : Sources) (notes : List Issue) : Sources :=
  { s with rows := { s.rows with issues := s.rows.issues ++ notes } }

/-- A row that a reference pins is looked up among the rows of the template
with their computed fields. -/
theorem pinnedRow_eq (r : RowRef) {n : Nat} (hn : 0 < n) (s : Sources) :
    ∃ notes, pinnedRow r n s
      = ((s.rows.rowsOf r.template)[n - 1]?, s.noted notes) := by
  obtain ⟨notes, hnotes⟩ := RowSupply.rowAt_snd r.template n s.rows
  have hrow := RowSupply.rowAt_fst r.template n s.rows
  rw [if_neg hn.ne'] at hrow
  refine ⟨notes, Prod.ext hrow ?_⟩
  show { s with rows := (RowSupply.rowAt r.template n s.rows).2 } = _
  rw [hnotes]
  rfl

variable {raw : String} {r : RowRef}

theorem readRef_of_parse (h : ValueSpec.parse raw = .templated r) :
    ValueSpec.readRef raw = some r := by
  unfold ValueSpec.parse at h
  split at h
  · cases h
  · split at h
    case h_1 hread =>
        cases h
        exact hread
    case h_2 => cases h

/-- The row number of a reference, as it is read from its brackets. -/
theorem row_of_digits {n : Nat} {digits : List Char}
    (hn : n = Decimal.ofDigits 10 digits) (hne : digits ≠ [])
    (hdigits : ∀ c ∈ digits, isDigit c = true)
    (hrow : r.row
      = (Decimal.unsigned? Decimal.wordBound digits).filter (· > 0)) :
    r.row = if digits.all isAsciiDigit = true ∧ 0 < n ∧ n < Decimal.wordBound
      then some n else none := by
  rw [hrow, Decimal.unsigned?_eq hne hdigits, ← hn]
  by_cases h : digits.all isAsciiDigit = true ∧ 0 < n ∧ n < Decimal.wordBound
  · rw [if_pos h, if_pos ⟨h.1, h.2.2⟩]
    exact Option.filter_eq_some_iff.mpr ⟨rfl, by simpa using h.2.1⟩
  · rw [if_neg h]
    split
    case isTrue hfits =>
        have hzero : ¬ 0 < n := fun hpos => h ⟨hfits.1, hpos, hfits.2⟩
        rw [Option.filter_some, if_neg (by simpa using hzero)]
    case isFalse => rfl

/-- What a reference with a row number gives, on its own and within a
pass. -/
theorem texts_of_row (hparse : ValueSpec.parse raw = .templated r)
    {n : Nat} (hrow : r.row = some n) (hn : 0 < n) (s : Sources) (k : Nat) :
    ∃ notes,
      let row := (s.rows.rowsOf r.template)[n - 1]?
      freshRow r s = (row, s.noted notes)
        ∧ sharedRow r k s = (row, s.noted notes)
        ∧ text? (.parse raw) s = (row.bind r.textOf, s.noted notes)
        ∧ textFor? (.parse raw) k s = (row.bind r.textOf, s.noted notes)
        ∧ text (.parse raw) s
          = ((row.bind r.textOf).getD r.raw, s.noted notes) := by
  obtain ⟨notes, hlooked⟩ := pinnedRow_eq r hn s
  generalize (s.rows.rowsOf r.template)[n - 1]? = row at hlooked ⊢
  have hfresh : freshRow r s = (row, s.noted notes) := by
    rw [freshRow, hrow]
    exact hlooked
  have hshared : sharedRow r k s = (row, s.noted notes) := by
    rw [sharedRow, hrow]
    exact hlooked
  have htext : text? (.parse raw) s
      = (row.bind r.textOf, s.noted notes) := by
    rw [hparse]
    show ((freshRow r s).1.bind r.textOf, (freshRow r s).2) = _
    rw [hfresh]
  have htextFor : textFor? (.parse raw) k s
      = (row.bind r.textOf, s.noted notes) := by
    rw [hparse]
    show ((sharedRow r k s).1.bind r.textOf, (sharedRow r k s).2) = _
    rw [hshared]
  refine ⟨notes, hfresh, hshared, htext, htextFor, ?_⟩
  show ((text? (.parse raw) s).1.getD (ValueSpec.parse raw).raw,
    (text? (.parse raw) s).2) = _
  rw [htext, hparse, ValueSpec.raw]

/-- A reference with a row number in brackets, whatever the name of the
template is and whether there is a field. If the number is written with
ASCII digits, at least one, and fits in a word, the reference reads the row
of that number with its computed fields, if there is one, and never draws:
only notes about computed fields are added to the sources. If it has no
text then, it is returned as it was written. Any other number is forgotten,
and the reference draws as it does without brackets. -/
theorem numbered_reference (hparse : ValueSpec.parse raw = .templated r)
    {name digits tail : List Char}
    (hraw : raw.toList = '@' :: name ++ '[' :: digits ++ ']' :: tail)
    (hne : digits ≠ []) (hdigits : ∀ c ∈ digits, isDigit c = true) :
    let n := Decimal.ofDigits 10 digits
    let pins := digits.all isAsciiDigit = true ∧ 0 < n ∧ n < Decimal.wordBound
    r.raw = raw ∧ r.template = String.ofList name
      ∧ ValueSpec.Suffix r.field tail
      ∧ (pins → ∀ (s : Sources) (k : Nat), ∃ notes,
        let row := (s.rows.rowsOf r.template)[n - 1]?
        freshRow r s = (row, s.noted notes)
          ∧ sharedRow r k s = (row, s.noted notes)
          ∧ text? (.parse raw) s = (row.bind r.textOf, s.noted notes)
          ∧ textFor? (.parse raw) k s = (row.bind r.textOf, s.noted notes)
          ∧ text (.parse raw) s
            = ((row.bind r.textOf).getD raw, s.noted notes))
      ∧ (¬ pins → ∀ (s : Sources) (k : Nat),
        freshRow r s = ((RowSupply.next r.template s.rows).1,
            { s with rows := (RowSupply.next r.template s.rows).2 })
          ∧ sharedRow r k s = drawnRow r.template k s) := by
  intro n pins
  obtain ⟨hwritten, htemplate, hrow, hsuffix⟩ :=
    ValueSpec.of_bracket (readRef_of_parse hparse) hraw hdigits
  have hrow := row_of_digits (n := n) rfl hne hdigits hrow
  refine ⟨hwritten, htemplate, hsuffix, fun hpins s k => ?_,
    fun hpins s k => ?_⟩
  · rw [if_pos hpins] at hrow
    have htexts := texts_of_row hparse hrow hpins.2.1 s k
    rwa [hwritten] at htexts
  · rw [if_neg hpins] at hrow
    constructor
    · rw [freshRow, hrow]
      rfl
    · rw [sharedRow, hrow]

/-- Zeros in front of a number do not count. -/
theorem numbered_reference_leading_zero :
    ∃ r, ValueSpec.parse "@t[02].x" = .templated r ∧ r.template = "t"
      ∧ ∀ (s : Sources) (k : Nat), ∃ notes,
        sharedRow r k s = ((s.rows.rowsOf r.template)[1]?, s.noted notes)
          ∧ text (.parse "@t[02].x") s
            = (((s.rows.rowsOf r.template)[1]?.bind r.textOf).getD "@t[02].x",
              s.noted notes) := by
  have hparse : ValueSpec.parse "@t[02].x"
      = .templated ⟨"@t[02].x", "t", some 2, some "x"⟩ := by
    decide +kernel
  have hdigits : ∀ c ∈ ['0', '2'], isDigit c = true := by
    simp only [List.forall_mem_cons]
    exact ⟨by decide, by decide, by simp⟩
  obtain ⟨-, htemplate, -, hpins, -⟩ := @numbered_reference _ _ hparse
    ['t'] ['0', '2'] ['.', 'x'] (by decide) (by decide) hdigits
  refine ⟨_, hparse, htemplate, fun s k => ?_⟩
  obtain ⟨notes, -, hshared, -, -, htext⟩ := hpins
    ⟨by decide, by decide, by decide +kernel⟩ s k
  exact ⟨notes, hshared, htext⟩

/-- Sources with one template of two rows. -/
def ofTwoRows : Sources where
  today := default
  rows :=
    { templates := [("t",
        { fields := ["x"]
          rows := [[("x", "1")], [("x", "2")]]
          cycle := .sequential
          computed := []
          parent := none })]
      origin := default
      stream := default }
  values := default

/-- Zero and a number that does not fit in a word are row numbers that no
template has, and yet a row is drawn. -/
theorem forgotten_number_draws :
    (text (.parse "@t[0].x") ofTwoRows).1 = "1"
      ∧ (text (.parse "@t[18446744073709551616].x") ofTwoRows).1 = "1"
      ∧ (text (.parse "@t[3].x") ofTwoRows).1 = "@t[3].x"
      ∧ ((text (.parse "@t[0].x") ofTwoRows).2.rows.summary.map (·.served))
        = [1] := by
  refine ⟨?_, ?_, ?_, ?_⟩ <;> decide +kernel

end Sources

end Overlay
