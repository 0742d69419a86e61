/-
Name patterns as regular expressions.

# Reading

A pattern is written as an expression character by character: a dot with a
star for a star, and a backslash before whatever means something of its
own (`toList_regexText`). The reader takes one part off at a time, and
never looks back, so what it makes of the whole is the sequence of what it
makes of each character, between two anchors (`read?_regexText`).

# Matching

The parts move the places of a text forward: a literal by its character, a
dot with a star by any number of characters but line feeds
(`size_mem_endsOfAll_iff`). The anchors leave matches of the whole text. So the
expression matches what fits the pattern (`isMatch_expression_iff`).
-/
import Overlay.Proofs.Address.Stretching
import Overlay.Proofs.Regex.Places
import Overlay.Regex.Reader

namespace Overlay.Wildcard

open Text Regex

-- =============================================================== texts

/-- What is written for a character of a pattern. -/
def escapeText (c : Char) : List Char :=
  if c = '*' then ['.', '*'] else escapeChar c

theorem flatMap_escapeText {part : List Char} (h : '*' ∉ part) :
    part.flatMap escapeText = part.flatMap escapeChar :=
  List.flatMap_congr fun c hc => if_neg fun heq : c = '*' => h (heq ▸ hc)

/-- The expression of a pattern is written character by character. -/
theorem toList_regexText (pattern : String) :
    (regexText pattern).toList
      = '^' :: (pattern.toList.flatMap escapeText ++ ['$']) := by
  obtain ⟨first, rest, hparts, hstar, hpattern⟩ := exists_parts pattern.toList
  obtain ⟨hfirst, hrest⟩ := List.forall_mem_cons.mp hstar
  have hescape : ∀ part ∈ rest, ('*' :: part).flatMap escapeText
      = ['.', '*'] ++ part.flatMap escapeChar := fun part hpart => by
    rw [List.flatMap_cons, flatMap_escapeText (hrest part hpart)]
    rfl
  rw [regexText, String.toList_ofList, literals, hparts, List.map_cons,
    intercalate_cons_eq_flatMap, List.flatMap_map, hpattern,
    List.flatMap_append, flatMap_escapeText hfirst, List.flatMap_assoc,
    List.flatMap_congr hescape]
  rfl

-- ============================================================= reading

/-- What is read for a character of a pattern. -/
def partOf (c : Char) : Part :=
  if c = '*' then
    { pattern := .many (.set (dotSet {})) 0 none true, depth := 1 }
  else { pattern := .literal [c] }

theorem literal_default (c : Char) :
    ({} : Flags).literal c = .literal [c] := by
  have hset : ({} : Flags).foldSet (CharSet.single c)
      = ⟨[⟨c.toNat, c.toNat⟩]⟩ := by
    simp [Flags.foldSet, CharSet.single, CharSet.range]
  rw [Flags.literal, hset, Pattern.ofSet, CharSet.only?]
  simp

/-- An escape of a special character is that character. -/
theorem readEscape_special {c : Char} (h : isSpecial c = true)
    (rest : List Char) :
    readEscape {} (c :: rest) = some (.literal c, rest) := by
  have hchars : "\\.+*?()|[]\x7b\x7d^$#&-~".toList
      = ['\\', '.', '+', '*', '?', '(', ')', '|', '[', ']', '{', '}', '^',
        '$', '#', '&', '-', '~'] := rfl
  rw [isSpecial, hchars, List.contains_iff_mem] at h
  simp only [List.mem_cons, List.not_mem_nil, or_false] at h
  rcases h with rfl | rfl | rfl | rfl | rfl | rfl | rfl | rfl | rfl | rfl
    | rfl | rfl | rfl | rfl | rfl | rfl | rfl | rfl <;> rfl

/-- What is written for a character is read as that character. -/
theorem readSingle_escapeChar (c : Char) (rest : List Char) :
    readSingle { rest := escapeChar c ++ rest }
      = some ({ pattern := .literal [c] }, { rest := rest }) := by
  rw [escapeChar]
  split
  case isTrue h =>
      simp only [readSingle, List.cons_append, List.nil_append,
        readEscape_special h, literal_default]
      rfl
  case isFalse h =>
      rw [List.singleton_append]
      unfold readSingle
      split
      case h_1 heq => cases heq
      case h_7 heq =>
          cases heq
          simp only [literal_default]
      -- the other cases are those of special characters
      all_goals
        rename_i heq
        cases heq
        exact absurd rfl h

/-- The characters that begin no part of their own. -/
def sequenceMarks : List Char := ['|', ')', '*', '+', '?', '{', '(']

/-- A part is read from where there is no mark. -/
theorem readSequence_single {c : Char} (h : c ∉ sequenceMarks)
    (rest : List Char) (fuel : Nat) (parts : List Part) :
    readSequence (fuel + 1) parts { rest := c :: rest }
      = (readSingle { rest := c :: rest }).bind
        fun (p, s) => readSequence fuel (p :: parts) s := by
  rw [readSequence]
  dsimp only
  split
  case h_1 heq => cases heq
  case h_9 => rfl
  all_goals
    rename_i heq
    cases heq
    exact absurd (by decide) h

/-- A character that is escaped where it has to be is read as itself. -/
theorem readSequence_escapeChar (c : Char) (rest : List Char) (fuel : Nat)
    (parts : List Part) :
    readSequence (fuel + 1) parts { rest := escapeChar c ++ rest }
      = readSequence fuel ({ pattern := .literal [c] } :: parts)
        { rest := rest } := by
  have hfirst : ∃ d more, escapeChar c = d :: more ∧ d ∉ sequenceMarks := by
    rw [escapeChar]
    split
    case isTrue => exact ⟨'\\', [c], rfl, by decide⟩
    case isFalse h =>
        refine ⟨c, [], rfl, fun hmem => h ?_⟩
        simp only [sequenceMarks, List.mem_cons, List.not_mem_nil,
          or_false] at hmem
        rcases hmem with rfl | rfl | rfl | rfl | rfl | rfl | rfl <;> rfl
  have hread := readSingle_escapeChar c rest
  obtain ⟨d, more, hd, hmark⟩ := hfirst
  rw [hd, List.cons_append] at hread ⊢
  rw [readSequence_single hmark, hread]
  rfl

/-- A dot with a star is read as any run of characters, unless a question mark
makes it a lazy one. -/
theorem readSequence_dotStar {rest : List Char} (h : rest.head? ≠ some '?')
    (fuel : Nat) (parts : List Part) :
    readSequence (fuel + 2) parts { rest := '.' :: '*' :: rest }
      = readSequence fuel (partOf '*' :: parts) { rest := rest } := by
  have hdot : readSingle { rest := '.' :: '*' :: rest }
      = some ({ pattern := .ofSet (dotSet {}) }, { rest := '*' :: rest }) :=
    rfl
  have hlazy : dropLazy rest = (true, rest) := by
    rw [dropLazy.eq_def]
    split
    case h_1 => exact absurd rfl h
    case h_2 => rfl
  have hmany : Pattern.repetition (.ofSet (dotSet {})) 0 none true
      = .many (.set (dotSet {})) 0 none true := by decide
  have hskip : ({} : Flags).skip ('*' :: rest) = '*' :: rest := rfl
  rw [readSequence_single (by decide), hdot]
  show readSequence (fuel + 1) ({ pattern := .ofSet (dotSet {}) } :: parts)
    { rest := '*' :: rest } = _
  rw [readSequence]
  simp only [hskip, hlazy, repeatLast]
  simp [partOf, hmany]

/-- Nothing in the expression of a pattern is a question mark that is read
as one. -/
theorem head?_escapeText (cs : List Char) :
    (cs.flatMap escapeText ++ ['$']).head? ≠ some '?' := by
  cases cs with
  | nil => decide
  | cons c cs =>
      rw [List.flatMap_cons, escapeText]
      split
      · simp
      · rw [escapeChar]
        split
        case isTrue => simp
        case isFalse h =>
            simp only [List.cons_append, List.head?_cons, ne_eq,
              Option.some.injEq]
            rintro rfl
            exact h rfl

/-- What is written for a pattern, up to the end of the text, is read as
the parts of its characters and an anchor. -/
theorem readSequence_escapeText (cs : List Char) (fuel : Nat)
    (hfuel : 2 * cs.length + 2 ≤ fuel) (parts : List Part) :
    readSequence fuel parts { rest := cs.flatMap escapeText ++ ['$'] }
      = some (Regex.sequence ({ pattern := .assertion .textEnd }
        :: ((cs.map partOf).reverse ++ parts)), { rest := [] }) := by
  induction cs generalizing fuel parts with
  | nil =>
      obtain ⟨fuel, rfl⟩ := Nat.exists_eq_add_of_le' hfuel
      have hend : readSingle { rest := ['$'] }
          = some ({ pattern := .assertion .textEnd }, { rest := [] }) := rfl
      show readSequence (fuel + 1 + 1) parts { rest := ['$'] } = _
      rw [readSequence_single (by decide), hend]
      show readSequence (fuel + 1) _ { rest := [] } = _
      rw [readSequence]
      rfl
  | cons c cs ih =>
      obtain ⟨fuel, rfl⟩ : ∃ n, fuel = n + 2 := ⟨fuel - 2, by
        rw [List.length_cons] at hfuel; omega⟩
      rw [List.length_cons] at hfuel
      rw [List.flatMap_cons, List.append_assoc, List.map_cons,
        List.reverse_cons, List.append_assoc, List.singleton_append]
      by_cases hc : c = '*'
      · subst hc
        exact (readSequence_dotStar (head?_escapeText cs) fuel parts).trans
          (ih fuel (by omega) _)
      · have hpart : partOf c = { pattern := .literal [c] } := if_neg hc
        rw [escapeText, if_neg hc, hpart, readSequence_escapeChar]
        exact ih (fuel + 1) (by omega) _

/-- What the expression of a pattern is read as. -/
def expression (pattern : String) : Pattern :=
  .concat (.assertion .textStart
    :: (pattern.toList.map fun c => (partOf c).pattern)
      ++ [.assertion .textEnd])

/-- A sequence of two parts or more. -/
theorem sequence_cons_concat (last first : Part) (parts : List Part) :
    Regex.sequence (last :: (parts ++ [first]))
      = { pattern := .concat
            ((first :: parts.reverse ++ [last]).map (·.pattern))
          depth := ((last :: (parts ++ [first])).map (·.depth)).foldl
            Nat.max 0 + 1 } := by
  cases parts <;> simp [Regex.sequence]

/-- The greatest depth of some parts. -/
theorem foldl_max_le {depths : List Nat} {bound start : Nat}
    (h : ∀ d ∈ depths, d ≤ bound) (hstart : start ≤ bound) :
    depths.foldl Nat.max start ≤ bound := by
  induction depths generalizing start with
  | nil => exact hstart
  | cons d depths ih =>
      obtain ⟨hd, hdepths⟩ := List.forall_mem_cons.mp h
      exact ih hdepths (Nat.max_le.mpr ⟨hstart, hd⟩)

/-- An expression is longer than its pattern, by the anchors at least. -/
theorem length_regexText (pattern : String) :
    pattern.toList.length + 2 ≤ (regexText pattern).toList.length := by
  have hescape : ∀ cs : List Char,
      cs.length ≤ (cs.flatMap escapeText).length := by
    intro cs
    induction cs with
    | nil => exact Nat.le_refl 0
    | cons c cs ih =>
        have hc : 1 ≤ (escapeText c).length := by
          rw [escapeText, escapeChar]
          split
          · decide
          · split <;> simp
        rw [List.flatMap_cons, List.length_append, List.length_cons]
        omega
  have hpattern := hescape pattern.toList
  rw [toList_regexText, List.length_cons, List.length_append,
    List.length_singleton]
  omega

/-- The parts of an expression, the last one first. -/
def partsBack (pattern : String) : List Regex.Part :=
  { pattern := .assertion .textEnd }
    :: ((pattern.toList.map partOf).reverse
      ++ [{ pattern := .assertion .textStart }])

/-- What the parts of an expression are as one. -/
theorem sequence_partsBack (pattern : String) :
    (Regex.sequence (partsBack pattern)).pattern = expression pattern
      ∧ (Regex.sequence (partsBack pattern)).depth ≤ 2 := by
  have hdepth : ∀ d ∈ (partsBack pattern).map (·.depth), d ≤ 1 := by
    intro d hd
    obtain ⟨p, hp, rfl⟩ := List.mem_map.mp hd
    simp only [partsBack, List.mem_cons, List.mem_append, List.mem_reverse,
      List.mem_map, List.not_mem_nil, or_false] at hp
    rcases hp with rfl | ⟨c, -, rfl⟩ | rfl
    · decide
    · rw [partOf]
      split <;> simp
    · decide
  have hle := foldl_max_le hdepth (Nat.zero_le 1)
  rw [partsBack] at hle ⊢
  rw [sequence_cons_concat]
  refine ⟨?_, Nat.succ_le_succ hle⟩
  rw [List.reverse_reverse, expression]
  simp [Function.comp_def]

/-- The expression of a pattern can be read, whatever the pattern. -/
theorem read?_regexText (pattern : String) :
    read? (regexText pattern) = some (expression pattern) := by
  have hlen := length_regexText pattern
  have hfirst : ∀ rest : List Char, readSingle { rest := '^' :: rest }
      = some ({ pattern := .assertion .textStart }, { rest := rest }) :=
    fun _ => rfl
  have hread : ∀ fuel, 2 * pattern.toList.length + 2 ≤ fuel →
      readSequence (fuel + 1) [] { rest := (regexText pattern).toList }
        = some (Regex.sequence (partsBack pattern), { rest := [] }) := by
    intro fuel hfuel
    rw [toList_regexText, readSequence_single (by decide), hfirst]
    exact readSequence_escapeText pattern.toList fuel hfuel _
  obtain ⟨hpattern, hdepth⟩ := sequence_partsBack pattern
  have hlimit : (Regex.sequence (partsBack pattern)).depth ≤ depthLimit :=
    hdepth.trans (by decide)
  rw [read?]
  dsimp only
  rw [readAlternatives, hread _ (by omega)]
  simp [alternatives, hlimit, hpattern]

-- ============================================================ matching

/-- The set of a dot leaves out the line feed only. -/
theorem has_dotSet (c : Char) : (dotSet {}).has c = true ↔ c ≠ '\n' := by
  have hset : dotSet {} = ⟨[⟨0, 9⟩, ⟨11, lastCode⟩]⟩ := by decide
  have hcode : c.toNat ≤ lastCode := by
    have hvalid : c.toNat.isValidChar := c.valid
    simp only [Nat.isValidChar] at hvalid
    simp only [lastCode]
    omega
  have hfeed : c = '\n' ↔ c.toNat = 10 := by
    rw [← Char.toNat_inj]
    rfl
  rw [hset, CharSet.has, CharSet.hasCode, ne_eq, hfeed]
  simp only [List.any_cons, List.any_nil, Span.has, Bool.or_false,
    Bool.or_eq_true, Bool.and_eq_true, decide_eq_true_eq]
  omega

section

variable {text : Array Char} {pattern : List Char} {places : List Nat}
  {i k : Nat}

/-- One step of a stretch. -/
def Passes (text : Array Char) (i k : Nat) : Prop :=
  (∃ c, text[i]? = some c ∧ c ≠ '\n') ∧ k = i + 1

/-- A dot passes over one character, which is any but a line feed. -/
theorem mem_ends_dot :
    k ∈ (Pattern.set (dotSet {})).ends text places
      ↔ ∃ i ∈ places, Passes text i k := by
  have hany : ∀ i : Nat, text[i]?.any (dotSet {}).has = true
      ↔ ∃ c, text[i]? = some c ∧ c ≠ '\n' := fun i => by
    rw [Option.any_eq_true]
    exact exists_congr fun c => and_congr_right fun _ => has_dotSet c
  simp only [Pattern.ends, List.mem_map, List.mem_filter, hany, Passes]
  constructor
  · rintro ⟨i, ⟨hi, hc⟩, rfl⟩
    exact ⟨i, hi, hc, rfl⟩
  · rintro ⟨i, hi, hc, rfl⟩
    exact ⟨i, ⟨hi, hc⟩, rfl⟩

theorem mem_ends_literal {c : Char} :
    k ∈ (Pattern.literal [c]).ends text places
      ↔ ∃ i ∈ places, text[i]? = some c ∧ k = i + 1 := by
  simp only [Pattern.ends, List.mem_filterMap, afterLiteral?,
    Option.ite_none_right_eq_some, beq_iff_eq, Option.some.injEq]
  exact exists_congr fun i => and_congr_right fun _ =>
    and_congr_right fun _ => eq_comm

/-- A place and the character there, in what is left of the text. -/
theorem drop_eq_cons_iff {c : Char} {rest : List Char} :
    text.toList.drop i = c :: rest
      ↔ text[i]? = some c ∧ text.toList.drop (i + 1) = rest := by
  rw [← Array.getElem?_toList]
  by_cases hi : i < text.toList.length
  · rw [List.drop_eq_getElem_cons hi, List.getElem?_eq_getElem hi]
    simp
  · rw [List.drop_of_length_le (Nat.le_of_not_lt hi),
      List.getElem?_eq_none (Nat.le_of_not_lt hi)]
    simp

/-- Where a stretch may end so that the rest fits. -/
theorem exists_passes_iff :
    (∃ k, Relation.ReflTransGen (Passes text) i k ∧ k ≤ text.size
        ∧ Fits pattern (text.toList.drop k))
      ↔ i ≤ text.size ∧ Fits ('*' :: pattern) (text.toList.drop i) := by
  constructor
  · rintro ⟨k, hik, hk, h⟩
    induction hik using Relation.ReflTransGen.head_induction_on with
    | refl => exact ⟨hk, .star [] (by simp) h⟩
    | @head i j hij _ ih =>
        obtain ⟨⟨c, hc, hfeed⟩, rfl⟩ := hij
        have hlt := (Array.getElem?_eq_some_iff.mp hc).1
        rw [drop_eq_cons_iff.mpr ⟨hc, rfl⟩, fits_star_cons_iff]
        exact ⟨Nat.le_of_lt hlt, .inr ⟨hfeed, ih.2⟩⟩
  · rintro ⟨hi, h⟩
    generalize htail : text.toList.drop i = tail at h
    induction tail generalizing i with
    | nil => exact ⟨i, .refl, hi, htail ▸ fits_star_nil_iff.mp h⟩
    | cons c tail ih =>
        rcases fits_star_cons_iff.mp h with h | ⟨hfeed, h⟩
        · exact ⟨i, .refl, hi, htail ▸ h⟩
        · obtain ⟨hc, hrest⟩ := drop_eq_cons_iff.mp htail
          have hlt := (Array.getElem?_eq_some_iff.mp hc).1
          obtain ⟨k, hk, hend⟩ := ih hlt hrest h
          exact ⟨k, hk.head ⟨⟨c, hc, hfeed⟩, rfl⟩, hend⟩

/-- The characters of a pattern lead from a place to the end of the text
if what is left of the text there fits them. -/
theorem size_mem_endsOfAll_iff :
    text.size ∈ Pattern.endsOfAll text
        (pattern.map fun c => (partOf c).pattern) places
      ↔ ∃ i ∈ places, i ≤ text.size ∧ Fits pattern (text.toList.drop i) := by
  induction pattern generalizing places with
  | nil =>
      simp only [List.map_nil, Pattern.endsOfAll_nil, fits_nil_iff,
        List.drop_eq_nil_iff, Array.length_toList]
      constructor
      · exact fun h => ⟨_, h, Nat.le_refl _, Nat.le_refl _⟩
      · rintro ⟨i, hi, hle, hge⟩
        exact Nat.le_antisymm hge hle ▸ hi
  | cons c pattern ih =>
      rw [List.map_cons, Pattern.endsOfAll_cons, ih]
      by_cases hc : c = '*'
      · subst hc
        have hmem : ∀ k, k ∈ (partOf '*').pattern.ends text places
            ↔ ∃ i ∈ places, Relation.ReflTransGen (Passes text) i k :=
          fun k => mem_reach_iff (fun _ _ => mem_ends_dot)
            (fun i j hij => by
              obtain ⟨⟨c, hc, -⟩, rfl⟩ := hij
              have := (Array.getElem?_eq_some_iff.mp hc).1
              omega) places
        constructor
        · rintro ⟨k, hk, hle, h⟩
          obtain ⟨i, hi, hik⟩ := (hmem k).mp hk
          exact ⟨i, hi, exists_passes_iff.mp ⟨k, hik, hle, h⟩⟩
        · rintro ⟨i, hi, h⟩
          obtain ⟨k, hik, hle, h⟩ := exists_passes_iff.mpr h
          exact ⟨k, (hmem k).mpr ⟨i, hi, hik⟩, hle, h⟩
      · have hpart : (partOf c).pattern = .literal [c] := by
          rw [partOf, if_neg hc]
        simp only [hpart, mem_ends_literal, fits_char_iff hc]
        constructor
        · rintro ⟨_, ⟨i, hi, hchar, rfl⟩, hle, h⟩
          exact ⟨i, hi, by omega, _, drop_eq_cons_iff.mpr ⟨hchar, rfl⟩, h⟩
        · rintro ⟨i, hi, -, rest, hdrop, h⟩
          obtain ⟨hchar, rfl⟩ := drop_eq_cons_iff.mp hdrop
          have hlt := (Array.getElem?_eq_some_iff.mp hchar).1
          exact ⟨i + 1, ⟨i, hi, hchar, rfl⟩, hlt, h⟩

end

/-- The expression of a pattern matches what fits the pattern. -/
theorem isMatch_expression_iff (pattern text : String) :
    (expression pattern).isMatch text = true
      ↔ Fits pattern.toList text.toList := by
  set cs := text.toList.toArray with hcs
  -- the anchors leave the matches from the start to the end
  have hstart : (Pattern.assertion .textStart).ends cs
      (List.range (cs.size + 1)) = [0] := by
    rw [Pattern.ends, List.range_succ_eq_map, List.filter_cons_of_pos rfl,
      List.filter_map, List.filter_eq_nil_iff.mpr, List.map_nil]
    exact fun _ _ h => by simp [Assertion.holds] at h
  have hends : (expression pattern).ends cs (List.range (cs.size + 1))
      = (Pattern.endsOfAll cs
          (pattern.toList.map fun c => (partOf c).pattern) [0]).filter
        (· == cs.size) := by
    rw [expression, Pattern.ends_concat, List.cons_append,
      Pattern.endsOfAll_cons, hstart, Pattern.endsOfAll_append,
      Pattern.endsOfAll_cons, Pattern.endsOfAll_nil]
    rfl
  have hfits : (∃ i ∈ [0], i ≤ cs.size
      ∧ Fits pattern.toList (cs.toList.drop i))
      ↔ Fits pattern.toList text.toList := by
    simp [hcs]
  rw [Pattern.isMatch, ← hcs, hends, ← hfits, ← size_mem_endsOfAll_iff]
  simp

end Overlay.Wildcard
