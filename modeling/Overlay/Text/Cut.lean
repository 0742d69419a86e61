/-
Cutting texts: trimming, splitting at a separator, and joining. Everything
works on lists of characters; the forms on `String` below only convert.

A split keeps every part, empty ones too, so that joining the parts with the
separator gives the text back (`intercalate_splitOn`).
-/
import Overlay.Text.CharClass

namespace Overlay.Text

-- ===== trimming

/-- Drops the longest tail of characters with `p`. -/
def dropEndWhile (p : Char → Bool) (cs : List Char) : List Char :=
  (cs.reverse.dropWhile p).reverse

/-- Drops white space at both ends. -/
def trimList (cs : List Char) : List Char :=
  dropEndWhile isBlank (cs.dropWhile isBlank)

/-- A text without the white space at its ends. -/
def trim (s : String) : String := String.ofList (trimList s.toList)

/-- Whether a text is empty or white space only. -/
def isBlankText (s : String) : Bool := s.toList.all isBlank

-- ===== splitting

/-- The parts between the characters with `p`; one more part than there are
such characters. -/
def splitWhere (p : Char → Bool) : List Char → List (List Char)
  | [] => [[]]
  | c :: cs =>
    if p c then [] :: splitWhere p cs
    else
      match splitWhere p cs with
      | [] => [[c]]
      | part :: parts => (c :: part) :: parts

/-- The parts between the occurrences of `sep`. -/
def splitOn (sep : Char) (cs : List Char) : List (List Char) :=
  splitWhere (· == sep) cs

/-- The text before and after the first `sep`. -/
def splitFirst? (sep : Char) : List Char → Option (List Char × List Char)
  | [] => none
  | c :: cs =>
    if c == sep then some ([], cs)
    else (splitFirst? sep cs).map fun (before, after) => (c :: before, after)

/-- The text before and after the last `sep`. -/
def splitLast? (sep : Char) (cs : List Char) : Option (List Char × List Char) :=
  (splitFirst? sep cs.reverse).map fun (after, before) =>
    (before.reverse, after.reverse)

/-- The rest of the text after `lead`, if the text begins with it. -/
def after? : (lead text : List Char) → Option (List Char)
  | [], text => some text
  | _ :: _, [] => none
  | l :: lead, c :: text => if l == c then after? lead text else none

/-- The text before `tail`, if the text ends with it. -/
def before? (tail text : List Char) : Option (List Char) :=
  (after? tail.reverse text.reverse).map List.reverse

/-- The text before and after the first occurrence of `mark`. -/
def splitAtText? (mark : List Char) (cs : List Char) :
    Option (List Char × List Char) :=
  match after? mark cs with
  | some rest => some ([], rest)
  | none =>
    match cs with
    | [] => none
    | c :: cs =>
      (splitAtText? mark cs).map fun (before, rest) => (c :: before, rest)

/-- Whether `mark` occurs in the text. -/
def contains (mark cs : List Char) : Bool := (splitAtText? mark cs).isSome

/-- The parts of a text between the occurrences of `sep`. -/
def parts (sep : Char) (s : String) : List String :=
  (splitOn sep s.toList).map String.ofList

/-- The texts with `sep` between them. -/
def join (sep : String) (parts : List String) : String := sep.intercalate parts

-- ===== laws

theorem splitWhere_ne_nil (p : Char → Bool) (cs : List Char) :
    splitWhere p cs ≠ [] := by
  cases cs with
  | nil => simp [splitWhere]
  | cons c cs =>
    by_cases h : p c <;> simp only [splitWhere, h]
    · simp
    · cases splitWhere p cs <;> simp

/-- Splitting loses nothing: joining the parts gives the text back. -/
theorem intercalate_splitOn (sep : Char) (cs : List Char) :
    [sep].intercalate (splitOn sep cs) = cs := by
  induction cs with
  | nil => rfl
  | cons c cs ih =>
    unfold splitOn at ih ⊢
    have hne := splitWhere_ne_nil (· == sep) cs
    match hs : splitWhere (· == sep) cs with
    | [] => exact absurd hs hne
    | part :: parts =>
      rw [hs] at ih
      by_cases h : c = sep
      · subst h
        simp [splitWhere, hs, List.intercalate] at ih ⊢
        exact ih
      · have hb : (c == sep) = false := by simp [h]
        cases parts <;>
          simp_all [splitWhere, List.intercalate, List.intersperse]

end Overlay.Text
