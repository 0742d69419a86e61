/-
Expressions on integers in a script: signs between numbers and the names of
variables. A sign that binds weaker stands at an outer level, and signs of one
level are taken from left to right. What is compared or decided is one if it is
true, and zero if not.
-/
import Overlay.CommandLine.Shell.Word
import Overlay.Power

namespace Overlay.CommandLine.Shell

open Text

/-- A token of an expression. -/
inductive IntegerToken
  | number (n : Nat)
  | name (text : String)
  | sign (text : String)
  deriving DecidableEq

/-- The signs, those of which another one is a beginning first. -/
def integerSigns : List String :=
  ["||", "&&", "==", "!=", "<=", ">=", "<<", ">>", "|", "^", "&", "<", ">",
    "+", "-", "*", "/", "%", "(", ")", "!", "~"]

/-- The levels of signs between two values, the outermost first. -/
def integerLevels : List (List String) :=
  [["||"], ["&&"], ["|"], ["^"], ["&"], ["==", "!="], ["<", ">", "<=", ">="],
    ["<<", ">>"], ["+", "-"], ["*", "/", "%"]]

/-- The tokens of an expression. -/
def integerTokens : (fuel : Nat) → List Char → Option (List IntegerToken)
  | 0, _ => none
  | _, [] => some []
  | fuel + 1, c :: rest =>
    if c == ' ' || c == '\t' || c == '\n' then integerTokens fuel rest
    else if isAsciiDigit c then
      let digits := (c :: rest).takeWhile isAsciiDigit
      (integerTokens fuel ((c :: rest).dropWhile isAsciiDigit)).map
        (IntegerToken.number ((String.ofList digits).toNat?.getD 0) :: ·)
    else if startsVariable c then
      let name := (c :: rest).takeWhile continuesVariable
      (integerTokens fuel ((c :: rest).dropWhile continuesVariable)).map
        (IntegerToken.name (String.ofList name) :: ·)
    else
      match integerSigns.findSome? fun sign =>
          (after? sign.toList (c :: rest)).map fun rest => (sign, rest) with
      | some (sign, rest) =>
        (integerTokens fuel rest).map (IntegerToken.sign sign :: ·)
      | none => none

/-- The integer of something that is true or not. -/
def integerOf (holds : Bool) : Int := if holds then 1 else 0

/-- The value of a sign between two values; a division by zero has none. -/
def applySign? (sign : String) (a b : Int) : Option Int :=
  match sign with
  | "||" => some (integerOf (a != 0 || b != 0))
  | "&&" => some (integerOf (a != 0 && b != 0))
  | "==" => some (integerOf (a == b))
  | "!=" => some (integerOf (a != b))
  | "<" => some (integerOf (a < b))
  | ">" => some (integerOf (a > b))
  | "<=" => some (integerOf (a ≤ b))
  | ">=" => some (integerOf (a ≥ b))
  | "<<" => some (a * (twoTo b.toNat : Nat))
  | ">>" => some (a / (twoTo b.toNat : Nat))
  | "+" => some (a + b)
  | "-" => some (a - b)
  | "*" => some (a * b)
  | "/" => if b == 0 then none else some (a.tdiv b)
  | "%" => if b == 0 then none else some (a.tmod b)
  | _ => none

mutual

/-- The value of some levels, and the tokens after it. -/
def readLevels (value : String → Int) :
    (fuel : Nat) → (levels : List (List String)) →
    List IntegerToken → Option (Int × List IntegerToken)
  | 0, _, _ => none
  | fuel + 1, [], ts =>
    match ts with
    | .number n :: rest => some (n, rest)
    | .name text :: rest => some (value text, rest)
    | .sign "(" :: rest =>
      match readLevels value fuel integerLevels rest with
      | some (n, .sign ")" :: rest) => some (n, rest)
      | _ => none
    | .sign "-" :: rest =>
      (readLevels value fuel [] rest).map fun (n, rest) => (-n, rest)
    | .sign "+" :: rest => readLevels value fuel [] rest
    | .sign "!" :: rest =>
      (readLevels value fuel [] rest).map fun (n, rest) =>
        (integerOf (n == 0), rest)
    | .sign "~" :: rest =>
      (readLevels value fuel [] rest).map fun (n, rest) => (-n - 1, rest)
    | _ => none
  | fuel + 1, level :: levels, ts => do
    let (first, rest) ← readLevels value fuel levels ts
    readLevel value fuel level levels first rest

/-- The rest of a level after the value so far. -/
def readLevel (value : String → Int) : (fuel : Nat) → (level : List String) →
    (levels : List (List String)) → Int → List IntegerToken →
      Option (Int × List IntegerToken)
  | 0, _, _, _, _ => none
  | fuel + 1, level, levels, soFar, ts =>
    match ts with
    | .sign sign :: rest =>
      if level.contains sign then do
        let (next, rest) ← readLevels value fuel levels rest
        readLevel value fuel level levels (← applySign? sign soFar next) rest
      else some (soFar, ts)
    | ts => some (soFar, ts)

end

/-- The value of an expression, where names have values. -/
def integer? (value : String → Int) (text : List Char) : Option Int := do
  let ts ← integerTokens (text.length + 1) text
  if ts.isEmpty then return 0
  let (n, rest) ← readLevels value
    ((ts.length + 1) * (2 * integerLevels.length + 2)) integerLevels ts
  guard rest.isEmpty
  return n

end Overlay.CommandLine.Shell
