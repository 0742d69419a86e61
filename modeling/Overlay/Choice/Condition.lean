/-
Conditions on the values of a document. A condition is a list of alternatives,
parted by `||`, each a list of tests, parted by `&&`. A test compares a field
with a literal, looks for it in a list, or matches it with a regular
expression. Where both sides are numbers they are compared as numbers, and else
as texts; a field without a value passes no test.
-/
import Overlay.Choice.Snapshot
import Overlay.Decimal.Read
import Overlay.Regex.Room
import Overlay.Text.Nested

namespace Overlay

open Text

/-- A comparison. -/
inductive Relation
  | greater
  | less
  | greaterEqual
  | lessEqual
  | equal
  | unequal
  deriving DecidableEq, Repr

/-- What a field is tested for. -/
inductive Test
  | compare (r : Relation) (literal : String)
  | oneOf (literals : List String)
  | isMatch (pattern : Regex.Pattern)

/-- A test of a field. -/
structure FieldTest where
  field : String
  test : Test

/-- A condition: alternatives, each of tests that must all be passed. -/
structure Condition where
  alternatives : List (List FieldTest)

namespace Condition

-- ===== reading

/-- Why a text is no condition. -/
inductive Fault
  /-- There is nothing between two marks. -/
  | empty
  | malformed (text : String)
  | invalidRegex (pattern : String)
  deriving DecidableEq, Repr

/-- The text of a fault. -/
def Fault.message : Fault → String
  | .empty => "empty condition"
  | .malformed text => "cannot parse condition '" ++ text ++ "'"
  | .invalidRegex pattern => "invalid regex '" ++ pattern ++ "'"

/-- A character that may stand in a field, or begin a literal. -/
def isPlain (c : Char) : Bool :=
  !isBlank c && c != '<' && c != '>' && c != '=' && c != '!'

/-- Whether a text is on one line. -/
def isOneLine (cs : List Char) : Bool := !cs.contains '\n'

/-- A literal without the white space and the quotes around it. -/
def unquote (cs : List Char) : List Char :=
  let inner (q : Char) (cs : List Char) : Option (List Char) :=
    (after? [q] cs).bind (before? [q])
  let trimmed := trimList cs
  (inner '\'' trimmed <|> inner '"' trimmed).getD trimmed

/-- The text after white space, of which there must be some. -/
def afterBlanks (cs : List Char) : Option (List Char) :=
  match cs with
  | c :: rest => if isBlank c then some (rest.dropWhile isBlank) else none
  | [] => none

/-- The text after a word with white space on both sides. -/
def afterWord (word : String) (cs : List Char) : Option (List Char) := do
  afterBlanks (← after? word.toList (← afterBlanks cs))

/-- The literals of a list; empty ones are dropped. -/
def listLiterals (cs : List Char) : List String :=
  (((splitTop [','] {} cs).map unquote).filter (!·.isEmpty)).map String.ofList

/-- A list in brackets. -/
def readList (rest : List Char) : Option (List String) := do
  let items ← before? [']'] (← after? ['['] (← afterWord "in" rest))
  guard (isOneLine items)
  return listLiterals items

/-- The text of a regular expression. -/
def readPattern (rest : List Char) : Option (List Char) := do
  let pattern ← afterWord "matches" rest
  guard (!pattern.isEmpty && isOneLine pattern)
  return unquote pattern

/-- The sign of a comparison, and the text after it. -/
def readRelation : List Char → Option (Relation × List Char)
  | '>' :: '=' :: rest => some (.greaterEqual, rest)
  | '<' :: '=' :: rest => some (.lessEqual, rest)
  | '=' :: '=' :: rest => some (.equal, rest)
  | '!' :: '=' :: rest => some (.unequal, rest)
  | '>' :: rest => some (.greater, rest)
  | '<' :: rest => some (.less, rest)
  | _ => none

/-- A comparison with a literal. -/
def readComparison (rest : List Char) : Option Test := do
  let (relation, rest) ← readRelation (rest.dropWhile isBlank)
  let literal := rest.dropWhile isBlank
  guard (literal.head?.any isPlain && isOneLine literal)
  return .compare relation (String.ofList (unquote literal))

/-- What follows a field. -/
def readTest (text rest : List Char) : Except Fault Test :=
  match readList rest with
  | some literals => .ok (.oneOf literals)
  | none =>
    match readPattern rest with
    | some pattern =>
      match Regex.parse? (String.ofList pattern) with
      | some p => .ok (.isMatch p)
      | none => .error (.invalidRegex (String.ofList pattern))
    | none =>
      match readComparison rest with
      | some test => .ok test
      | none => .error (.malformed (String.ofList text))

/-- A test of a field. -/
def readFieldTest (cs : List Char) : Except Fault FieldTest :=
  let text := trimList cs
  if text.isEmpty then .error .empty
  else
    let field := text.takeWhile isPlain
    if field.isEmpty then .error (.malformed (String.ofList text))
    else
      do return ⟨String.ofList field, ← readTest text (text.drop field.length)⟩

/-- Reads a condition. -/
def parse (text : String) : Except Fault Condition := do
  let alternatives ← (splitTop ['|', '|'] {} text.toList).mapM fun part =>
    (splitTop ['&', '&'] {} part).mapM readFieldTest
  return ⟨alternatives⟩

-- ===== evaluation

/-- Both texts as numbers, white space around them aside. -/
def numbers? (a b : String) : Option (Float × Float) := do
  let x ← Decimal.real? (trimList a.toList)
  let y ← Decimal.real? (trimList b.toList)
  return (x, y)

/-- Whether two values are equal, as numbers if both are, and else as texts. -/
def equalValues (a b : String) : Bool :=
  match numbers? a b with
  | some (x, y) => x == y
  | none => a == b

/-- Whether two numbers are in an order; texts that are no numbers are in none.
-/
def inOrder (order : Float → Float → Bool) (a b : String) : Bool :=
  (numbers? a b).any fun (x, y) => order x y

/-- Whether a value is in a relation to a literal. -/
def relates (value : String) (r : Relation) (literal : String) : Bool :=
  match r with
  | .equal => equalValues value literal
  | .unequal => !equalValues value literal
  | .greater => inOrder (fun x y => x > y) value literal
  | .less => inOrder (fun x y => x < y) value literal
  | .greaterEqual => inOrder (fun x y => x ≥ y) value literal
  | .lessEqual => inOrder (fun x y => x ≤ y) value literal

/-- Whether a value passes a test. -/
def passes (value : String) : Test → Bool
  | .compare r literal => relates value r literal
  | .oneOf literals => literals.any (equalValues value)
  | .isMatch p => p.isMatch value

/-- Whether the field of a test has a value that passes it. -/
def testHolds (s : Snapshot) (t : FieldTest) : Bool :=
  (s.get? t.field).any (passes · t.test)

/-- Whether a condition holds. -/
def holds (s : Snapshot) (c : Condition) : Bool :=
  c.alternatives.any fun tests => tests.all (testHolds s)

/-- The fields of a condition, in order. -/
def fields (c : Condition) : List String := c.alternatives.flatten.map (·.field)

end Condition

end Overlay
