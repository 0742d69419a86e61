/-
Reading regular expressions. What is read: characters and escapes, `.`, classes
in brackets with ranges, nested classes and set operations, groups with and
without names and flags, alternatives, repetitions, and assertions. There are
no back references and no assertions on the text around.

Flags hold from where they are set to the end of their group. Where white space
and comments are passed over, they may stand inside of an escape, of a count
and of a class too. A malformed expression is none; the reader does not say
why.

Each part is read along with its depth: how many groups, repetitions,
sequences, alternatives and classes are around the innermost thing in it.
Sequences and alternatives count from two parts on.
-/
import Overlay.Decimal.Read
import Overlay.Regex.Pattern
import Overlay.Regex.Property

namespace Overlay.Regex

open Text

-- ===== flags

/-- The flags in force. -/
structure Flags where
  /-- The case of letters does not matter (`i`). -/
  fold : Bool := false
  /-- `^` and `$` stand at lines (`m`). -/
  lines : Bool := false
  /-- `.` includes the line feed (`s`). -/
  dotAll : Bool := false
  /-- Repetitions take as little as they can, unless they are marked to take
  much (`U`). -/
  reluctant : Bool := false
  /-- White space and comments are passed over (`x`). -/
  verbose : Bool := false
  /-- Classes are not limited to ASCII (`u`). -/
  wide : Bool := true
  /-- A carriage return ends a line too (`R`). -/
  crlf : Bool := false

namespace Flags

/-- Drops white space and comments, which run to the end of the line. -/
def skipComments : (fuel : Nat) → List Char → List Char
  | 0, cs => cs
  | fuel + 1, cs =>
    match cs.dropWhile isBlank with
    | '#' :: rest => skipComments fuel (rest.dropWhile (· != '\n'))
    | rest => rest

/-- The text after white space and comments, if they are passed over. -/
def skip (flags : Flags) (cs : List Char) : List Char :=
  if flags.verbose then skipComments (cs.length + 1) cs else cs

/-- The next character that is not passed over. One look at it does not tell a
comment from what stands behind its mark, and sees the first character there.
-/
def peek (flags : Flags) (cs : List Char) : Option Char :=
  if !flags.verbose then cs.head?
  else
    match cs.dropWhile isBlank with
    | [] => cs.head?
    | '#' :: rest => (rest.dropWhile isBlank).head? <|> cs.head?
    | c :: _ => some c

/-- The characters of a class up to the first other one, passing over what is
passed over behind each, and the rest of the text. -/
def collect (flags : Flags) (holds : Char → Bool) :
    (fuel : Nat) → List Char → List Char × List Char
  | 0, cs => ([], cs)
  | _, [] => ([], [])
  | fuel + 1, c :: cs =>
    if holds c then
      let (found, rest) := flags.collect holds fuel (flags.skip cs)
      (c :: found, rest)
    else ([], c :: cs)

/-- A set under flags: with members in either case, if case does not matter. -/
def foldSet (flags : Flags) (s : CharSet) : CharSet :=
  if !flags.fold then s else if flags.wide then s.folded else s.foldedAscii

/-- A set with a sign: first its case is folded, then it is negated. Only sets
of all characters can be negated. -/
def signedSet? (flags : Flags) (negated : Bool) (s : CharSet) :
    Option CharSet :=
  if !negated then some (flags.foldSet s)
  else if flags.wide then some (flags.foldSet s).compl
  else none

/-- The pattern of a character that stands for itself. -/
def literal (flags : Flags) (c : Char) : Pattern :=
  .ofSet (flags.foldSet (CharSet.single c))

/-- Sets or clears one flag. -/
def set? (flags : Flags) (on : Bool) (c : Char) : Option Flags :=
  match c with
  | 'i' => some { flags with fold := on }
  | 'm' => some { flags with lines := on }
  | 's' => some { flags with dotAll := on }
  | 'U' => some { flags with reluctant := on }
  | 'x' => some { flags with verbose := on }
  | 'u' => some { flags with wide := on }
  | 'R' => some { flags with crlf := on }
  | _ => none

end Flags

-- ===== escapes

/-- What an escape stands for. -/
inductive Escape
  | literal (c : Char)
  | set (s : CharSet)
  | assertion (a : Assertion)

/-- The characters that have a meaning of their own. -/
def isMeta (c : Char) : Bool := "\\.+*?()|[]\x7b\x7d^$#&-~".toList.contains c

/-- Whether a backslash may stand before a character that means itself. -/
def isEscapable (c : Char) : Bool :=
  isMeta c
    || (isAscii c && !isAsciiDigit c && !isAsciiLetter c
      && c != '<' && c != '>')

/-- A hexadecimal digit. -/
def isHexDigit (c : Char) : Bool :=
  isAsciiDigit c || ('a' ≤ asciiLower c && asciiLower c ≤ 'f')

/-- The character with a hexadecimal number. -/
def charOfHex (digits : List Char) : Option Char :=
  let n := Decimal.ofDigits 16 digits
  if !digits.isEmpty && n.isValidChar then some (Char.ofNat n) else none

/-- Exactly so many hexadecimal digits. -/
def hexDigits (flags : Flags) :
    (count : Nat) → List Char → Option (List Char × List Char)
  | 0, cs => some ([], cs)
  | _ + 1, [] => none
  | count + 1, c :: cs =>
    if isHexDigit c then
      (hexDigits flags count (flags.skip cs)).map fun (digits, rest) =>
        (c :: digits, rest)
    else none

/-- The character of a hexadecimal escape: digits in braces, or as many as
`count`. Two digits that are a byte have to be one of ASCII, unless classes are
wide. -/
def hexEscape (flags : Flags) (count : Nat) (cs : List Char) :
    Option (Char × List Char) :=
  match flags.skip cs with
  | '{' :: rest =>
    match flags.collect isHexDigit (rest.length + 1) (flags.skip rest) with
    | (digits, '}' :: rest) =>
      (charOfHex digits).map fun c => (c, flags.skip rest)
    | _ => none
  | cs => do
    let (digits, rest) ← hexDigits flags count cs
    let c ← charOfHex digits
    guard (flags.wide || count != 2 || isAscii c)
    return (c, rest)

/-- The set of a class letter. Outside of `u`, it has ASCII characters only,
and cannot be negated. -/
def letterSet (flags : Flags) (negated : Bool) (s : CharSet) : Option CharSet :=
  if flags.wide then some (if negated then s.compl else s)
  else if negated then none
  else some (s ∩ CharSet.range 0 0x7F)

/-- The set of a property after `\p`: one character, or a name in braces. -/
def propertyEscape (flags : Flags) (negated : Bool) (cs : List Char) :
    Option (Escape × List Char) := do
  guard flags.wide
  let (name, rest) ← match flags.skip cs with
    | '{' :: rest =>
      match flags.collect (· != '}') (rest.length + 1) (flags.skip rest) with
      | (name, '}' :: rest) => some (name, rest)
      | _ => none
    | '\\' :: _ => none
    | c :: rest => some ([c], rest)
    | [] => none
  let s ← flags.signedSet? negated (← property? name)
  return (.set s, rest)

/-- The assertion of a name in `\b{name}`. -/
def boundaryNamed (wide : Bool) (name : List Char) : Option Assertion :=
  match String.ofList name with
  | "start" => some (.wordStart wide)
  | "end" => some (.wordEnd wide)
  | "start-half" => some (.wordStartHalf wide)
  | "end-half" => some (.wordEndHalf wide)
  | _ => none

/-- What `\b` stands for. A brace with a letter behind it belongs to it, any
other is a count. -/
def boundaryEscape (flags : Flags) (cs : List Char) :
    Option (Escape × List Char) :=
  match cs with
  | '{' :: rest =>
    match flags.collect (fun c => isAsciiLetter c || c == '-') (rest.length + 1)
        (flags.skip rest) with
    | (_, []) => none
    | ([], _) => some (.assertion (.boundary flags.wide), cs)
    | (name, '}' :: rest) =>
      (boundaryNamed flags.wide name).map fun a => (.assertion a, rest)
    | _ => none
  | cs => some (.assertion (.boundary flags.wide), cs)

/-- What a backslash and the text after it stand for. -/
def readEscape (flags : Flags) (cs : List Char) : Option (Escape × List Char) :=
  match cs with
  | [] => none
  | c :: rest =>
    let literal (n : Nat) : Option (Escape × List Char) :=
      some (.literal (Char.ofNat n), rest)
    let hex (count : Nat) : Option (Escape × List Char) :=
      (hexEscape flags count rest).map fun (c, rest) => (.literal c, rest)
    let letter (negated : Bool) (s : CharSet) : Option (Escape × List Char) :=
      (letterSet flags negated s).map fun s => (.set s, rest)
    match c with
    | 'x' => hex 2
    | 'u' => hex 4
    | 'U' => hex 8
    | 'p' => propertyEscape flags false rest
    | 'P' => propertyEscape flags true rest
    | 'd' => letter false (GeneralCategory.set [.decimal])
    | 'D' => letter true (GeneralCategory.set [.decimal])
    | 's' => letter false Text.Property.whiteSpace
    | 'S' => letter true Text.Property.whiteSpace
    | 'w' => letter false Text.Property.word
    | 'W' => letter true Text.Property.word
    | 'a' => literal 7
    | 'f' => literal 12
    | 't' => literal 9
    | 'n' => literal 10
    | 'r' => literal 13
    | 'v' => literal 11
    | 'A' => some (.assertion .textStart, rest)
    | 'z' => some (.assertion .textEnd, rest)
    | 'b' => boundaryEscape flags rest
    | 'B' => some (.assertion (.noBoundary flags.wide), rest)
    | '<' => some (.assertion (.wordStart flags.wide), rest)
    | '>' => some (.assertion (.wordEnd flags.wide), rest)
    | c => if isEscapable c then some (.literal c, rest) else none

-- ===== classes in brackets

/-- A set and its depth. -/
structure DeepSet where
  set : CharSet
  depth : Nat

/-- An operation on the sets to its left and right. -/
inductive SetOp
  | inter
  | diff
  | symDiff

/-- The set of an operation. -/
def SetOp.apply (a b : CharSet) : SetOp → CharSet
  | .inter => a ∩ b
  | .diff => a \ b
  | .symDiff => a.symDiff b

/-- A class so far. -/
structure ClassSoFar where
  negated : Bool
  /-- What stands before the last operation. -/
  before : Option (DeepSet × SetOp) := none
  /-- What came after it, the last item first. -/
  items : List DeepSet := []

namespace ClassSoFar

/-- The class with an item added. -/
def add (k : ClassSoFar) (s : DeepSet) : ClassSoFar :=
  { k with items := s :: k.items }

/-- The class with a character added. -/
def addChar (k : ClassSoFar) (c : Char) : ClassSoFar :=
  k.add ⟨CharSet.single c, 0⟩

/-- The items since the last operation as one. -/
def itemsSet (k : ClassSoFar) : DeepSet :=
  match k.items with
  | [] => ⟨CharSet.none, 0⟩
  | [s] => s
  | items =>
    ⟨CharSet.unions (items.map (·.set)),
      (items.map (·.depth)).foldl Nat.max 0 + 1⟩

/-- The set with the last operation carried out. -/
def value (flags : Flags) (k : ClassSoFar) : DeepSet :=
  match k.before with
  | none => k.itemsSet
  | some (a, op) =>
    let b := k.itemsSet
    ⟨op.apply (flags.foldSet a.set) (flags.foldSet b.set),
      Nat.max a.depth b.depth + 1⟩

/-- The class with an operation begun. -/
def operate (flags : Flags) (k : ClassSoFar) (op : SetOp) : ClassSoFar :=
  { k with before := some (k.value flags, op), items := [] }

/-- The finished class. -/
def close? (flags : Flags) (k : ClassSoFar) : Option DeepSet := do
  let v := k.value flags
  return ⟨← flags.signedSet? k.negated v.set, v.depth + 1⟩

end ClassSoFar

/-- A set with a name in `[:name:]`, after its first bracket, and whether it is
negated. -/
def posixClass (cs : List Char) : Option ((Bool × CharSet) × List Char) := do
  let rest ← after? [':'] cs
  let (negated, rest) := match rest with
    | '^' :: rest => (true, rest)
    | rest => (false, rest)
  let (name, rest) ← splitFirst? ':' rest
  let rest ← after? [']'] rest
  return ((negated, ← posix? (String.ofList name)), rest)

/-- A character or an escape in a class. -/
def classItem (flags : Flags) (cs : List Char) : Option (Escape × List Char) :=
  match cs with
  | '\\' :: rest => do
    match ← readEscape flags rest with
    | (.assertion _, _) => none
    | item => some item
  | c :: rest => some (.literal c, rest)
  | [] => none

/-- A character, an escape or a range in a class. A hyphen before a bracket or
before another hyphen makes no range. -/
def classRange (flags : Flags) (cs : List Char) :
    Option (CharSet × List Char) := do
  let (first, rest) ← classItem flags cs
  let rest := flags.skip rest
  let alone : Option (CharSet × List Char) :=
    match first with
    | .literal c =>
      if flags.wide || isAscii c then some (CharSet.single c, rest) else none
    | .set s => some (s, rest)
    | .assertion _ => none
  match rest with
  | '-' :: more =>
    if flags.peek more == some ']' || flags.peek more == some '-' then alone
    else do
      let (last, rest) ← classItem flags (flags.skip more)
      match first, last with
      | .literal low, .literal high =>
        guard (low ≤ high && (flags.wide || isAscii high))
        return (CharSet.range low.toNat high.toNat, rest)
      | _, _ => none
  | _ => alone

/-- The hyphens at the start of a class, and a closing bracket if it comes
first. -/
def classStart (flags : Flags) (k : ClassSoFar) (cs : List Char) :
    ClassSoFar × List Char :=
  let (hyphens, rest) := flags.collect (· == '-') (cs.length + 1) cs
  match hyphens, rest with
  | [], ']' :: rest => (k.addChar ']', flags.skip rest)
  | hyphens, rest => (hyphens.foldl (fun k c => k.addChar c) k, rest)

/-- A class that begins after its opening bracket, with its sign and its first
characters. -/
def openClass (flags : Flags) (cs : List Char) : ClassSoFar × List Char :=
  match flags.skip cs with
  | '^' :: rest => classStart flags { negated := true } (flags.skip rest)
  | rest => classStart flags { negated := false } rest

/-- The rest of a class. `outer` holds the classes around it, the innermost
first. -/
def readClassItems (flags : Flags) :
    (fuel : Nat) → (outer : List ClassSoFar) → ClassSoFar →
    List Char → Option (DeepSet × List Char)
  | 0, _, _, _ => none
  | fuel + 1, outer, k, cs =>
    match flags.skip cs with
    | [] => none
    | ']' :: rest => do
      let s ← k.close? flags
      match outer with
      | [] => return (s, rest)
      | k :: outer => readClassItems flags fuel outer (k.add s) rest
    | '[' :: rest =>
      match posixClass rest with
      | some ((negated, s), rest) => do
        let s ← flags.signedSet? negated s
        readClassItems flags fuel outer (k.add ⟨s, 0⟩) rest
      | none =>
        let (inner, rest) := openClass flags rest
        readClassItems flags fuel (k :: outer) inner rest
    | '&' :: '&' :: rest =>
      readClassItems flags fuel outer (k.operate flags .inter) rest
    | '-' :: '-' :: rest =>
      readClassItems flags fuel outer (k.operate flags .diff) rest
    | '~' :: '~' :: rest =>
      readClassItems flags fuel outer (k.operate flags .symDiff) rest
    | cs => do
      let (s, rest) ← classRange flags cs
      readClassItems flags fuel outer (k.add ⟨s, 0⟩) rest

/-- A class after its opening bracket. -/
def readClass (flags : Flags) (cs : List Char) : Option (DeepSet × List Char) :=
  let (k, rest) := openClass flags cs
  readClassItems flags (cs.length + 1) [] k rest

-- ===== repetitions

/-- A number with blanks around it. -/
def readCount (flags : Flags) (cs : List Char) : Option (Nat × List Char) :=
  let cs := cs.dropWhile isBlank
  let (digits, rest) := flags.collect isAsciiDigit (cs.length + 1) cs
  let n := Decimal.ofDigits 10 digits
  if digits.isEmpty || n ≥ twoTo 32 then none
  else some (n, rest.dropWhile isBlank)

/-- The limits of a repetition, after the opening brace. -/
def readLimits (flags : Flags) (cs : List Char) :
    Option ((Nat × Option Nat) × List Char) := do
  let (low, rest) ← readCount flags (flags.skip cs)
  match rest with
  | '}' :: rest => return ((low, some low), rest)
  | ',' :: rest =>
    match flags.skip rest with
    | '}' :: rest => return ((low, none), rest)
    | rest =>
      let (high, rest) ← readCount flags rest
      let rest ← after? ['}'] rest
      guard (low ≤ high)
      return ((low, some high), rest)
  | _ => none

/-- Drops the mark that a repetition takes as little as it can, and says
whether it takes much. -/
def dropLazy (cs : List Char) : Bool × List Char :=
  match cs with
  | '?' :: rest => (false, rest)
  | rest => (true, rest)

/-- A part of a sequence. -/
structure Part where
  pattern : Pattern
  depth : Nat := 0
  /-- It only sets flags, and cannot be repeated. -/
  silent : Bool := false

/-- Repeats the last part. Neither the start of a sequence nor a flag can be
repeated. -/
def repeatLast (min : Nat) (max : Option Nat) (greedy : Bool) :
    List Part → Option (List Part)
  | p :: parts =>
    if p.silent then none
    else
      some ({
        pattern := .repetition p.pattern min max greedy,
        depth := p.depth + 1 } :: parts)
  | [] => none

-- ===== groups

/-- Where reading stands. -/
structure Reading where
  rest : List Char
  flags : Flags := {}
  /-- The names of groups so far. -/
  names : List String := []
  /-- How many groups have a number so far. -/
  groups : Nat := 0

/-- Flags up to a colon or a closing bracket, each named once; and whether it
was the bracket. -/
def readFlags (flags : Flags) (on : Bool) (seen : List Char) :
    List Char → Option ((Flags × Bool) × List Char)
  | [] => none
  | c :: rest =>
    if c == ':' then some ((flags, false), rest)
    else if c == ')' then
      if seen.isEmpty then none else some ((flags, true), rest)
    else if c == '-' then
      match rest with
      | d :: _ =>
        if !on || d == ':' || d == ')' then none
        else readFlags flags false ('-' :: seen) rest
      | [] => none
    else if seen.contains c then none
    else do readFlags (← flags.set? on c) on (c :: seen) rest

/-- A character that may begin the name of a group. -/
def startsGroupName (c : Char) : Bool := c == '_' || isAlphabetic c

/-- A character that may stand in the name of a group. -/
def continuesGroupName (c : Char) : Bool :=
  c == '_' || c == '.' || c == '[' || c == ']' || isAlphanumeric c

/-- The name of a group up to its closing mark. -/
def readGroupName (cs : List Char) : Option (String × List Char) := do
  let (name, rest) ← splitFirst? '>' cs
  match name with
  | [] => none
  | c :: more =>
    if startsGroupName c && more.all continuesGroupName then
      some (String.ofList name, rest)
    else none

/-- The opening of a group. -/
inductive Opening
  /-- The group has a content, and a number or none. -/
  | group (index : Option Nat) (inner : Reading)
  /-- It only sets flags for what follows. -/
  | flags (after : Reading)

/-- What stands after an opening bracket. -/
def readOpening (s : Reading) : Option Opening := do
  let numbered (s : Reading) : Opening :=
    .group (some s.groups) { s with groups := s.groups + 1 }
  match s.flags.skip s.rest with
  | '?' :: rest =>
    let named := after? ['P', '<'] rest <|> after? ['<'] rest
    match rest with
    | '=' :: _ => none
    | '!' :: _ => none
    | '<' :: '=' :: _ => none
    | '<' :: '!' :: _ => none
    | _ =>
      match named with
      | some rest =>
        let (name, rest) ← readGroupName rest
        guard (!s.names.contains name)
        return numbered { s with rest := rest, names := name :: s.names }
      | none =>
        let ((flags, alone), rest) ← readFlags s.flags true [] rest
        let s := { s with rest := rest, flags := flags }
        return if alone then .flags s else .group none s
  | rest => return numbered { s with rest := rest }

-- ===== expressions

/-- The parts of a sequence, the last one first, as one. -/
def sequence : List Part → Part
  | [] => { pattern := .empty }
  | [p] => p
  | parts =>
    { pattern := .concat (parts.reverse.map (·.pattern))
      depth := (parts.map (·.depth)).foldl Nat.max 0 + 1 }

/-- Alternatives as one part. -/
def alternatives : List Part → Part
  | [p] => p
  | parts =>
    { pattern := .alternation (parts.map (·.pattern))
      depth := (parts.map (·.depth)).foldl Nat.max 0 + 1 }

/-- The set of `.`. -/
def dotSet (flags : Flags) : CharSet :=
  if flags.dotAll then CharSet.all
  else
    let ends := CharSet.single '\n'
    (if flags.crlf then ends ∪ CharSet.single '\r' else ends).compl

/-- The part of a character or escape that stands for itself, a set or an
assertion. -/
def readSingle (s : Reading) : Option (Part × Reading) :=
  let flags := s.flags
  let found (p : Pattern) (rest : List Char) : Option (Part × Reading) :=
    some ({ pattern := p }, { s with rest := rest })
  match s.rest with
  | [] => none
  | '.' :: rest =>
    if flags.wide then found (.ofSet (dotSet flags)) rest else none
  | '^' :: rest =>
    found
      (.assertion (if flags.lines then .lineStart flags.crlf else .textStart))
      rest
  | '$' :: rest =>
    found
      (.assertion (if flags.lines then .lineEnd flags.crlf else .textEnd)) rest
  | '[' :: rest => do
    let (k, rest) ← readClass flags rest
    return ({ pattern := .ofSet k.set, depth := k.depth },
      { s with rest := rest })
  | '\\' :: rest => do
    match ← readEscape flags rest with
    | (.literal c, rest) => found (flags.literal c) rest
    | (.set k, rest) => found (.ofSet k) rest
    | (.assertion a, rest) => found (.assertion a) rest
  | c :: rest => found (flags.literal c) rest

mutual

/-- Alternatives up to the end of their group. -/
def readAlternatives : (fuel : Nat) → Reading → Option (List Part × Reading)
  | 0, _ => none
  | fuel + 1, s => do
    let (p, s) ← readSequence fuel [] s
    match s.rest with
    | '|' :: rest =>
      let (ps, s) ← readAlternatives fuel { s with rest := rest }
      return (p :: ps, s)
    | _ => return ([p], s)

/-- A sequence up to a bar or the end of its group; `parts` holds what came
before, last first. -/
def readSequence :
    (fuel : Nat) → (parts : List Part) → Reading → Option (Part × Reading)
  | 0, _, _ => none
  | fuel + 1, parts, s => do
    let s := { s with rest := s.flags.skip s.rest }
    let again (min : Nat) (max : Option Nat) (rest : List Char) :
        Option (Part × Reading) := do
      let (much, rest) := dropLazy rest
      let parts ← repeatLast min max (much != s.flags.reluctant) parts
      readSequence fuel parts { s with rest := rest }
    match s.rest with
    | [] => return (sequence parts, s)
    | '|' :: _ => return (sequence parts, s)
    | ')' :: _ => return (sequence parts, s)
    | '*' :: rest => again 0 none rest
    | '+' :: rest => again 1 none rest
    | '?' :: rest => again 0 (some 1) rest
    | '{' :: rest =>
      let ((min, max), rest) ← readLimits s.flags rest
      again min max (s.flags.skip rest)
    | '(' :: rest =>
      match ← readOpening { s with rest := rest } with
      | .flags after =>
        readSequence fuel ({ pattern := .empty, silent := true } :: parts) after
      | .group index inner =>
        let (ps, after) ← readAlternatives fuel inner
        let rest ← after? [')'] after.rest
        let p := alternatives ps
        let pattern := match index with
          | some n => .group n p.pattern
          | none => p.pattern
        readSequence fuel ({ pattern, depth := p.depth + 1 } :: parts)
          { after with rest := rest, flags := s.flags }
    | _ =>
      let (p, s) ← readSingle s
      readSequence fuel (p :: parts) s

end

/-- How deep an expression may be. -/
def depthLimit : Nat := 250

/-- Reads a regular expression. -/
def read? (text : String) : Option Pattern := do
  let cs := text.toList
  let (ps, s) ← readAlternatives (2 * cs.length + 2) { rest := cs }
  let p := alternatives ps
  guard (s.rest.isEmpty && p.depth ≤ depthLimit)
  return p.pattern

end Overlay.Regex
