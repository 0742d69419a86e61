/-
Filters that search lines for expressions: one that keeps the lines in which a
match is, and one that edits them by a row of instructions.

Expressions are written in an older way here, where brackets that group, bars
and limits stand behind a backslash; `modernExpression` writes them in the way
of `Regex.parse?`. With `extended`, most of this falls away. A match begins as
early as it can, and of the ways it can go on from there the first is taken.
-/
import Overlay.CommandLine.Filter
import Overlay.Regex.Room

namespace Overlay.CommandLine

open Text

-- ===== expressions

/-- The expression that matches a character and nothing else. -/
def literalExpression (c : Char) : List Char :=
  if Regex.isMeta c then ['\\', c] else [c]

/-- A set in brackets up to its end. Only classes, ranges and a first
circumflex mean something in it. -/
def setExpression :
    (fuel : Nat) → (first : Bool) → List Char → Option (List Char × List Char)
  | 0, _, _ => none
  | _, _, [] => none
  | fuel + 1, _, '[' :: ':' :: rest => do
    let (name, rest) ← splitAtText? [':', ']'] rest
    let (others, rest) ← setExpression fuel false rest
    return ("[:".toList ++ name ++ ":]".toList ++ others, rest)
  | fuel + 1, first, c :: rest => do
    if c == ']' && !first then return ([']'], rest)
    let (others, rest) ← setExpression fuel false rest
    return ((if c == '-' then ['-'] else literalExpression c) ++ others, rest)

/-- An expression in the way of `Regex.parse?`. `atStart` says whether nothing
that could be repeated stands before. -/
def modernExpression (extended : Bool) :
    (fuel : Nat) → (atStart : Bool) → List Char → Option (List Char)
  | 0, _, _ => none
  | _, _, [] => some []
  | fuel + 1, atStart, cs => do
    let go (part : List Char) (atStart : Bool) (rest : List Char) :
        Option (List Char) := do
      return part ++ (← modernExpression extended fuel atStart rest)
    match cs with
    | '[' :: '^' :: rest =>
      let (set, rest) ← setExpression (rest.length + 1) true rest
      go ("[^".toList ++ set) false rest
    | '[' :: rest =>
      let (set, rest) ← setExpression (rest.length + 1) true rest
      go ('[' :: set) false rest
    | '\\' :: c :: rest =>
      if "(|".toList.contains c && !extended then go [c] true rest
      else if ")\x7b\x7d+?".toList.contains c && !extended then
        go [c] false rest
      else if "wWsSbB<>n".toList.contains c then go ['\\', c] false rest
      else go (literalExpression c) false rest
    | c :: rest =>
      if c == '.' then go ['.'] false rest
      else if c == '*' then
        go (if atStart then ['\\', '*'] else ['*']) false rest
      else if extended && "(|".toList.contains c then go [c] true rest
      else if extended && ")\x7b\x7d+?^$".toList.contains c then
        go [c] (c == '^') rest
      else if c == '^' && atStart then go ['^'] true rest
      else if c == '$'
          && (rest.isEmpty
            || ["\\)".toList, "\\|".toList].contains (rest.take 2)) then
        go ['$'] false rest
      else go (literalExpression c) false rest
    | [] => return []

/-- The pattern of an expression. -/
def expression? (extended ignoreCase : Bool) (cs : List Char) :
    Option Regex.Pattern := do
  let modern ← modernExpression extended (cs.length + 1) true cs
  Regex.parse?
    (String.ofList ((if ignoreCase then "(?i)".toList else []) ++ modern))

/-- Where the groups of a match are: the first and the last place of each. -/
abbrev MatchGroups := List (Nat × Nat × Nat)

/-- Goes on after some more rounds of a pattern, or as many as it takes. A
round that leads nowhere is the last one. -/
def walkRounds {α : Type}
    (step : Nat → MatchGroups → (Nat → MatchGroups → Option α) → Option α)
    (greedy : Bool) (next : Nat → MatchGroups → Option α) :
    (rounds : Nat) → Nat → MatchGroups → Option α
  | 0, place, groups => next place groups
  | rounds + 1, place, groups =>
    let more := fun _ : Unit => step place groups fun after groups =>
      if after == place then none
      else walkRounds step greedy next rounds after groups
    if greedy then (more ()) <|> next place groups
    else next place groups <|> more ()

/-- Goes on after exactly some rounds of a pattern. -/
def walkExactly {α : Type}
    (step : Nat → MatchGroups → (Nat → MatchGroups → Option α) → Option α)
    (next : Nat → MatchGroups → Option α) :
    (rounds : Nat) → Nat → MatchGroups → Option α
  | 0, place, groups => next place groups
  | rounds + 1, place, groups =>
    step place groups (walkExactly step next rounds)

/-- The first way in which a pattern matches from a place and what comes next
goes on from its end. -/
def walk {α : Type} (text : Array Char) : Regex.Pattern → Nat → MatchGroups →
    (Nat → MatchGroups → Option α) → Option α
  | .empty, place, groups, next => next place groups
  | .literal cs, place, groups, next =>
    (Regex.afterLiteral? text cs place).bind fun place => next place groups
  | .set s, place, groups, next =>
    if text[place]?.any s.has then next (place + 1) groups else none
  | .assertion a, place, groups, next =>
    if a.holds text place then next place groups else none
  | .seq a b, place, groups, next =>
    walk text a place groups fun place groups => walk text b place groups next
  | .alt a b, place, groups, next =>
    walk text a place groups next <|> walk text b place groups next
  | .many p min max greedy, place, groups, next =>
    let more := match max with
      | some n => n - min
      | none => text.size + 1
    walkExactly (walk text p) (walkRounds (walk text p) greedy next more)
      min place groups
  | .group index p, start, groups, next =>
    walk text p start groups fun place groups =>
      next place ((index + 1, start, place) :: groups)

/-- The first match at or after a place, which is its group zero. -/
def firstMatch? (p : Regex.Pattern) (text : Array Char) (start : Nat) :
    Option MatchGroups :=
  (List.range (text.size + 1 - start)).findSome? fun n =>
    walk text p (start + n) [] fun place groups =>
      some ((0, start + n, place) :: groups)

/-- The text of a group; empty if it took no part. -/
def groupText (text : Array Char) (groups : MatchGroups) (index : Nat) :
    List Char :=
  match groups.find? (·.1 == index) with
  | some (_, start, stop) => (text.extract start stop).toList
  | none => []

-- ===== searching

/-- The lines in which a match is. -/
def linesWithMatch (r : FilterRequest) (cs : List Char) : Option Filtered := do
  let expressions ← (match r.values 'e', r.operands with
    | [], own :: _ => some (splitOn '\n' own)
    | [], [] => none
    | values, _ => some values)
  let patterns ← expressions.mapM fun e =>
    let e := if r.has 'F' then e.flatMap literalExpression else e
    expression? (r.has 'E' || r.has 'F') (r.has 'i') e
  let hits (line : List Char) : List MatchGroups :=
    patterns.filterMap fun p =>
      (firstMatch? p line.toArray 0).filter fun groups =>
      !r.has 'x' || groupText line.toArray groups 0 == line
  let found := ((linesOf cs).zipIdx 1).filter fun (line, _) =>
    (hits line).isEmpty == r.has 'v'
  let shown :=
    if r.has 'q' then []
    else if r.has 'c' then textOf [(toString found.length).toList]
    else textOf (found.flatMap fun (line, number) =>
      let parts :=
        if r.has 'o' then (hits line).map (groupText line.toArray · 0)
        else [line]
      parts.map
        ((if r.has 'n' then (toString number).toList ++ [':'] else []) ++ ·))
  return { status := if found.isEmpty then 1 else 0, printed := shown }

-- ===== editing

/-- A part of what is put in the place of a match. -/
inductive ReplacementPart
  | char (c : Char)
  | group (index : Nat)

/-- What an instruction does to a line. -/
inductive LineEdit
  /-- It replaces the match of a number and, with `all`, those after it. With
  `shows`, a line with a match is printed. -/
  | substitute (p : Regex.Pattern) (parts : List ReplacementPart) (number : Nat)
      (all shows : Bool)
  | exchange (pairs : List (Char × Char))
  | delete
  | show
  | quit

/-- Which line is meant. -/
inductive LineAddress
  | number (n : Nat)
  | last
  | matching (p : Regex.Pattern)

/-- An instruction for the lines from one to another one, or for all lines. -/
structure LineInstruction where
  first : Option LineAddress := none
  last : Option LineAddress := none
  /-- It is for the other lines. -/
  inverted : Bool := false
  edit : LineEdit

/-- The text up to a mark that no backslash stands before. -/
def upTo? (mark : Char) :
    (inSet : Bool) → List Char → Option (List Char × List Char)
  | _, [] => none
  | inSet, '\\' :: c :: rest =>
    (upTo? mark inSet rest).map fun (part, rest) =>
      ((if c == mark && mark != '&' then [c] else ['\\', c]) ++ part, rest)
  | inSet, c :: rest =>
    if c == mark && !inSet then some ([], rest)
    else
      (upTo? mark (if inSet then c != ']' else c == '[') rest).map
        fun (part, rest) => (c :: part, rest)

/-- The parts of a replacement. -/
def replacementParts : List Char → List ReplacementPart
  | [] => []
  | '&' :: rest => .group 0 :: replacementParts rest
  | '\\' :: c :: rest =>
    (if isAsciiDigit c then .group (c.toNat - '0'.toNat)
      else
        .char (if c == 'n' then '\n' else if c == 't' then '\t' else c))
          :: replacementParts rest
  | c :: rest => .char c :: replacementParts rest

/-- The text of a replacement. -/
def replacementText (text : Array Char) (groups : MatchGroups)
    (parts : List ReplacementPart) : List Char :=
  parts.flatMap fun
    | .char c => [c]
    | .group index => groupText text groups index

/-- The text from a place on with matches replaced, and whether one was.
`number` counts down to the first match that is replaced, and `last` is where
the match before ended. -/
def substituteFrom (p : Regex.Pattern) (parts : List ReplacementPart)
    (all : Bool) (text : Array Char) :
    (fuel : Nat) → (place number : Nat) → (last : Option Nat) → List Char × Bool
  | 0, place, _, _ => ((text.extract place text.size).toList, false)
  | fuel + 1, place, number, last =>
    match firstMatch? p text place with
    | none => ((text.extract place text.size).toList, false)
    | some groups =>
      let (start, stop) := match groups.head? with
        | some (_, start, stop) => (start, stop)
        | none => (place, place)
      let before := (text.extract place start).toList
      if start == stop && last == some start then
        if start < text.size then
          let (others, found) :=
            substituteFrom p parts all text fuel (start + 1) number none
          (before ++ (text.extract start (start + 1)).toList ++ others, found)
        else (before, false)
      else if number > 1 then
        let (others, found) :=
          substituteFrom p parts all text fuel stop (number - 1) (some stop)
        (before ++ (text.extract start stop).toList ++ others, found)
      else
        let shown := replacementText text groups parts
        if all then
          let (others, _) :=
            substituteFrom p parts all text fuel stop 1 (some stop)
          (before ++ shown ++ others, true)
        else (before ++ shown ++ (text.extract stop text.size).toList, true)

/-- The address that a text begins with. -/
def lineAddress? (extended : Bool) (cs : List Char) :
    Option (Option LineAddress × List Char) :=
  match cs with
  | '$' :: rest => some (some .last, rest)
  | '/' :: rest => do
    let (e, rest) ← upTo? '/' false rest
    return (some (.matching (← expression? extended false e)), rest)
  | cs =>
    match cs.takeWhile isAsciiDigit with
    | [] => some (none, cs)
    | digits => some ((count? digits).map .number, cs.dropWhile isAsciiDigit)

/-- The instruction that a text begins with. -/
def lineEdit? (extended : Bool) (cs : List Char) :
    Option (LineEdit × List Char) :=
  match cs with
  | 's' :: mark :: rest => do
    let (e, rest) ← upTo? mark false rest
    let (replacement, rest) ← upTo? mark false rest
    let flags :=
      rest.takeWhile fun c => "gpiI".toList.contains c || isAsciiDigit c
    let digits := flags.filter isAsciiDigit
    let number := if digits.isEmpty then 1 else (count? digits).getD 1
    let p ← expression? extended (flags.contains 'i' || flags.contains 'I') e
    return (.substitute p (replacementParts replacement) number
      (flags.contains 'g')
      (flags.contains 'p'), rest.drop flags.length)
  | 'y' :: mark :: rest => do
    let (first, rest) ← upTo? mark false rest
    let (second, rest) ← upTo? mark false rest
    guard (first.length == second.length)
    return (.exchange (first.zip second), rest)
  | 'd' :: rest => some (.delete, rest)
  | 'p' :: rest => some (.show, rest)
  | 'q' :: rest => some (.quit, rest)
  | _ => none

/-- Whether a character stands between instructions. -/
def separatesEdits (c : Char) : Bool := c == ';' || c == ' ' || c == '\n'

/-- The instructions of a text. -/
def lineInstructions? (extended : Bool) :
    (fuel : Nat) → List Char → Option (List LineInstruction)
  | 0, _ => none
  | fuel + 1, cs => do
    match cs.dropWhile separatesEdits with
    | [] => return []
    | cs =>
      let (first, rest) ← lineAddress? extended cs
      let (second, rest) ← (match first, rest with
        | some _, ',' :: rest => lineAddress? extended rest
        | _, rest => some (none, rest))
      let rest := rest.dropWhile (· == ' ')
      let (inverted, rest) := match rest with
        | '!' :: rest => (true, rest)
        | rest => (false, rest)
      let (edit, rest) ← lineEdit? extended rest
      guard (rest.head?.all separatesEdits)
      return ⟨first, second, inverted, edit⟩
        :: (← lineInstructions? extended fuel rest)

/-- A line, its number, and whether it is the last one. -/
structure NumberedLine where
  text : List Char
  number : Nat
  isLast : Bool

/-- Whether an address means a line. -/
def LineAddress.means (l : NumberedLine) : LineAddress → Bool
  | .number n => l.number == n
  | .last => l.isLast
  | .matching p => (firstMatch? p l.text.toArray 0).isSome

/-- Whether an instruction is for a line, and whether its lines go on after it.
`inside` says whether they have begun before. -/
def LineInstruction.applies (i : LineInstruction) (l : NumberedLine)
    (inside : Bool) : Bool × Bool :=
  let (hit, goesOn) := match i.first, i.last with
    | none, _ => (true, false)
    | some first, none => (first.means l, false)
    | some first, some (.number n) =>
      if inside then (l.number ≤ n, l.number < n)
      else (first.means l, first.means l && l.number < n)
    | some first, some other =>
      if inside then (true, !other.means l) else (first.means l, first.means l)
  (hit != i.inverted, goesOn)

/-- What becomes of a line: its text, what was printed of it, and how the
filter goes on. -/
structure EditedLine where
  text : List Char
  printed : List (List Char) := []
  deleted : Bool := false
  quits : Bool := false

/-- A line after some instructions, and whether the lines of each go on. -/
def editLine (l : NumberedLine) :
    List (LineInstruction × Bool) → EditedLine → EditedLine × List Bool
  | [], e => (e, [])
  | (i, inside) :: rest, e =>
    if e.deleted || e.quits then (e, inside :: rest.map (·.2))
    else
      let (applies, goesOn) := i.applies { l with text := e.text } inside
      let e :=
        if applies then
          match i.edit with
          | .delete => { e with deleted := true }
          | .show => { e with printed := e.printed ++ [e.text] }
          | .quit => { e with quits := true }
          | .exchange pairs =>
            { e with text := e.text.map fun c =>
              ((pairs.find? (·.1 == c)).map (·.2)).getD c }
          | .substitute p parts number all shows =>
            let text := e.text.toArray
            let (changed, found) :=
              substituteFrom p parts all text (2 * text.size + 2) 0 number none
            { e with
              text := changed
              printed := e.printed ++ if found && shows then [changed] else [] }
        else e
      let (e, others) := editLine l rest e
      (e, goesOn :: others)

/-- What is printed of some lines. -/
def editLines (silent : Bool) (instructions : List LineInstruction) :
    (inside : List Bool) → List NumberedLine → List (List Char)
  | _, [] => []
  | inside, l :: rest =>
    let (e, inside) := editLine l (instructions.zip inside) { text := l.text }
    e.printed ++ (if e.deleted || silent then [] else [e.text])
      ++ if e.quits then [] else editLines silent instructions inside rest

/-- The text with its lines edited. -/
def edited (r : FilterRequest) (cs : List Char) : Option Filtered := do
  let script := match r.values 'e', r.operands with
    | [], own :: _ => own
    | values, _ => ['\n'].intercalate values
  let instructions ←
    lineInstructions? (r.has 'E' || r.has 'r') (script.length + 2) script
  let lines := linesOf cs
  let numbered := (lines.zipIdx 1).map fun (line, n) =>
    (⟨line, n, n == lines.length⟩ : NumberedLine)
  let shown :=
    textOf (editLines (r.has 'n') instructions
      (instructions.map fun _ => false) numbered)
  return {
    printed := if cs.getLast? == some '\n' then shown else shown.dropLast }

/-- The filter of a name. -/
def filter? (name : String) : Option Filter :=
  let own (r : FilterRequest) : Nat := if r.has 'e' then 0 else 1
  match name with
  | "grep" =>
    some {
      plain := "vicqoxnEF", valued := "e", own := own,
      apply := linesWithMatch }
  | "sed" => some { plain := "nEr", valued := "e", own := own, apply := edited }
  | name => plainFilter? name

end Overlay.CommandLine
