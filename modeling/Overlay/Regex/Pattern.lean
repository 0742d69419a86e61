/-
Patterns and where they match. A pattern takes a set of places in a text to the
set of places where a match from one of them may end. Sets keep the work in
hand: a repetition goes on from new places only, so it ends after as many
rounds as the text has places.

Sequences and alternatives lean to the right: the first part of a sequence is
no sequence, and the first of some alternatives is no alternative. The
constructors `concat`, `alternation`, `repetition` and `ofSet` keep to this
form, and they simplify: literals that meet become one, alternatives that are
single characters or sets become one set, and what all alternatives begin with
is taken out of them.
-/
import Overlay.Text.CharSet

namespace Overlay.Regex

open Text

/-- Conditions on a place in a text. -/
inductive Assertion
  | textStart
  | textEnd
  /-- The start of a line; with `crlf`, a carriage return ends a line too. -/
  | lineStart (crlf : Bool)
  | lineEnd (crlf : Bool)
  /-- A word character stands on one side only; with `wide`, words are not
  limited to ASCII. -/
  | boundary (wide : Bool)
  | noBoundary (wide : Bool)
  | wordStart (wide : Bool)
  | wordEnd (wide : Bool)
  /-- No word character stands before. -/
  | wordStartHalf (wide : Bool)
  /-- No word character stands behind. -/
  | wordEndHalf (wide : Bool)
  deriving DecidableEq, Repr

/-- A pattern. -/
inductive Pattern
  | empty
  | literal (cs : List Char)
  | set (s : CharSet)
  | assertion (a : Assertion)
  | seq (first rest : Pattern)
  | alt (first others : Pattern)
  /-- At least `min` times, and at most `max` times if there is a limit. What
  is preferred, the longest or the shortest match, does not bear on where
  matches may end. -/
  | many (p : Pattern) (min : Nat) (max : Option Nat) (greedy : Bool)
  /-- A group with a number of its own. -/
  | group (index : Nat) (p : Pattern)
  deriving DecidableEq, Repr, Inhabited

namespace Pattern

-- ===== sequences

/-- The parts of a sequence; any other pattern is its only part. -/
def parts : Pattern → List Pattern
  | .seq first rest => first :: rest.parts
  | p => [p]

/-- The sequence of some parts. -/
def ofParts : List Pattern → Pattern
  | [] => .empty
  | [p] => p
  | p :: ps => .seq p (ofParts ps)

/-- Parts without empty ones, and with literals that meet as one. -/
def joinLiterals : List Pattern → List Pattern
  | [] => []
  | .empty :: ps => joinLiterals ps
  | .literal a :: ps =>
    match joinLiterals ps with
    | .literal b :: rest => .literal (a ++ b) :: rest
    | rest => .literal a :: rest
  | p :: ps => p :: joinLiterals ps

/-- Some patterns one after the other. -/
def concat (ps : List Pattern) : Pattern :=
  ofParts (joinLiterals (ps.flatMap parts))

-- ===== sets and alternatives

/-- The pattern that matches nowhere. -/
def fail : Pattern := .set CharSet.none

/-- One character out of a set. -/
def ofSet (s : CharSet) : Pattern :=
  match s.only? with
  | some c => .literal [c]
  | none => .set s

/-- The alternatives of a pattern; any other pattern is its only one. -/
def branches : Pattern → List Pattern
  | .alt first others => first :: others.branches
  | p => [p]

/-- The pattern of some alternatives. -/
def ofBranches : List Pattern → Pattern
  | [] => fail
  | [p] => p
  | p :: ps => .alt p (ofBranches ps)

/-- The character of a literal of one. -/
def char? : Pattern → Option Char
  | .literal [c] => some c
  | _ => none

/-- The set of a pattern that is one. -/
def set? : Pattern → Option CharSet
  | .set s => some s
  | _ => none

/-- The parts of a sequence of two or more, and no parts of any other pattern.
-/
def sequenceParts : Pattern → List Pattern
  | .seq first rest => first :: rest.parts
  | _ => []

/-- What two lists begin with. -/
def commonStart (ps qs : List Pattern) : List Pattern :=
  ((ps.zip qs).takeWhile fun (p, q) => p == q).map (·.1)

/-- How many patterns a pattern is made of, itself included. -/
def nodes : Pattern → Nat
  | .seq a b => a.nodes + b.nodes + 1
  | .alt a b => a.nodes + b.nodes + 1
  | .many p _ _ _ => p.nodes + 1
  | .group _ p => p.nodes + 1
  | _ => 1

/-- Alternatives, with what sequences among them begin with taken out as often
as `rounds`. -/
def alternationWithin : (rounds : Nat) → List Pattern → Pattern
  | 0, ps => ofBranches ps
  | rounds + 1, ps =>
    let ps := ps.flatMap branches
    match ps with
    | [] => fail
    | [p] => p
    | p :: others =>
      match ps.mapM char? with
      | some cs => ofSet (CharSet.ofCodes (cs.map (·.toNat)))
      | none =>
        match ps.mapM set? with
        | some sets => ofSet (CharSet.unions sets)
        | none =>
          let start :=
            others.foldl (fun s q => commonStart s q.sequenceParts)
              p.sequenceParts
          if start.isEmpty then ofBranches ps
          else
            let rests := ps.map fun q => concat (q.parts.drop start.length)
            concat (start ++ [alternationWithin rounds rests])

/-- Some patterns as alternatives. Each round takes a part out of them, so
there are at most as many rounds as patterns. -/
def alternation (ps : List Pattern) : Pattern :=
  alternationWithin (ps.foldl (fun n p => n + p.nodes) 1) ps

-- ===== lengths and repetitions

/-- The length of a set's members in bytes, the shortest and the longest one. -/
def setLengths (s : CharSet) : Option (Nat × Nat) :=
  match s.spans.head?, s.spans.getLast? with
  | some a, some b =>
    some ((Char.ofNat a.first).utf8Size, (Char.ofNat b.last).utf8Size)
  | _, _ => none

/-- The least length of a match in bytes; none where a part matches nowhere. -/
def minLength : Pattern → Option Nat
  | .empty => some 0
  | .literal cs => some (cs.map Char.utf8Size).sum
  | .set s => (setLengths s).map (·.1)
  | .assertion _ => some 0
  | .seq a b => do return (← a.minLength) + (← b.minLength)
  | .alt a b => do return Nat.min (← a.minLength) (← b.minLength)
  | .many p min _ _ => p.minLength.map (· * min)
  | .group _ p => p.minLength

/-- The greatest length of a match in bytes; none where there is no limit or a
part matches nowhere. -/
def maxLength : Pattern → Option Nat
  | .empty => some 0
  | .literal cs => some (cs.map Char.utf8Size).sum
  | .set s => (setLengths s).map (·.2)
  | .assertion _ => some 0
  | .seq a b => do return (← a.maxLength) + (← b.maxLength)
  | .alt a b => do return Nat.max (← a.maxLength) (← b.maxLength)
  | .many p _ max _ => do return (← p.maxLength) * (← max)
  | .group _ p => p.maxLength

/-- Whether all matches are empty. -/
def isEmptyOnly (p : Pattern) : Bool := p.maxLength == some 0

/-- A repetition. What can only match the empty text is repeated once at most.
-/
def repetition (p : Pattern) (min : Nat) (max : Option Nat) (greedy : Bool) :
    Pattern :=
  let min := if p.isEmptyOnly then Nat.min min 1 else min
  let max := if p.isEmptyOnly then some (Nat.min (max.getD 1) 1) else max
  if min == 0 && max == some 0 then .empty
  else if min == 1 && max == some 1 then p
  else .many p min max greedy

-- ===== anchors

/-- Whether each match begins where the assertion holds, as far as the form of
the pattern tells. -/
def beginsWith (a : Assertion) : Pattern → Bool
  | .assertion b => a == b
  | .seq p q => p.beginsWith a || (p.isEmptyOnly && q.beginsWith a)
  | .alt p q => p.beginsWith a && q.beginsWith a
  | .many p min _ _ => min > 0 && p.beginsWith a
  | .group _ p => p.beginsWith a
  | _ => false

/-- Whether each match ends where the assertion holds, as far as the form of
the pattern tells. -/
def endsWith (a : Assertion) : Pattern → Bool
  | .assertion b => a == b
  | .seq p q => q.endsWith a || (q.isEmptyOnly && p.endsWith a)
  | .alt p q => p.endsWith a && q.endsWith a
  | .many p min _ _ => min > 0 && p.endsWith a
  | .group _ p => p.endsWith a
  | _ => false

end Pattern

-- ===== matching

/-- Whether the character at a place is a word character. -/
def isWordAt (text : Array Char) (wide : Bool) (place : Nat) : Bool :=
  match text[place]? with
  | some c => if wide || Text.isAscii c then Text.isWord c else false
  | none => false

/-- Whether the character before a place is a word character. -/
def isWordBefore (text : Array Char) (wide : Bool) (place : Nat) : Bool :=
  place > 0 && isWordAt text wide (place - 1)

/-- The character before a place. -/
def before? (text : Array Char) (place : Nat) : Option Char :=
  if place == 0 then none else text[place - 1]?

/-- Whether an assertion holds at a place. -/
def Assertion.holds (text : Array Char) (place : Nat) : Assertion → Bool
  | .textStart => place == 0
  | .textEnd => place == text.size
  | .lineStart crlf =>
    place == 0 || before? text place == some '\n'
      || (crlf && before? text place == some '\r' && text[place]? != some '\n')
  | .lineEnd crlf =>
    place == text.size
      || (text[place]? == some '\n'
        && !(crlf && before? text place == some '\r'))
      || (crlf && text[place]? == some '\r')
  | .boundary wide => isWordBefore text wide place != isWordAt text wide place
  | .noBoundary wide => isWordBefore text wide place == isWordAt text wide place
  | .wordStart wide => !isWordBefore text wide place && isWordAt text wide place
  | .wordEnd wide => isWordBefore text wide place && !isWordAt text wide place
  | .wordStartHalf wide => !isWordBefore text wide place
  | .wordEndHalf wide => !isWordAt text wide place

/-- Places of two lists, each once. -/
def merge (a b : List Nat) : List Nat := a ++ b.filter (!a.contains ·)

/-- The places after exactly `n` rounds. -/
def rounds (step : List Nat → List Nat) : (n : Nat) → List Nat → List Nat
  | 0, places => places
  | n + 1, places => if places.isEmpty then [] else rounds step n (step places)

/-- The places after at most `n` more rounds from the new ones, along with
those seen before. -/
def reach (step : List Nat → List Nat) :
    (n : Nat) → (seen new : List Nat) → List Nat
  | 0, seen, _ => seen
  | n + 1, seen, new =>
    match (step new).filter (!seen.contains ·) with
    | [] => seen
    | found => reach step n (seen ++ found) found

/-- The place after a literal at a place. -/
def afterLiteral? (text : Array Char) :
    (cs : List Char) → (place : Nat) → Option Nat
  | [], place => some place
  | c :: cs, place =>
    if text[place]? == some c then afterLiteral? text cs (place + 1) else none

/-- The places where a match from one of some places may end. -/
def Pattern.ends (text : Array Char) : Pattern → List Nat → List Nat
  | .empty, places => places
  | .literal cs, places => places.filterMap (afterLiteral? text cs)
  | .set s, places => (places.filter fun i => text[i]?.any s.has).map (· + 1)
  | .assertion a, places => places.filter fun i => a.holds text i
  | .seq a b, places => b.ends text (a.ends text places)
  | .alt a b, places => merge (a.ends text places) (b.ends text places)
  | .many p min max _, places =>
    let start := rounds (p.ends text) min places
    let more := match max with
      | some n => n - min
      | none => text.size + 1
    reach (p.ends text) more start start
  | .group _ p, places => p.ends text places

/-- Whether a pattern matches somewhere in a text. -/
def Pattern.isMatch (p : Pattern) (text : String) : Bool :=
  let cs := text.toList.toArray
  !(p.ends cs (List.range (cs.size + 1))).isEmpty

end Overlay.Regex
