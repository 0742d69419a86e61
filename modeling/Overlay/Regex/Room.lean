/-
The room that a pattern takes as an automaton on bytes. A pattern is put
together twice, to be read forward and backward, and each time the states and
their links are counted; a pattern that takes more room than there is is
refused.

A state takes 32 bytes; a link out of a state that forks takes four more, and a
range of bytes out of a state that reads one of several takes eight. The links
of all other states are within them.

The states of a set share what their encodings have in common. Shared states
are kept in a small table with a place for each key; a key drives out what was
in its place, and with it the chance to share it.
-/
import Overlay.Regex.Encoded
import Overlay.Regex.Reader
import Std.Data.HashMap

namespace Overlay.Regex

open Text

-- ===== building

/-- How large an automaton is: its states, and the bytes that their links take.
-/
structure Extent where
  states : Nat := 0
  links : Nat := 0

/-- The room that an automaton takes. -/
def Extent.room (e : Extent) : Nat := 32 * e.states + e.links

/-- The room that there is. -/
def roomLimit : Nat := 10 * 1024 * 1024

/-- Work on an automaton, as long as there is room. -/
abbrev Building := StateT Extent Option

/-- Adds states, and bytes of links. -/
def grow (states bytes : Nat) : Building Unit := fun e =>
  let grown : Extent := ⟨e.states + states, e.links + bytes⟩
  if grown.room ≤ roomLimit then some ((), grown) else none

/-- Adds a state with bytes of links; gives its number. -/
def addState (bytes : Nat) : Building Nat := do
  let n := (← get).states
  grow 1 bytes
  return n

/-- Links a state to another one; only a state that forks takes room for it. -/
def link (forks : Bool) : Building Unit := if forks then grow 0 4 else pure ()

-- ===== sets

/-- A range of bytes that leads to a state. -/
structure Edge where
  range : ByteRange
  target : Nat
  deriving DecidableEq

/-- One step of a hash of 64 bits. -/
def mixWord (h w : UInt64) : UInt64 := (h ^^^ w) * 1099511628211

/-- The hash of nothing. -/
def emptyHash : UInt64 := 14695981039346656037

/-- The hash of some edges. -/
def hashEdges (edges : List Edge) : UInt64 :=
  edges.foldl (fun h e =>
    mixWord (mixWord (mixWord h e.range.first.toUInt64) e.range.last.toUInt64)
      (UInt64.ofNat e.target)) emptyHash

/-- A table of states by key, with a place for each. -/
abbrev Shared (α : Type) := Std.HashMap Nat (α × Nat)

/-- The state of a key: the one in the table, or a new one that takes its
place. -/
def sharedState [DecidableEq α] (place : Nat) (key : α) (bytes : Nat)
    (table : Shared α) : Building (Nat × Shared α) := do
  let found := match table[place]? with
    | some (k, n) => if k = key then some n else none
    | none => none
  match found with
  | some n => return (n, table)
  | none =>
    let n ← addState bytes
    return (n, table.insert place (key, n))

/-- The state that reads one of some edges. -/
def edgesState (edges : List Edge) (table : Shared (List Edge)) :
    Building (Nat × Shared (List Edge)) :=
  sharedState (hashEdges edges % 10000).toNat edges (8 * edges.length) table

/-- A state to which edges are still added: those whose targets are known, the
last one first, and the range whose target is not. -/
structure OpenState where
  edges : List Edge := []
  pending : Option ByteRange := none

/-- The state with the target of its last range known. -/
def OpenState.settle (s : OpenState) (target : Nat) : OpenState :=
  match s.pending with
  | some r => ⟨⟨r, target⟩ :: s.edges, none⟩
  | none => s

/-- Finishes the open states, the deepest first, until so many and one more are
left. -/
def settleTo (keep : Nat) (target : Nat) (table : Shared (List Edge)) :
    List OpenState → Building (List OpenState × Shared (List Edge))
  | [] => return ([], table)
  | s :: below => do
    if keep < below.length then
      let (n, table) ← edgesState (s.settle target).edges.reverse table
      settleTo keep n table below
    else return (s.settle target :: below, table)

/-- Adds a sequence of ranges below the open states that it has in common with
the one before. -/
def addSequence (final : Nat) (ranges : List ByteRange)
    (work : List OpenState × Shared (List Edge)) :
    Building (List OpenState × Shared (List Edge)) := do
  let common :=
    ((ranges.zip work.1.reverse).takeWhile fun (r, s) =>
      s.pending == some r).length
  let (states, table) ← settleTo common final work.2 work.1
  match ranges.drop common, states with
  | r :: rest, s :: below =>
    let deeper := rest.map fun r => (⟨[], some r⟩ : OpenState)
    return (deeper.reverse ++ { s with pending := some r } :: below, table)
  | _, states => return (states, table)

/-- A set beyond ASCII, read forward: states from the last byte on are shared.
-/
def buildForward (s : CharSet) : Building Unit := do
  let final ← addState 0
  let work ← (setSequences s).foldlM
    (fun work ranges => addSequence final ranges work) ([{}], {})
  let (states, table) ← settleTo 0 final work.2 work.1
  match states with
  | s :: _ => discard (edgesState s.edges.reverse table)
  | [] => pure ()

/-- The place of a state that reads one range, in a table of a thousand. -/
def rangePlace (e : Edge) : Nat :=
  (mixWord
    (mixWord (mixWord emptyHash (UInt64.ofNat e.target)) e.range.first.toUInt64)
    e.range.last.toUInt64 % 1000).toNat

/-- Adds a sequence of ranges to be read backward, on top of the end of the
set. -/
def addBackward (final : Nat) (ranges : List ByteRange) (table : Shared Edge) :
    Building (Shared Edge) := do
  let (_, table) ← ranges.foldlM (fun (target, table) r =>
    sharedState (rangePlace ⟨r, target⟩) (⟨r, target⟩ : Edge) 0 table)
      (final, table)
  grow 0 4
  return table

/-- A set beyond ASCII, read backward: states up to the first byte are shared.
-/
def buildBackward (s : CharSet) : Building Unit := do
  discard (addState 0)
  let final ← addState 0
  discard ((setSequences s).foldlM
    (fun table ranges => addBackward final ranges table) {})

/-- A set: one state that reads a byte if it is ASCII. -/
def buildSet (backward : Bool) (s : CharSet) : Building Unit :=
  if s.isAscii then grow 2 (8 * s.spans.length)
  else if backward then buildBackward s
  else buildForward s

-- ===== alternatives that are literals

/-- Words by their first byte, in the order in which the bytes come up. -/
def groupByFirst (words : List (List UInt8)) :
    List (UInt8 × List (List UInt8)) :=
  words.foldl (fun groups word =>
    match word with
    | [] => groups
    | b :: rest =>
      if groups.any (·.1 == b) then
        groups.map fun g => if g.1 == b then (b, g.2 ++ [rest]) else g
      else groups ++ [(b, [rest])]) []

/-- The stretches of words between the empty ones. -/
def stretches : List (List UInt8) → List (List (List UInt8))
  | [] => [[]]
  | [] :: words => [] :: stretches words
  | word :: words =>
    match stretches words with
    | s :: rest => (word :: s) :: rest
    | [] => [[word]]

/-- The states of a tree of words. Words are ordered by preference: behind the
end of a word a new stretch begins, and only words of one stretch share states.
A place where all words end takes no state. -/
def buildWords : (depth : Nat) → List (List UInt8) → Building Unit
  | 0, _ => pure ()
  | depth + 1, words => do
    let groups := (stretches words).map groupByFirst |>.filter (!·.isEmpty)
    for stretch in groups do
      grow 1 (if stretch.length == 1 then 0 else 8 * stretch.length)
      for (_, rests) in stretch do
        if rests.any (!·.isEmpty) then buildWords depth rests
    grow 1 (4 * (groups.length + words.countP (·.isEmpty)))

/-- The literals of alternatives that are all literals. -/
def literals? (p : Pattern) : Option (List (List Char)) :=
  p.branches.mapM fun q => match q with
    | .literal cs => some cs
    | _ => none

-- ===== patterns

/-- Adds a state without links of its own. -/
def plainState : Building Bool := do
  grow 1 0
  return false

/-- So many more of a thing, each linked to the one before it. -/
def chain (once : Building Bool) : (more : Nat) → (forks : Bool) → Building Bool
  | 0, forks => return forks
  | more + 1, forks => do
    let next ← once
    link forks
    chain once more next

/-- Exactly so many of a thing. -/
def exactly (once : Building Bool) : Nat → Building Bool
  | 0 => plainState
  | n + 1 => do chain once n (← once)

/-- So many more of a thing, before each of which one may stop. -/
def optional (once : Building Bool) :
    (more : Nat) → (forks : Bool) → Building Bool
  | 0, forks => return forks
  | more + 1, forks => do
    grow 1 0
    let next ← once
    link forks
    grow 0 8
    optional once more next

/-- As many of a thing as one likes, from a least number on. -/
def unlimited (once : Building Bool) (mayBeEmpty : Bool) (min : Nat) :
    Building Bool := do
  match min with
  | 0 =>
    if mayBeEmpty then
      let forks ← once
      grow 3 0
      link forks
      grow 0 16
      return false
    else
      grow 1 0
      let forks ← once
      grow 0 4
      link forks
      return true
  | 1 =>
    let forks ← once
    grow 1 0
    link forks
    grow 0 4
    return true
  | n + 1 =>
    let before ← exactly once n
    let forks ← once
    grow 1 0
    link before
    link forks
    grow 0 4
    return true

/-- Between two numbers of a thing. -/
def limited (once : Building Bool) (min max : Nat) : Building Bool := do
  if min == 0 && max == 1 then
    grow 1 0
    let forks ← once
    grow 1 8
    link forks
    return false
  else
    let forks ← exactly once min
    if min == max then return forks
    else
      grow 1 0
      link (← optional once (max - min) forks)
      return false

/-- Ends a part; `within` alternatives it is linked to the fork before them and
to their end. -/
def close (within forks : Bool) : Building Bool := do
  if within then
    grow 0 4
    link forks
    return false
  else return forks

/-- Builds a pattern, as one of some alternatives if it stands `within` them.
Says whether the last state forks, so that a link out of it takes room. -/
def build (backward : Bool) : (within : Bool) → Pattern → Building Bool
  | within, .empty => do close within (← plainState)
  | within, .literal cs => do
    for _ in encodeAll cs do grow 1 0
    close within false
  | within, .set s => do
    buildSet backward s
    close within false
  | within, .assertion _ => do close within (← plainState)
  | within, .seq a b => do
    if backward then
      let second ← build backward false b
      let first ← build backward false a
      link second
      close within first
    else
      let first ← build backward false a
      let second ← build backward false b
      link first
      close within second
  | true, .alt a b => do
    discard (build backward true a)
    build backward true b
  | false, .alt a b => do
    match literals? (.alt a b) with
    | some words =>
      grow 1 0
      let bytes := words.map encodeAll
      let words := if backward then bytes.map List.reverse else bytes
      buildWords ((words.map List.length).foldl Nat.max 0 + 1) words
      return false
    | none =>
      let first ← build backward false a
      let junction (second : Bool) : Building Unit := do
        grow 2 8
        link first
        link second
      match b with
      | .alt b c =>
        junction (← build backward false b)
        build backward true c
      | b =>
        junction (← build backward false b)
        return false
  | within, .many p min max _ => do
    let once := build backward false p
    let forks ← match max with
      | none => unlimited once (p.minLength.getD 0 == 0) min
      | some max => limited once min max
    close within forks
  | within, .group _ p => do
    if backward then close within (← build backward false p)
    else
      grow 1 0
      let forks ← build backward false p
      grow 1 0
      link forks
      close within false

/-- The whole automaton: what may stand before a match, if it need not stand at
the start; the match as a group of its own when it is read forward; and the
end. -/
def buildAll (backward : Bool) (p : Pattern) : Building Unit := do
  let anchored :=
    if backward then p.endsWith .textEnd else p.beginsWith .textStart
  let before ← if anchored then plainState else do
    grow 3 12
    pure true
  let forks ← build backward false (if backward then p else .group 0 p)
  grow 1 0
  link forks
  link before

/-- Whether there is room for a pattern. -/
def Pattern.fits (p : Pattern) : Bool :=
  (buildAll false p {}).isSome && (buildAll true p {}).isSome

/-- Reads a regular expression; one for which there is no room is none either.
-/
def parse? (text : String) : Option Pattern := do
  let p ← read? text
  guard p.fits
  return p

end Overlay.Regex
