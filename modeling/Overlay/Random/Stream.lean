/-
Random streams. A stream is a key and the number of words that were taken from
it; so two streams from the same seed that gave the same number of words go on
in the same way.

A draw that cannot be carried out ends whatever asked for it. Such a stream is
broken off: draws go on to be answered, but nothing that was made of them is
ever handed on.
-/
import Overlay.Random.ChaCha

namespace Overlay.Random

/-- A stream of words of 32 bits. -/
structure Stream where
  key : Key
  /-- The number of words taken so far. -/
  position : Nat
  /-- Whether a draw could not be carried out. -/
  isBroken : Bool := false
  deriving DecidableEq, Inhabited

/-- One step of the generator that makes keys from seeds. -/
def seedStep (s : UInt64) : UInt64 :=
  s * 6364136223846793005 + 11634580027462260723

/-- The word that a state of that generator stands for. -/
def seedWord (s : UInt64) : UInt32 :=
  let mixed := (((s >>> 18) ^^^ s) >>> 27).toUInt32
  let turn := (s >>> 59).toUInt32
  (mixed >>> turn) ||| (mixed <<< ((32 - turn) % 32))

/-- The state after some steps. -/
def seedState (seed : UInt64) : Nat → UInt64
  | 0 => seed
  | n + 1 => seedStep (seedState seed n)

/-- The key of a seed. -/
def keyOfSeed (seed : UInt64) : Key :=
  Vector.ofFn fun i => seedWord (seedState seed (i.val + 1))

/-- The stream of a seed, from its beginning. -/
def Stream.ofSeed (seed : Nat) : Stream :=
  { key := keyOfSeed (UInt64.ofNat seed), position := 0 }

/-- The word of a key at a position. -/
def wordAt (key : Key) (position : Nat) : UInt32 :=
  (block key (position / 16))[position % 16]

/-- Takes a word. -/
def word : StateM Stream UInt32 := fun s =>
  (wordAt s.key s.position, { s with position := s.position + 1 })

/-- Takes a number of 64 bits, the low word first. -/
def word64 : StateM Stream Nat := do
  let low ← word
  let high ← word
  return low.toNat + twoTo 32 * high.toNat

/-- Breaks a stream off; the value stands for one that is never used. -/
def breakOff {α : Type} (value : α) : StateM Stream α := fun s =>
  (value, { s with isBroken := true })

end Overlay.Random
