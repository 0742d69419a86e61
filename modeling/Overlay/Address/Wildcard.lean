/-
Wildcards in names. A pattern is cut at its stars into literal parts; a text
matches if it consists of these parts in order, with any stretch of characters
but line feeds in place of every star. A pattern without a star matches itself
only.

Patterns that were cut are kept in a cache, which forgets the one that was used
least recently when it is full. The parts of an entry always are those of its
pattern, so that the cache cannot change an answer.
-/
import Overlay.Address

namespace Overlay.Wildcard

open Text

/-- The literal parts of a pattern. -/
def literals (pattern : String) : List (List Char) := splitOn '*' pattern.toList

/-- Answers for a text and each of its tails, the text first: whether `part`
stands there, at once or after a stretch without line feeds, and is followed by
a tail of which `later` holds. -/
def followed (part : List Char) :
    (text : List Char) → (later : List Bool) → List Bool
  | [], later => [part.isEmpty && later.headD false]
  | c :: cs, later =>
    let below := followed part cs later.tail
    let here :=
      (after? part (c :: cs)).isSome && (later.drop part.length).headD false
    (here || (c != '\n' && below.headD false)) :: below

/-- Answers for a text and each of its tails: whether it is a sequence of
stretches and parts, each part with a stretch before it. Working from the last
part to the first takes one pass over the text for every part. -/
def matchTails (text : List Char) : (parts : List (List Char)) → List Bool
  | [] => text.map (fun _ => false) ++ [true]
  | part :: parts => followed part text (matchTails text parts)

/-- Whether a text begins with the first part and goes on with the others. -/
def matchLiterals : List (List Char) → List Char → Bool
  | [], _ => false
  | first :: parts, text =>
    (after? first text).isSome
      && ((matchTails text parts).drop first.length).headD false

/-- Whether a text matches a pattern. -/
def isMatch (pattern text : String) : Bool :=
  if isWild pattern then matchLiterals (literals pattern) text.toList
  else pattern == text

-- ===== as a regular expression

/-- The characters that a regular expression writes with a backslash to mean
themselves. -/
def isSpecial (c : Char) : Bool := "\\.+*?()|[]\x7b\x7d^$#&-~".toList.contains c

/-- A character of a literal part in a regular expression. -/
def escapeChar (c : Char) : List Char := if isSpecial c then ['\\', c] else [c]

/-- The regular expression of a pattern, bound to both ends of the text. -/
def regexText (pattern : String) : String :=
  String.ofList
    ('^' :: ['.', '*'].intercalate
      ((literals pattern).map (·.flatMap escapeChar)) ++ ['$'])

-- ===== the cache

/-- A pattern with its parts. -/
structure Entry where
  pattern : String
  parts : List (List Char)
  parts_eq : parts = literals pattern

/-- A cache of patterns with wildcards, the one used last first. -/
structure Cache where
  capacity : Nat
  entries : List Entry

/-- An empty cache for `capacity` patterns, but at least for one. -/
def Cache.ofCapacity (capacity : Nat) : Cache := ⟨max capacity 1, []⟩

instance : Inhabited Cache := ⟨Cache.ofCapacity 256⟩

/-- The number of patterns in the cache. -/
def Cache.size (c : Cache) : Nat := c.entries.length

/-- The entry of a pattern; it is cut if the cache does not hold it. -/
def Cache.entry (c : Cache) (pattern : String) : Entry :=
  match c.entries.find? (·.pattern == pattern) with
  | some e => e
  | none => ⟨pattern, literals pattern, rfl⟩

/-- The cache after the use of an entry: it comes to the front, and if there
are too many the last one goes. -/
def Cache.use (c : Cache) (e : Entry) : Cache :=
  { c with
    entries :=
      (e :: c.entries.filter (·.pattern != e.pattern)).take c.capacity }

/-- Whether a text matches a pattern, by way of the cache. -/
def cachedMatch (pattern text : String) : StateM Cache Bool := fun c =>
  if isWild pattern then
    let e := c.entry pattern
    (matchLiterals e.parts text.toList, c.use e)
  else (pattern == text, c)

end Overlay.Wildcard
