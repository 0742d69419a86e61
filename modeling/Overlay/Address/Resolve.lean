/-
Resolving addresses: the elements of an index that an address points at, in the
order of the index.

An element is addressed if the end of its chain fits the steps, and its
namespace the qualifier. A rooted path has to fit the whole chain, or, if its
first step does not name the root, the whole chain below the root. Three ways
lead to the answer: a rooted path of plain names is looked up, a plain target
narrows the search to the elements of its name, and a wildcard goes through all
entries.
-/
import Overlay.Address.Index
import Overlay.Address.Wildcard

namespace Overlay

open Text Wildcard

/-- Whether a name of a step fits a name of an element. -/
def nameMatches (pattern subject : String) : StateM Cache Bool :=
  if isWild pattern then cachedMatch pattern subject
  else pure (pattern == subject)

/-- Whether a step fits an element: its name, and its position if it gives one.
-/
def Step.fits (s : Step) (l : Link) : StateM Cache Bool := do
  let named ←
    nameMatches s.name (if s.isPrefixed then l.qualified else l.localName)
  return named && (s.position.all (· == l.position))

/-- Whether every step fits the element it stands beside. -/
def allFit : List (Step × Link) → StateM Cache Bool
  | [] => pure true
  | (s, l) :: rest => do if ← s.fits l then allFit rest else pure false

/-- Whether steps fit a chain of the same length. -/
def stepsFit (steps : List Step) (links : List Link) : StateM Cache Bool :=
  if steps.length == links.length then allFit (steps.zip links) else pure false

namespace Address

/-- Whether the steps of an address fit a chain. -/
def fitsChain (a : Address) (chain : List Link) : StateM Cache Bool :=
  match a.shape, a.steps, chain with
  | .rooted, first :: _, root :: below => do
    if ← stepsFit a.steps chain then return true
    if ← first.fits root then return false
    stepsFit a.steps below
  | .rooted, _, _ => pure false
  | _, steps, chain =>
    if steps.length ≤ chain.length then
      stepsFit steps (chain.drop (chain.length - steps.length))
    else pure false

/-- Whether the namespace of an element fits the qualifier of an address, which
may be the URI, the prefix of the element, or an alias of the URI. -/
def fitsNamespace (a : Address) (aliases : Table String) (e : IndexEntry) :
    Bool :=
  match a.qualifier with
  | none => true
  | some q =>
    e.uri == some q || e.nsPrefix == some q
      || (Table.find? q aliases).any fun uri => e.uri == some uri

/-- Whether an address points at an indexed element. -/
def pointsAt (a : Address) (aliases : Table String) (e : IndexEntry) :
    StateM Cache Bool := do
  return (← a.fitsChain e.chain) && a.fitsNamespace aliases e

/-- Whether the address is a rooted path of names without prefix, position,
qualifier or wildcard. -/
def isPlainRooted (a : Address) : Bool :=
  a.shape == .rooted && !a.isPattern && a.qualifier.isNone
    && a.steps.all fun s => s.position.isNone && !s.isPrefixed

end Address

/-- The entries that `p` picks, in order. -/
def pick (p : IndexEntry → StateM Wildcard.Cache Bool) :
    List IndexEntry → StateM Wildcard.Cache (List Nat)
  | [] => pure []
  | e :: rest => do
    let picked ← p e
    let others ← pick p rest
    return if picked then e.node :: others else others

namespace ElementIndex

/-- The elements at a rooted path of plain names. A path that does not begin
with the name of the root is taken from the root on. -/
def lookUp (index : ElementIndex) (names : List String) : List Nat :=
  match index.entries with
  | [] => []
  | root :: _ =>
    if names.head? == some root.localName then
      index.nodesAt ("/" ++ join "/" names)
    else index.nodesAt ("/" ++ root.localName ++ "/" ++ join "/" names)

/-- The elements an address points at. -/
def resolve (index : ElementIndex) (aliases : Table String) (a : Address) :
    StateM Wildcard.Cache (List Nat) :=
  if a.isPlainRooted then pure (index.lookUp (a.steps.map (·.name)))
  else
    let candidates :=
      if a.target.isWildcard then index.entries
      else index.named a.target.localName
    pick (a.pointsAt aliases) candidates

end ElementIndex

/-- What resolving addresses needs beyond a document: the aliases of
namespaces, and the patterns that were cut so far. -/
structure PathResolver where
  aliases : Table String
  cache : Wildcard.Cache
  deriving Inhabited

namespace PathResolver

/-- A resolver that has not been used. -/
def ofAliases (aliases : Table String) : PathResolver := ⟨aliases, default⟩

/-- The elements of an index that an address points at. -/
def resolve (index : ElementIndex) (a : Address) :
    StateM PathResolver (List Nat) := fun r =>
  let (nodes, cache) := index.resolve r.aliases a r.cache
  (nodes, { r with cache := cache })

/-- Whether a name matches a pattern. -/
def nameMatches (pattern name : String) : StateM PathResolver Bool := fun r =>
  let (answer, cache) := Wildcard.cachedMatch pattern name r.cache
  (answer, { r with cache := cache })

end PathResolver

end Overlay
