/-
What the patterns that were cut so far have a part in: nothing.

# The only thing that is not told

A pass, and the choices after it, carry a cache of patterns with them. It
grows with every address that is resolved, and it stays when everything
else begins anew. `Pass.Alike` relates two passes that differ in it at
most. Every function of a pass takes such passes to such passes, and tells
the same of both; so do the functions that carry choices out.

# Two kinds of functions

Where a function does not look at the cache at all, changing it before and
changing it afterwards are the same (`*_withCache`). Where it resolves an
address or matches a name, the answers are the same whatever the cache is
(`resolve_answers_default`, `cachedMatch_answers`), but the caches that are
left may differ.
-/
import Overlay.Choice.Prune
import Overlay.Override
import Overlay.Proofs.Address.Resolving

namespace Overlay

open Xml Wildcard

-- =========================================================== resolvers

namespace PathResolver

/-- A resolver with another cache. -/
def withCache (r : PathResolver) (cache : Cache) : PathResolver :=
  { r with cache := cache }

/-- An address resolves to the same elements whatever the cache is. The caches
that are left are told apart, as one may have been too full. -/
theorem resolve_withCache (index : ElementIndex) (a : Address)
    (r : PathResolver) (cache : Cache) :
    ∃ cache', resolve index a (r.withCache cache)
      = ((resolve index a r).1, (resolve index a r).2.withCache cache') := by
  have h := resolve_answers_default index r.aliases a
  refine ⟨(resolve index a (r.withCache cache)).2.cache, Prod.ext ?_ rfl⟩
  exact (h cache).trans (h r.cache).symm

/-- A name matches a pattern or not whatever the cache is. -/
theorem nameMatches_withCache (pattern name : String) (r : PathResolver)
    (cache : Cache) :
    ∃ cache', nameMatches pattern name (r.withCache cache)
      = ((nameMatches pattern name r).1,
        (nameMatches pattern name r).2.withCache cache') := by
  have h := cachedMatch_answers pattern name
  refine ⟨(nameMatches pattern name (r.withCache cache)).2.cache,
    Prod.ext ?_ rfl⟩
  exact (h cache).trans (h r.cache).symm

end PathResolver

-- ============================================================== passes

namespace Pass

/-- A pass with another cache. -/
def withCache (p : Pass) (cache : Cache) : Pass :=
  { p with resolver := p.resolver.withCache cache }

/-- Whether two passes differ in their caches at most. -/
def Alike (p q : Pass) : Prop := ∃ cache, q = p.withCache cache

/-- Whether two passes do, and the same is told with them. -/
def Agree {α : Type} (x y : Pass × α) : Prop :=
  ∃ cache, y = (x.1.withCache cache, x.2)

variable {p q : Pass} {x y : Pass × Tally}

theorem Alike.agree {α : Type} (h : p.Alike q) (a : α) :
    Agree (p, a) (q, a) := by
  obtain ⟨cache, rfl⟩ := h
  exact ⟨cache, rfl⟩

theorem Agree.alike {α : Type} {x y : Pass × α} (h : Agree x y) :
    x.1.Alike y.1 := by
  obtain ⟨cache, rfl⟩ := h
  exact ⟨cache, rfl⟩

/-- What is noted of two passes that are alike is the same on both sides. -/
theorem Alike.note (h : p.Alike q) (e : Event) :
    (p.note e).Alike (q.note e) := by
  obtain ⟨cache, rfl⟩ := h
  exact ⟨cache, rfl⟩

-- ============================================================== writes

/-- Nothing is looked up in the cache to put a text in its place. -/
theorem put_withCache (w : Write) (p : Pass) (cache : Cache) :
    (p.withCache cache).put w
      = ((p.put w).1.withCache cache, (p.put w).2) := by
  have hdoc : (p.withCache cache).doc = p.doc := rfl
  simp only [put, hdoc]
  cases w.slot.put p.doc w.value <;> rfl

/-- Whether a text may go to its place is not looked up in the cache either. -/
theorem write_withCache (w : Write) (p : Pass) (cache : Cache) :
    (p.withCache cache).write w
      = ((p.write w).1.withCache cache, (p.write w).2) := by
  have hclaim : (p.withCache cache).claim? w.slot = p.claim? w.slot := rfl
  simp only [write, hclaim]
  split
  · split
    · rfl
    · exact put_withCache w p cache
  · exact put_withCache w p cache

/-- A write is counted on both sides or on neither. -/
theorem Agree.writeCounted (h : Agree x y) (w : Write) :
    Agree (writeCounted w x) (writeCounted w y) := by
  obtain ⟨cache, rfl⟩ := h
  simp only [Pass.writeCounted, write_withCache]
  exact ⟨cache, rfl⟩

/-- The fields of a row are written on both sides alike. -/
theorem Agree.fillRow (h : Agree x y) (a : Assignment) (node : Nat)
    (row : Row) : Agree (fillRow a node row x) (fillRow a node row y) := by
  refine List.foldl_rel h fun entry _ x y hxy => ?_
  obtain ⟨field, value⟩ := entry
  have hdoc : y.1.doc = x.1.doc := by
    obtain ⟨cache, rfl⟩ := hxy
    rfl
  simp only [hdoc]
  split
  · exact hxy.writeCounted _
  · exact hxy

/-- A reference draws the same row on both sides, since the sources are the
same. -/
theorem Agree.assignRow (h : Agree x y) (a : Assignment) (r : RowRef)
    (node k : Nat) :
    Agree (assignRow a r node k x) (assignRow a r node k y) := by
  obtain ⟨cache, rfl⟩ := h
  have hsources : (x.1.withCache cache).sources = x.1.sources := rfl
  simp only [Pass.assignRow, found, hsources]
  rcases Sources.sharedRow r k x.1.sources with ⟨_ | row, sources⟩
  · exact ⟨cache, rfl⟩
  · exact Agree.fillRow ⟨cache, rfl⟩ a node row

/-- A value comes to the same text on both sides. -/
theorem Agree.assignSlot (h : Agree x y) (a : Assignment) (k : Nat)
    (slot : Slot) : Agree (assignSlot a k x slot) (assignSlot a k y slot) := by
  obtain ⟨cache, rfl⟩ := h
  have hsources : (x.1.withCache cache).sources = x.1.sources := rfl
  simp only [Pass.assignSlot, found, hsources]
  rcases Sources.textFor? a.value k x.1.sources with ⟨_ | text, sources⟩
  · exact ⟨cache, rfl⟩
  · exact Agree.writeCounted ⟨cache, rfl⟩ _

-- ========================================================= assignments

/-- Of some names the same ones match a pattern. The induction is on the names,
each of which may leave the caches different. -/
theorem matching_withCache (pattern : String) (names : List String)
    (r : PathResolver) (cache : Cache) :
    ∃ cache', matching pattern names (r.withCache cache)
      = ((matching pattern names r).1,
        (matching pattern names r).2.withCache cache') := by
  induction names generalizing r cache with
  | nil => exact ⟨cache, rfl⟩
  | cons name rest ih =>
      obtain ⟨cache', hhit⟩ :=
        PathResolver.nameMatches_withCache pattern name r cache
      obtain ⟨cache'', hrest⟩ :=
        ih (PathResolver.nameMatches pattern name r).2 cache'
      refine ⟨cache'', ?_⟩
      show (let z := PathResolver.nameMatches pattern name (r.withCache cache)
        let others := matching pattern rest z.2
        ((if z.1 then name :: others.1 else others.1), others.2)) = _
      simp only [hhit, hrest]
      rfl

/-- The attributes that an assignment is for do not depend on a cache. -/
theorem Alike.attributeTargets (h : p.Alike q) (pattern : String)
    (creates : Bool) (node : Nat) :
    (attributeTargets pattern creates node q).1
        = (attributeTargets pattern creates node p).1
      ∧ (attributeTargets pattern creates node p).2.Alike
        (attributeTargets pattern creates node q).2 := by
  obtain ⟨cache, rfl⟩ := h
  have hdoc : (p.withCache cache).doc = p.doc := rfl
  have hresolver : (p.withCache cache).resolver
      = p.resolver.withCache cache := rfl
  simp only [Pass.attributeTargets, hdoc]
  split
  · obtain ⟨cache', hmatching⟩ := matching_withCache pattern
      (attributeNames p.doc node) p.resolver cache
    rw [hresolver, hmatching]
    exact ⟨rfl, cache', rfl⟩
  · split <;> exact ⟨rfl, cache, rfl⟩

/-- The elements at an address do not depend on a cache. -/
theorem Alike.resolve (h : p.Alike q) (index : ElementIndex)
    (a : Address) :
    (q.resolve index a).1 = (p.resolve index a).1
      ∧ (p.resolve index a).2.Alike (q.resolve index a).2 := by
  obtain ⟨cache, rfl⟩ := h
  obtain ⟨cache', hresolve⟩ :=
    PathResolver.resolve_withCache index a p.resolver cache
  have hresolver : (p.withCache cache).resolver
      = p.resolver.withCache cache := rfl
  simp only [Pass.resolve, hresolver, hresolve]
  exact ⟨rfl, cache', rfl⟩

/-- The attributes that are meant at an element are the same, and so is what is
assigned there. -/
theorem Agree.assignElement (h : Agree x y) (a : Assignment)
    (node k : Nat) :
    Agree (assignElement a x node k) (assignElement a y node k) := by
  unfold Pass.assignElement
  cases a.address.attr with
  | some pattern =>
      obtain ⟨hnames, halike⟩ :=
        h.alike.attributeTargets pattern a.creates node
      have htally : y.2 = x.2 := by
        obtain ⟨cache, rfl⟩ := h
        rfl
      dsimp only
      rw [hnames, htally]
      exact List.foldl_rel (halike.agree x.2) fun slot _ _ _ hxy =>
        hxy.assignSlot a k slot
  | none =>
      dsimp only
      split
      · split
        · exact h.assignRow a _ node k
        · exact h.assignSlot a k _
      · exact h.assignSlot a k _

/-- What is told at the end of an assignment depends on its tally, which is the
same. -/
theorem Agree.conclude (h : Agree x y) (a : Assignment) :
    (concludeAssignment a x).Alike (concludeAssignment a y) := by
  obtain ⟨cache, rfl⟩ := h
  simp only [concludeAssignment]
  split <;> split <;> exact ⟨cache, rfl⟩

/-- A task finds the same elements on both sides, and assigns to one after the
other. -/
theorem Alike.carryOut (h : p.Alike q) (index : ElementIndex)
    (task : Task) : (p.carryOut index task).Alike (q.carryOut index task) := by
  cases task with
  | malformed key why => exact h.note _
  | assign a =>
      obtain ⟨hnodes, halike⟩ := h.resolve index a.address
      simp only [Pass.carryOut, assign, hnodes]
      split
      · exact halike.note _
      · refine Agree.conclude (List.foldl_rel (halike.agree {}) ?_) a
        exact fun x _ _ _ hxy => hxy.assignElement a x.1 x.2

-- ========================================================== namespaces

/-- A namespace is declared on the root without a look at the cache. -/
theorem Alike.declare (h : p.Alike q) (name : QName) (uri : String) :
    (p.declare name uri).Alike (q.declare name uri) := by
  obtain ⟨cache, rfl⟩ := h
  have hdoc : (p.withCache cache).doc = p.doc := rfl
  simp only [Pass.declare, hdoc]
  split <;> exact ⟨cache, rfl⟩

/-- An element gets its prefix without a look at the cache. -/
theorem Agree.addPrefix {x y : Pass × Nat} (h : Agree x y)
    (rule : PrefixRule) (node : Nat) :
    Agree (addPrefix rule x node) (addPrefix rule y node) := by
  obtain ⟨cache, rfl⟩ := h
  have hdoc : (x.1.withCache cache).doc = x.1.doc := rfl
  simp only [Pass.addPrefix, hdoc]
  split <;> exact ⟨cache, rfl⟩

/-- A rule for prefixes finds the same elements on both sides. -/
theorem Alike.applyPrefix (h : p.Alike q) (index : ElementIndex)
    (rule : PrefixRule) :
    (p.applyPrefix index rule).Alike (q.applyPrefix index rule) := by
  obtain ⟨hnodes, halike⟩ := h.resolve index rule.address
  simp only [Pass.applyPrefix, hnodes]
  split
  · exact halike.note _
  · obtain ⟨cache, hfold⟩ : Agree
        ((p.resolve index rule.address).1.foldl (Pass.addPrefix rule)
          ((p.resolve index rule.address).2, 0))
        ((p.resolve index rule.address).1.foldl (Pass.addPrefix rule)
          ((q.resolve index rule.address).2, 0)) :=
      List.foldl_rel (halike.agree 0) fun node _ _ _ hxy =>
        hxy.addPrefix rule node
    rw [hfold]
    dsimp only
    split <;> exact ⟨cache, rfl⟩

/-- The namespaces are applied on both sides alike. -/
theorem Alike.applyNamespaces (h : p.Alike q) (index : ElementIndex)
    (rules : NamespaceRules) :
    (p.applyNamespaces index rules).Alike
      (q.applyNamespaces index rules) := by
  unfold Pass.applyNamespaces
  refine List.foldl_rel (List.foldl_rel ?_ fun entry _ _ _ h =>
    h.declare _ _) fun rule _ _ _ h => h.applyPrefix index rule
  cases rules.defaultUri with
  | none => exact h
  | some uri => exact h.declare _ _

/-- Passes that differ in their caches at most come to the same end, their
caches aside. -/
theorem Alike.run (h : p.Alike q) (index : ElementIndex) (c : Config) :
    (p.run index c).Alike (q.run index c) :=
  Alike.applyNamespaces
    (List.foldl_rel h fun task _ _ _ h => h.carryOut index task) index
    c.namespaces

end Pass

-- =========================================================== overrides

namespace Overrides

/-- Overrides with another cache. -/
def withCache (o : Overrides) (cache : Cache) : Overrides :=
  { o with resolver := o.resolver.withCache cache }

/-- A cache changes nothing of what is applied to a document, nor what is
told of it. -/
theorem apply_withCache (o : Overrides) (cache : Cache) (doc : Document) :
    ∃ cache', (o.withCache cache).apply doc
      = ((o.apply doc).1, (o.apply doc).2.1,
        (o.apply doc).2.2.withCache cache') := by
  let start : Pass :=
    { doc := doc, resolver := o.resolver, sources := o.sources.beginPass }
  have hstart : start.Alike (start.withCache cache) := ⟨cache, rfl⟩
  obtain ⟨cache', hdone⟩ := hstart.run (.ofDocument doc) o.config
  have hbegin : (⟨doc, (o.withCache cache).resolver,
      (o.withCache cache).sources.beginPass, [], []⟩ : Pass)
        = start.withCache cache := rfl
  have hconfig : (o.withCache cache).config = o.config := rfl
  refine ⟨cache', ?_⟩
  simp only [apply, hbegin, hconfig, hdone]
  rfl

end Overrides

-- ============================================================= choices

namespace Pruning

/-- A pruning with another cache. -/
def withCache (p : Pruning) (cache : Cache) : Pruning :=
  { p with resolver := p.resolver.withCache cache }

/-- A choice takes an element out without a look at the cache. -/
theorem remove_withCache (key : String) (p : Pruning) (cache : Cache)
    (id : Nat) :
    (p.withCache cache).remove key id
      = (p.remove key id).withCache cache := by
  have hdoc : (p.withCache cache).doc = p.doc := rfl
  simp only [remove, hdoc]
  cases p.doc.detach id <;> rfl

/-- A container is pruned without a look at the cache. -/
theorem pruneContainer_withCache (key option : String) (p : Pruning)
    (cache : Cache) (container : Nat) :
    pruneContainer key option (p.withCache cache) container
      = (pruneContainer key option p container).withCache cache := by
  have hdoc : (p.withCache cache).doc = p.doc := rfl
  simp only [pruneContainer, hdoc]
  split
  · exact List.foldl_hom (fun p : Pruning => p.withCache cache)
      fun p id => remove_withCache key p cache id
  · rfl

/-- Choices do the same whatever the cache is. -/
theorem carryOut_withCache (p : Pruning) (cache : Cache) (s : Selection) :
    ∃ cache', (p.withCache cache).carryOut s
      = (p.carryOut s).withCache cache' := by
  unfold carryOut
  cases s.selected with
  | none => exact ⟨cache, rfl⟩
  | some option =>
      obtain ⟨cache', hresolve⟩ := PathResolver.resolve_withCache
        (.ofDocument p.doc) s.target p.resolver cache
      have hdoc : (p.withCache cache).doc = p.doc := rfl
      have hresolver : (p.withCache cache).resolver
          = p.resolver.withCache cache := rfl
      simp only [hdoc, hresolver, hresolve]
      obtain ⟨found, resolver⟩ := PathResolver.resolve
        (.ofDocument p.doc) s.target p.resolver
      refine ⟨cache', ?_⟩
      dsimp only
      cases found.filter p.doc.isAttached with
      | nil => rfl
      | cons container rest =>
          let begun : Pruning := { p with resolver := resolver }
          show (container :: rest).foldl (pruneContainer s.key option)
              (begun.withCache cache')
            = ((container :: rest).foldl (pruneContainer s.key option)
              begun).withCache cache'
          exact List.foldl_hom (fun p : Pruning => p.withCache cache')
            fun p container =>
              pruneContainer_withCache s.key option p cache' container

end Pruning

namespace Choices

/-- Choices with another cache. -/
def withCache (c : Choices) (cache : Cache) : Choices :=
  { c with resolver := c.resolver.withCache cache }

/-- A cache changes nothing of what choices take out, nor what is told of
it. -/
theorem apply_withCache (c : Choices) (cache : Cache) (doc : Document) :
    ∃ cache', (c.withCache cache).apply doc
      = ((c.apply doc).1, (c.apply doc).2.1,
        (c.apply doc).2.2.withCache cache') := by
  have hrun : ∀ (selections : List Selection) (p : Pruning) (cache : Cache),
      ∃ cache', selections.foldl Pruning.carryOut (p.withCache cache)
        = (selections.foldl Pruning.carryOut p).withCache cache' := by
    intro selections
    induction selections with
    | nil => exact fun _ cache => ⟨cache, rfl⟩
    | cons s rest ih =>
        intro p cache
        obtain ⟨cache', hstep⟩ := p.carryOut_withCache cache s
        obtain ⟨cache'', hrest⟩ := ih (p.carryOut s) cache'
        refine ⟨cache'', ?_⟩
        rw [List.foldl_cons, hstep, hrest]
        rfl
  let start : Pruning := { doc := doc, resolver := c.resolver }
  obtain ⟨cache', hdone⟩ := hrun (c.select (.capture doc)) start cache
  have hbegin : (⟨doc, (c.withCache cache).resolver, [], [], []⟩ : Pruning)
      = start.withCache cache := rfl
  have hselect : (c.withCache cache).select = c.select := rfl
  refine ⟨cache', ?_⟩
  simp only [apply, prune, hselect, hbegin, hdone]
  rfl

end Choices

end Overlay
