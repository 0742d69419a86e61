/-
The tags of a text, with nothing looked up.

# A reading without namespaces

While a document is put together, prefixes are thrown away: an element
keeps its URI, and gets the prefix that the scope has for it. What the
tags say is written down here a second time, with prefixes and
declarations left as they are. `Source` is an element as it is tagged.
`Tagging` is an assembly of nothing but tags, in which every token counts
that opens, adds or closes an element, and `sourceOf` reads the root of a
text this way. References in texts and in values are expanded as they are
for the document, so that tags inside entities are tags of the text.

# Both go the same way

A tree *stands for* a source if each of its elements is what the tag
resolves to in its scope (`Tree.StandsFor`), and an assembly stands for a
tagging if all that was read so far does, tags included that have not
been closed. Each of the few things that a token does to an assembly it
does to the tagging as well (`Assembly.StandsFor.opens` and its
neighbours), and both spend the same references on the way
(`step_standsFor`). Entities nest, so the induction is on the depth to
which they may (`expander_follows`). Hence a document that is read stands
for what its text says (`readContent_standsFor`).
-/
import Overlay.Proofs.Xml.Assembling

namespace Overlay.Xml

open Text Expansion

-- ====================================================== tags of a text

/-- An element as it is tagged: the name and the attributes as they are
written, and the elements inside. -/
inductive Source
  | tag (name : QName) (attributes : List (QName × String))
      (inside : List Source)

/-- An element that is still open, with what was read inside it, in
reverse. -/
structure OpenTag where
  name : QName
  attributes : List (QName × String)
  inside : List Source

/-- The tags of a text, put together. -/
structure Tagging where
  /-- The open elements, innermost first. -/
  frames : List OpenTag := []
  /-- The elements outside of all others, in reverse. -/
  outside : List Source := []
  /-- The attributes of a tag without an end, which the next tag gets. -/
  pending : List (QName × String) := []

namespace Tagging

/-- Adds an element to the innermost open one, or outside of all. -/
def add (s : Tagging) (t : Source) : Tagging :=
  match s.frames with
  | top :: rest =>
    { s with frames := { top with inside := t :: top.inside } :: rest }
  | [] => { s with outside := t :: s.outside }

/-- Opens an element. -/
def opens (s : Tagging) (name : QName) (as : List (QName × String)) :
    Tagging :=
  { s with frames := ⟨name, s.pending ++ as, []⟩ :: s.frames, pending := [] }

/-- Adds an element without content. -/
def adds (s : Tagging) (name : QName) (as : List (QName × String)) :
    Tagging :=
  { s with pending := [] }.add (.tag name (s.pending ++ as) [])

/-- Keeps the attributes of a tag that has no end. -/
def waits (s : Tagging) (as : List (QName × String)) : Tagging :=
  { s with pending := s.pending ++ as }

/-- Closes the innermost open element, if one is open. Attributes that
wait for a tag are dropped. -/
def closes (s : Tagging) : Tagging :=
  match s.frames with
  | [] => { s with pending := [] }
  | top :: rest =>
    { s with frames := rest, pending := [] }.add
      (.tag top.name top.attributes top.inside.reverse)

variable (place : Place) (expander : Expander)
  (content : String → Tagging → Expansion Tagging)

/-- What a text adds: the tags of the entities that it refers to. -/
def addChunks (s : Tagging) : List Chunk → Expansion Tagging
  | [] => pure s
  | .entity name :: rest => do
    let r ← place.expand (content name s)
    addChunks r rest
  | _ :: rest => addChunks s rest

/-- Takes one token into account. -/
def step (s : Tagging) : Token → Expansion Tagging
  | .opening name raw => do
    let as ← expandAttributes place expander raw
    pure (s.opens name as)
  | .single name raw => do
    let as ← expandAttributes place expander raw
    pure (s.adds name as)
  | .unfinished _ raw => do
    let as ← expandAttributes place expander raw
    pure (s.waits as)
  | .closing _ => pure s.closes
  | .text raw => do
    let pieces ← (chunks raw : Option (List Chunk))
    s.addChunks place content pieces
  | _ => pure s

/-- Takes tokens into account, one after the other. -/
def steps (s : Tagging) (tokens : List Token) : Expansion Tagging :=
  tokens.foldlM (step place expander content) s

/-- The tags of an entity, with references inside at most `depth` levels
deep. -/
def ofEntity (entities : Entities) :
    (depth : Nat) → String → Tagging → Expansion Tagging
  | 0, _, _ => failure
  | depth + 1, name, s => do
    let raw ← (entities.lookup name : Option (List Char))
    let (tokens, _) ← (Scan.content raw : Option (List Token × List Char))
    s.steps .entity (entities.expander depth) (ofEntity entities depth) tokens

end Tagging

/-- The root of a text, as it is tagged. -/
def sourceOf (text : String) : Option Source := do
  let front ← Scan.front text.toList
  let body ← Scan.body front.rest
  let (s, _) ← (Tagging.steps .document
    (front.entities.expander expansionDepth)
    (Tagging.ofEntity front.entities expansionDepth)
    {} (front.tokens ++ body)).run 0
  s.outside.reverse.head?

-- ================================================== standing for a source

mutual

/-- Whether the elements of a tree are what the tags of a source resolve
to in the scope around them. -/
inductive Tree.StandsFor : Scope → Tree → Source → Prop
  | element {scope inner : Scope} {name : QName}
      {attributes : List (QName × String)} {inside : List Source}
      {e : Element} {children : List Tree}
      (resolved : resolveElement scope name attributes = some (e, inner))
      (below : AllStandFor inner children inside) :
      Tree.StandsFor scope (.element e children) (.tag name attributes inside)

/-- Whether the elements among some trees stand for these sources, one
for each. -/
inductive AllStandFor : Scope → List Tree → List Source → Prop
  | nil {scope : Scope} : AllStandFor scope [] []
  | element {scope : Scope} {t : Tree} {s : Source} {ts : List Tree}
      {ss : List Source} (first : Tree.StandsFor scope t s)
      (rest : AllStandFor scope ts ss) : AllStandFor scope (t :: ts) (s :: ss)
  | other {scope : Scope} {t : Tree} {ts : List Tree} {ss : List Source}
      (first : t.isElement = false) (rest : AllStandFor scope ts ss) :
      AllStandFor scope (t :: ts) ss

end

theorem Tree.StandsFor.isElement {scope : Scope} {t : Tree} {s : Source}
    (h : t.StandsFor scope s) : t.isElement = true := by
  cases h
  rfl

/-- Trees stand for tags if their elements do, one by one; texts and remarks
between them stand for nothing. -/
theorem allStandFor_iff {scope : Scope} {ts : List Tree}
    {ss : List Source} :
    AllStandFor scope ts ss
      ↔ List.Forall₂ (Tree.StandsFor scope) (ts.filter Tree.isElement) ss := by
  constructor
  · intro h
    induction ts generalizing ss with
    | nil =>
        cases h
        exact .nil
    | cons t ts ih =>
        cases h with
        | element first rest =>
            rw [List.filter_cons_of_pos first.isElement]
            exact .cons first (ih rest)
        | other first rest =>
            rw [List.filter_cons_of_neg (by simp [first])]
            exact ih rest
  · intro h
    induction ts generalizing ss with
    | nil =>
        cases h
        exact .nil
    | cons t ts ih =>
        by_cases ht : t.isElement = true
        · rw [List.filter_cons_of_pos ht] at h
          cases h with
          | cons first rest => exact .element first (ih rest)
        · rw [List.filter_cons_of_neg ht] at h
          exact .other (by simpa using ht) (ih h)

/-- The scope inside the innermost of some open elements. -/
def scopeInside (frames : List Frame) : Scope :=
  (frames.head?.map (·.scope)).getD []

/-- Whether open elements stand for open tags, one for each, with what was
read inside them. -/
inductive FramesStandFor : List Frame → List OpenTag → Prop
  | nil : FramesStandFor [] []
  | cons {f : Frame} {o : OpenTag} {fs : List Frame} {os : List OpenTag}
      (resolved : resolveElement (scopeInside fs) o.name o.attributes
        = some (f.element, f.scope))
      (inside : List.Forall₂ (Tree.StandsFor f.scope)
        (f.inside.filter Tree.isElement) o.inside)
      (rest : FramesStandFor fs os) : FramesStandFor (f :: fs) (o :: os)

namespace Assembly

/-- Whether all that was read so far stands for some tags. -/
structure StandsFor (a : Assembly) (s : Tagging) : Prop where
  frames : FramesStandFor a.frames s.frames
  outside : List.Forall₂ (Tree.StandsFor [])
    (a.outside.filter Tree.isElement) s.outside
  pending : a.pending = s.pending

theorem standsFor_empty : ({} : Assembly).StandsFor {} :=
  ⟨.nil, .nil, rfl⟩

/-- A text adds no element. -/
theorem filter_withText (joins : Bool) (text : String) (ts : List Tree) :
    (withText joins text ts).filter Tree.isElement
      = ts.filter Tree.isElement := by
  unfold withText
  split
  · split <;> rfl
  · rfl

/-- No element is lost when blank texts are left out. What was read stands in
reverse, the last first. -/
theorem filter_settled (ts : List Tree) :
    (settled ts).filter Tree.isElement
      = (ts.filter Tree.isElement).reverse := by
  rw [settled, List.filter_filter, List.filter_reverse]
  congr 1
  refine List.filter_congr fun t _ => ?_
  cases t <;> simp [Tree.isElement]

namespace StandsFor

variable {a b : Assembly} {s : Tagging} {name : QName}
  {as : List (QName × String)}

/-- What is read at the place at hand may change as long as its elements
stay. -/
theorem modifyHere (h : a.StandsFor s) {f : List Tree → List Tree}
    (hf : ∀ ts, (f ts).filter Tree.isElement = ts.filter Tree.isElement) :
    (a.modifyHere f).StandsFor s := by
  obtain ⟨hframes, houtside, hpending⟩ := h
  rw [Assembly.modifyHere]
  split
  case h_1 top rest hcons =>
      rw [hcons] at hframes
      refine ⟨?_, houtside, hpending⟩
      generalize s.frames = tags at hframes ⊢
      cases hframes with
      | cons resolved inside below =>
          exact .cons resolved ((hf top.inside).symm ▸ inside) below
  case h_2 => exact ⟨hframes, (hf a.outside).symm ▸ houtside, hpending⟩

/-- What is no element can be added, and all stands for the same tags. -/
theorem addOther (h : a.StandsFor s) {t : Tree} (ht : t.isElement = false) :
    (a.add t).StandsFor s := by
  obtain ⟨hframes, houtside, hpending⟩ := h.modifyHere (f := (t :: ·))
    fun ts => List.filter_cons_of_neg (by simp [ht])
  exact ⟨hframes, houtside, hpending⟩

/-- A text can be added, and all stands for the same tags. -/
theorem addText (h : a.StandsFor s) (text : String) :
    (a.addText text).StandsFor s := by
  rw [Assembly.addText]
  split
  · exact h
  · obtain ⟨hframes, houtside, hpending⟩ := h.modifyHere
      (filter_withText a.inText text)
    exact ⟨hframes, houtside, hpending⟩

/-- An element is added to both. -/
theorem add (h : a.StandsFor s) {t : Tree} {source : Source}
    (ht : t.StandsFor a.scope source) :
    (a.add t).StandsFor (s.add source) := by
  obtain ⟨hframes, houtside, hpending⟩ := h
  have hel := ht.isElement
  rw [Assembly.scope] at ht
  rw [Assembly.add, Assembly.modifyHere, Tagging.add]
  generalize a.frames = fs at hframes ht ⊢
  generalize s.frames = os at hframes ⊢
  cases hframes with
  | nil =>
      refine ⟨.nil, ?_, hpending⟩
      rw [List.filter_cons_of_pos hel]
      exact .cons ht houtside
  | @cons f o fs os resolved inside below =>
      refine ⟨.cons resolved ?_ below, houtside, hpending⟩
      rw [List.filter_cons_of_pos hel]
      exact .cons ht inside

/-- What an assembly takes for the attributes of a tag are those that the
source has. -/
theorem element (h : a.StandsFor s) {e : Element} {inner : Scope}
    (he : a.element name as = some (e, inner)) :
    resolveElement (scopeInside a.frames) name (s.pending ++ as)
      = some (e, inner) := by
  rw [Assembly.element, h.pending] at he
  exact he

/-- An element that is opened stands for its tag. -/
theorem opens (h : a.StandsFor s) (hb : a.openElement name as = some b) :
    b.StandsFor (s.opens name as) := by
  obtain ⟨-, e, inner, he, rfl⟩ := of_openElement hb
  exact ⟨.cons (h.element he) .nil h.frames, h.outside, rfl⟩

/-- An element without content stands for its tag. -/
theorem adds (h : a.StandsFor s) (hb : a.addElement name as = some b) :
    b.StandsFor (s.adds name as) := by
  obtain ⟨-, e, inner, he, rfl⟩ := of_addElement hb
  have hbegun : StandsFor
      { a with pending := [], inText := false, sawTag := true }
      { s with pending := [] } := ⟨h.frames, h.outside, rfl⟩
  exact hbegun.add (.element (h.element he) .nil)

/-- The attributes of a tag without its end are pending on both sides. -/
theorem waits (h : a.StandsFor s) (hb : a.addUnfinished name as = some b) :
    b.StandsFor (s.waits as) := by
  obtain ⟨-, rfl⟩ := of_addUnfinished hb
  exact ⟨h.frames, h.outside, congrArg (· ++ as) h.pending⟩

/-- To close an element adds it, with all that was read inside, on both sides.
Where none is open nothing is added on either. -/
theorem closes (h : a.StandsFor s) (hb : a.closeElement name = some b) :
    b.StandsFor s.closes := by
  have hframes := h.frames
  rw [Tagging.closes]
  obtain ⟨-, ⟨hnil, rfl⟩ | ⟨top, rest, hcons, -, rfl⟩⟩ := of_closeElement hb
  · rw [hnil] at hframes
    generalize s.frames = tags at hframes ⊢
    cases hframes
    exact ⟨hnil ▸ .nil, h.outside, rfl⟩
  · rw [hcons] at hframes
    generalize s.frames = tags at hframes ⊢
    cases hframes with
    | @cons _ o _ os resolved inside below =>
        have hclosed : StandsFor
            { a with frames := rest, pending := [], inText := false }
            { s with frames := os, pending := [] } :=
          ⟨below, h.outside, rfl⟩
        refine hclosed.add (.element resolved (allStandFor_iff.mpr ?_))
        rw [filter_settled]
        exact List.forall₂_reverse_iff.mpr inside

end StandsFor

end Assembly

-- =========================================================== the reading

/-- Whether expanding a reference takes an assembly and its tags the same
way. -/
def Expander.Follows (expander : Expander)
    (content : String → Tagging → Expansion Tagging) : Prop :=
  ∀ {name : String} {a b : Assembly} {s : Tagging} {n m : Nat},
    (expander.content name a).run n = some (b, m) → a.StandsFor s →
    ∃ r, (content name s).run n = some (r, m) ∧ b.StandsFor r

/-- Expanding a reference does to the count what its inner computation
does to it. -/
theorem Place.run_expand_eq_some {α β : Type} {place : Place}
    {x : Expansion α} {y : Expansion β} {a : α} {P : β → Prop} {n m : Nat}
    (h : (place.expand x).run n = some (a, m))
    (hxy : ∀ k l, x.run k = some (a, l) →
      ∃ b, y.run k = some (b, l) ∧ P b) :
    ∃ b, (place.expand y).run n = some (b, m) ∧ P b := by
  cases place with
  | document =>
      have h' : (x 255).map (fun z => (z.1, n)) = some (a, m) := h
      obtain ⟨⟨c, l⟩, hc, he⟩ := Option.map_eq_some_iff.mp h'
      cases he
      obtain ⟨b, hb, hP⟩ := hxy 255 l hc
      refine ⟨b, ?_, hP⟩
      exact Option.map_eq_some_iff.mpr ⟨(b, l), hb, rfl⟩
  | entity =>
      obtain ⟨u, k, hspend, hk⟩ := run_bind_eq_some.mp h
      obtain ⟨b, hb, hP⟩ := hxy k m hk
      exact ⟨b, run_bind_eq_some.mpr ⟨u, k, hspend, hb⟩, hP⟩

namespace Assembly

variable {place : Place} {expander : Expander}
  {content : String → Tagging → Expansion Tagging}

/-- A reference expands to the same tags on both sides, with the same count. -/
theorem StandsFor.expand {a b : Assembly} {s : Tagging}
    (hx : expander.Follows content) (ha : a.StandsFor s) {name : String}
    {n m : Nat} (h : (a.expand place expander name).run n = some (b, m)) :
    ∃ r, (place.expand (content name s)).run n = some (r, m)
      ∧ b.StandsFor r := by
  obtain ⟨c, k, hc, h⟩ := run_bind_eq_some.mp h
  obtain ⟨rfl, rfl⟩ := run_pure_eq_some.mp h
  obtain ⟨r, hr, hstands⟩ := Place.run_expand_eq_some hc fun k l hkl =>
    hx hkl ⟨ha.frames, ha.outside, ha.pending⟩
  exact ⟨r, hr, hstands.frames, hstands.outside, hstands.pending⟩

/-- So do the pieces of a text. The induction is on the pieces, as for every
property that references keep. -/
theorem addChunks_standsFor (hx : expander.Follows content)
    {chunks : List Chunk} {run : Run} {a b : Assembly} {s : Tagging}
    {n m : Nat}
    (h : (a.addChunks place expander run chunks).run n = some (b, m))
    (ha : a.StandsFor s) :
    ∃ r, (s.addChunks place content chunks).run n = some (r, m)
      ∧ b.StandsFor r := by
  induction chunks generalizing run a s n with
  | nil =>
      obtain ⟨rfl, rfl⟩ := run_pure_eq_some.mp h
      exact ⟨s, rfl, ha.addText _⟩
  | cons chunk rest ih =>
      unfold Assembly.addChunks at h
      cases chunk with
      | plain c => exact ih h ha
      | char c => exact ih h ha
      | entity name =>
          obtain ⟨c, k, hc, h⟩ := run_bind_eq_some.mp h
          obtain ⟨r, hr, hcr⟩ := (ha.addText _).expand hx hc
          obtain ⟨t, ht, hbt⟩ := ih h hcr
          exact ⟨t, run_bind_eq_some.mpr ⟨r, k, hr, ht⟩, hbt⟩

/-- One token takes an assembly and its tags the same way. -/
theorem step_standsFor (hx : expander.Follows content) {t : Token}
    {a b : Assembly} {s : Tagging} {n m : Nat}
    (h : (a.step place expander t).run n = some (b, m))
    (ha : a.StandsFor s) :
    ∃ r, (s.step place expander content t).run n = some (r, m)
      ∧ b.StandsFor r := by
  cases t with
  | opening name raw =>
      obtain ⟨as, k, has, h⟩ := run_bind_eq_some.mp h
      obtain ⟨hb, rfl⟩ := run_lift_eq_some.mp h
      exact ⟨_, run_bind_eq_some.mpr ⟨as, k, has, rfl⟩, ha.opens hb⟩
  | single name raw =>
      obtain ⟨as, k, has, h⟩ := run_bind_eq_some.mp h
      obtain ⟨hb, rfl⟩ := run_lift_eq_some.mp h
      exact ⟨_, run_bind_eq_some.mpr ⟨as, k, has, rfl⟩, ha.adds hb⟩
  | unfinished name raw =>
      obtain ⟨as, k, has, h⟩ := run_bind_eq_some.mp h
      obtain ⟨hb, rfl⟩ := run_lift_eq_some.mp h
      exact ⟨_, run_bind_eq_some.mpr ⟨as, k, has, rfl⟩, ha.waits hb⟩
  | closing name =>
      obtain ⟨hb, rfl⟩ := run_lift_eq_some.mp h
      exact ⟨_, rfl, ha.closes hb⟩
  | text raw =>
      obtain ⟨pieces, k, hpieces, h⟩ := run_bind_eq_some.mp h
      obtain ⟨r, hr, hbr⟩ := addChunks_standsFor hx h ha
      exact ⟨r, run_bind_eq_some.mpr ⟨pieces, k, hpieces, hr⟩, hbr⟩
  | literal raw =>
      obtain ⟨rfl, rfl⟩ := run_pure_eq_some.mp h
      exact ⟨s, rfl, ha.addText _⟩
  | comment text =>
      obtain ⟨rfl, rfl⟩ := run_pure_eq_some.mp h
      exact ⟨s, rfl, ha.addOther rfl⟩
  | instruction target data =>
      obtain ⟨rfl, rfl⟩ := run_pure_eq_some.mp h
      exact ⟨s, rfl, ha.addOther rfl⟩

/-- A run of tokens takes an assembly and its tags the same way. -/
theorem steps_standsFor (hx : expander.Follows content)
    {tokens : List Token} {a b : Assembly} {s : Tagging} {n m : Nat}
    (h : (a.steps place expander tokens).run n = some (b, m))
    (ha : a.StandsFor s) :
    ∃ r, (s.steps place expander content tokens).run n = some (r, m)
      ∧ b.StandsFor r := by
  induction tokens generalizing a s n with
  | nil =>
      obtain ⟨rfl, rfl⟩ := run_pure_eq_some.mp h
      exact ⟨s, rfl, ha⟩
  | cons t rest ih =>
      rw [Assembly.steps, List.foldlM_cons] at h
      obtain ⟨c, k, hc, h⟩ := run_bind_eq_some.mp h
      obtain ⟨r, hr, hcr⟩ := step_standsFor hx hc ha
      obtain ⟨u, hu, hbu⟩ := ih h hcr
      refine ⟨u, ?_, hbu⟩
      rw [Tagging.steps, List.foldlM_cons]
      exact run_bind_eq_some.mpr ⟨r, k, hr, hu⟩

/-- The tags of entities are followed, however deep they nest. -/
theorem expander_follows (entities : Entities) (depth : Nat) :
    (entities.expander depth).Follows (Tagging.ofEntity entities depth) := by
  induction depth with
  | zero =>
      intro name a b s n m h
      cases h
  | succ depth ih =>
      intro name a b s n m h ha
      obtain ⟨raw, k, hraw, h⟩ := run_bind_eq_some.mp h
      obtain ⟨⟨tokens, rest⟩, l, hscan, h⟩ := run_bind_eq_some.mp h
      obtain ⟨r, hr, hbr⟩ := steps_standsFor ih h ha
      exact ⟨r, run_bind_eq_some.mpr ⟨raw, k, hraw,
        run_bind_eq_some.mpr ⟨(tokens, rest), l, hscan, hr⟩⟩, hbr⟩

end Assembly

/-- A text that is read has a source, and the root that is read stands for
it. -/
theorem readContent_standsFor {text : String} {c : Content}
    (h : readContent text.toList = some c) :
    ∃ source, sourceOf text = some source ∧ c.root.StandsFor [] source := by
  simp only [readContent, Option.bind_eq_bind, Option.bind_eq_some_iff,
    Prod.exists] at h
  obtain ⟨front, hfront, body, hbody, a, m, ha, -, -, hc⟩ := h
  simp only [Content.ofTrees, Option.bind_eq_bind,
    Option.bind_eq_some_iff, Option.pure_def, Option.some.injEq] at hc
  obtain ⟨root, hroot, rfl⟩ := hc
  obtain ⟨s, hs, hstands⟩ := Assembly.steps_standsFor
    (Assembly.expander_follows front.entities expansionDepth) ha
    Assembly.standsFor_empty
  -- the root is the first element, on either side
  have hall := List.forall₂_reverse_iff.mpr hstands.outside
  rw [← Assembly.filter_settled] at hall
  rw [← List.head?_filter] at hroot
  have hsource : sourceOf text = s.outside.reverse.head? := by
    simp only [sourceOf, hfront, hbody, hs, Option.bind_eq_bind,
      Option.bind_some]
  rw [hsource]
  generalize (Assembly.settled a.outside).filter Tree.isElement = found
    at hall hroot
  generalize s.outside.reverse = sources at hall ⊢
  cases hall with
  | nil => cases hroot
  | cons first _ =>
      obtain rfl := Option.some.inj hroot
      exact ⟨_, rfl, first⟩

-- An entity with a tag that has no end: its attribute goes to the tag that
-- comes next.
example :
    sourceOf "<!DOCTYPE a [<!ENTITY e \"<b p:x='1'\">]><a>&e;<c y='2'/></a>"
    = some (.tag ⟨none, "a"⟩ []
      [.tag ⟨none, "c"⟩ [(⟨some "p", "x"⟩, "1"), (⟨none, "y"⟩, "2")] []]) := by
  rfl

end Overlay.Xml
