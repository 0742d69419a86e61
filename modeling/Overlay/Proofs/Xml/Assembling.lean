/-
What stays true while a document is put together.

# Kept properties

Tokens change an assembly in a handful of ways: a text or a leaf is
added, an element is opened, added or closed, a tag is left without its
end. `KeptBy T I` says of a property `I` that tokens of the kind `T` keep
it in each of these ways, and `steps_kept` that then whole runs of such
tokens do, the content of entities included. Entities nest, so the
induction is on the depth to which they may; what it carries is
`Expander.Keeps`, that whatever a reference expands to leaves `I` in
place. `Kept I` is the case where all that counts are spelled names, which
tokens that were scanned always have.

# Two of them

- `Assembly.Spelled`: every name in the trees read so far is spelled. The
  only names that are not read off the text are prefixes found in a
  scope, and a scope holds what declarations have put there.
- `Assembly.Rooted`: in front of the root stand comments and
  instructions only. Text outside of all elements can come up behind the
  root (an entity may close it early), never before.

Together they give `parse_spelled`, which is all that later modules know
about documents that were read.
-/
import Overlay.Proofs.Outcome
import Overlay.Proofs.Xml.Spelling

namespace Overlay.Xml

open Text

-- ========================================================== expansions

namespace Expansion

variable {α β : Type} {n m : Nat}

/-- An expansion that comes to something does so step by step, and hands its
count on from each to the next. -/
theorem run_bind_eq_some {x : Expansion α} {f : α → Expansion β} {b : β} :
    (x >>= f).run n = some (b, m)
      ↔ ∃ a k, x.run n = some (a, k) ∧ (f a).run k = some (b, m) := by
  simp [StateT.run_bind, Option.bind_eq_some_iff]

/-- An answer that counts nothing. -/
theorem run_lift (o : Option α) (n : Nat) :
    (liftM o : Expansion α).run n = o.map (·, n) := by
  cases o <;> rfl

/-- Where nothing is counted, the count stays. -/
theorem run_lift_eq_some {o : Option α} {b : α} :
    (liftM o : Expansion α).run n = some (b, m) ↔ o = some b ∧ n = m := by
  rw [run_lift, Option.map_eq_some_iff]
  simp

theorem run_pure_eq_some {a b : α} :
    (pure a : Expansion α).run n = some (b, m) ↔ a = b ∧ n = m := by
  simp [StateT.run_pure]

end Expansion

open Expansion

/-- What expanding a reference gives is what its inner computation
gives, whatever count it starts with. -/
theorem Place.exists_of_expand {α : Type} {place : Place}
    {inner : Expansion α} {b : α} {n m : Nat}
    (h : (place.expand inner).run n = some (b, m)) :
    ∃ k l, inner.run k = some (b, l) := by
  cases place with
  | document =>
      have h' : (inner 255).map (fun x => (x.1, n)) = some (b, m) := h
      obtain ⟨⟨c, l⟩, hc, he⟩ := Option.map_eq_some_iff.mp h'
      cases he
      exact ⟨255, l, hc⟩
  | entity =>
      obtain ⟨_, k, -, hk⟩ := run_bind_eq_some.mp h
      exact ⟨k, m, hk⟩

/-- Expanding values leaves the names of attributes as they are. -/
theorem name_of_expandAttributes {place : Place} {expander : Expander}
    {raw : List RawAttribute} {n m : Nat} {as : List (QName × String)}
    (h : (expandAttributes place expander raw).run n = some (as, m)) :
    as.map (·.1) = raw.map (·.name) := by
  induction raw generalizing n m as with
  | nil =>
      obtain ⟨rfl, -⟩ := run_pure_eq_some.mp h
      rfl
  | cons r raw ih =>
      rw [expandAttributes, List.mapM_cons] at h
      obtain ⟨a, k, ha, h⟩ := run_bind_eq_some.mp h
      obtain ⟨rest, l, hrest, h⟩ := run_bind_eq_some.mp h
      obtain ⟨rfl, -⟩ := run_pure_eq_some.mp h
      obtain ⟨_, _, -, ha⟩ := run_bind_eq_some.mp ha
      obtain ⟨_, _, -, ha⟩ := run_bind_eq_some.mp ha
      obtain ⟨rfl, -⟩ := run_pure_eq_some.mp ha
      rw [List.map_cons, List.map_cons, ih hrest]

namespace Assembly

-- ==================================================== what tags can do

/-- A tag is begun unless its name has the prefix that declares prefixes.
Nothing but the text in front of it ends there. -/
theorem of_beginTag {a b : Assembly} {name : QName}
    (h : a.beginTag name = some b) :
    name.nsPrefix ≠ some "xmlns"
      ∧ b = { a with inText := false, sawTag := true } := by
  rw [beginTag] at h
  split at h
  · cases h
  · rename_i hp
    exact ⟨by simpa using hp, (Option.some.inj h).symm⟩

/-- What an opened element changes: its names are resolved in the scope around
it, and what was pending for it is used up. -/
theorem of_openElement {a b : Assembly} {name : QName}
    {as : List (QName × String)} (h : a.openElement name as = some b) :
    name.nsPrefix ≠ some "xmlns" ∧ ∃ e inner,
      a.element name as = some (e, inner)
        ∧ b = { a with
            frames := ⟨name, e, inner, []⟩ :: a.frames
            pending := []
            inText := false
            sawTag := true } := by
  simp only [openElement, Option.bind_eq_bind, Option.bind_eq_some_iff,
    Prod.exists, Option.pure_def, Option.some.injEq] at h
  obtain ⟨c, hc, e, inner, he, rfl⟩ := h
  obtain ⟨hp, rfl⟩ := of_beginTag hc
  exact ⟨hp, e, inner, he, rfl⟩

/-- An element without content is added to what is around it, resolved in the
same way. -/
theorem of_addElement {a b : Assembly} {name : QName}
    {as : List (QName × String)} (h : a.addElement name as = some b) :
    name.nsPrefix ≠ some "xmlns" ∧ ∃ e inner,
      a.element name as = some (e, inner)
        ∧ b = Assembly.add
            { a with pending := [], inText := false, sawTag := true }
            (.element e []) := by
  simp only [addElement, Option.bind_eq_bind, Option.bind_eq_some_iff,
    Prod.exists, Option.pure_def, Option.some.injEq] at h
  obtain ⟨c, hc, e, inner, he, rfl⟩ := h
  obtain ⟨hp, rfl⟩ := of_beginTag hc
  refine ⟨hp, e, inner, he, ?_⟩
  cases a.frames <;> simp [add, modifyHere]

/-- A tag without its end leaves its attributes pending, for the next one. -/
theorem of_addUnfinished {a b : Assembly} {name : QName}
    {as : List (QName × String)} (h : a.addUnfinished name as = some b) :
    name.nsPrefix ≠ some "xmlns"
      ∧ b = { a with
          pending := a.pending ++ as
          inText := false
          sawTag := true } := by
  simp only [addUnfinished, Option.bind_eq_bind, Option.bind_eq_some_iff,
    Option.pure_def, Option.some.injEq] at h
  obtain ⟨c, hc, -, -, rfl⟩ := h
  obtain ⟨hp, rfl⟩ := of_beginTag hc
  exact ⟨hp, rfl⟩

/-- A closing tag adds the innermost open element, whose name it repeats, to
what is around it. Where none is open it forgets what was pending and adds
nothing. -/
theorem of_closeElement {a b : Assembly} {name : QName}
    (h : a.closeElement name = some b) :
    a.sawTag = true ∧
      (a.frames = [] ∧ b = { a with pending := [], inText := false }
        ∨ ∃ top rest, a.frames = top :: rest ∧ top.name = name
          ∧ b = Assembly.add
              { a with frames := rest, pending := [], inText := false }
              (.element top.element (settled top.inside))) := by
  simp only [closeElement, Option.bind_eq_bind, Option.bind_eq_some_iff,
    Option.guard_eq_some', exists_const] at h
  obtain ⟨hs, -, -, h⟩ := h
  refine ⟨hs, ?_⟩
  split at h
  · rename_i hf
    exact .inl ⟨hf, (Option.some.inj h).symm⟩
  · rename_i top rest hf
    simp only [Option.bind_eq_some_iff, Option.pure_def,
      Option.guard_eq_some', beq_iff_eq, Option.some.injEq,
      exists_const] at h
    exact .inr ⟨top, rest, hf, h.1, h.2.symm⟩

-- ===================================================== kept properties

/-- A property of assemblies that no token of a kind can break. The values
of the attributes of a tag are not known. -/
structure KeptBy (T : Token → Prop) (I : Assembly → Prop) : Prop where
  sawTag : ∀ {a} (b : Bool), I a → I { a with sawTag := b }
  text : ∀ {a} (s : String), I a → I (a.addText s)
  comment : ∀ {a} {s : String}, I a → T (.comment s) →
    I (a.add (.comment s))
  instruction : ∀ {a} {t : String} {d : Option String}, I a →
    T (.instruction t d) → I (a.add (.instruction t d))
  opens : ∀ {a b} {name : QName} {raw : List RawAttribute}
    {as : List (QName × String)}, I a → T (.opening name raw) →
    as.map (·.1) = raw.map (·.name) → a.openElement name as = some b → I b
  adds : ∀ {a b} {name : QName} {raw : List RawAttribute}
    {as : List (QName × String)}, I a → T (.single name raw) →
    as.map (·.1) = raw.map (·.name) → a.addElement name as = some b → I b
  waits : ∀ {a b} {name : QName} {raw : List RawAttribute}
    {as : List (QName × String)}, I a → T (.unfinished name raw) →
    as.map (·.1) = raw.map (·.name) → a.addUnfinished name as = some b → I b
  closes : ∀ {a b} {name : QName}, I a →
    a.closeElement name = some b → I b

/-- A property of assemblies that no token with spelled names can
break. -/
structure Kept (I : Assembly → Prop) : Prop where
  sawTag : ∀ {a} (b : Bool), I a → I { a with sawTag := b }
  text : ∀ {a} (s : String), I a → I (a.addText s)
  comment : ∀ {a} {s : String}, I a → IsComment s.toList →
    I (a.add (.comment s))
  instruction : ∀ {a} {t : String} {d : Option String}, I a →
    (Token.instruction t d).Spelled → I (a.add (.instruction t d))
  opens : ∀ {a b} {name : QName} {as : List (QName × String)}, I a →
    name.Spelled → (∀ x ∈ as, x.1.Spelled) →
    a.openElement name as = some b → I b
  adds : ∀ {a b} {name : QName} {as : List (QName × String)}, I a →
    name.Spelled → (∀ x ∈ as, x.1.Spelled) →
    a.addElement name as = some b → I b
  waits : ∀ {a b} {name : QName} {as : List (QName × String)}, I a →
    name.Spelled → (∀ x ∈ as, x.1.Spelled) →
    a.addUnfinished name as = some b → I b
  closes : ∀ {a b} {name : QName}, I a →
    a.closeElement name = some b → I b

end Assembly

/-- Whatever a reference in content expands to keeps a property. -/
def Expander.Keeps (expander : Expander) (I : Assembly → Prop) : Prop :=
  ∀ {name : String} {a b : Assembly} {n m : Nat},
    (expander.content name a).run n = some (b, m) → I a → I b

namespace Assembly

section Kept

variable {T : Token → Prop} {I : Assembly → Prop} {place : Place}
  {expander : Expander}

/-- A reference keeps what the content of its entity keeps. -/
theorem expand_kept (hI : KeptBy T I) (hx : expander.Keeps I) {name : String}
    {a b : Assembly} {n m : Nat}
    (h : (a.expand place expander name).run n = some (b, m))
    (ha : I a) : I b := by
  obtain ⟨c, k, hc, h⟩ := run_bind_eq_some.mp h
  obtain ⟨rfl, -⟩ := run_pure_eq_some.mp h
  obtain ⟨_, _, hc⟩ := Place.exists_of_expand hc
  exact hI.sawTag _ (hx hc (hI.sawTag _ ha))

/-- A text keeps what its pieces keep, references among them. The induction is
on the pieces with the text that runs through them. -/
theorem addChunks_kept (hI : KeptBy T I) (hx : expander.Keeps I)
    {chunks : List Chunk} {run : Run} {a b : Assembly} {n m : Nat}
    (h : (a.addChunks place expander run chunks).run n = some (b, m))
    (ha : I a) : I b := by
  induction chunks generalizing run a n with
  | nil =>
      obtain ⟨rfl, -⟩ := run_pure_eq_some.mp h
      exact hI.text _ ha
  | cons chunk rest ih =>
      cases chunk with
      | plain c =>
          unfold addChunks at h
          exact ih h ha
      | char c =>
          unfold addChunks at h
          exact ih h ha
      | entity name =>
          unfold addChunks at h
          obtain ⟨c, k, hc, h⟩ := run_bind_eq_some.mp h
          exact ih h (expand_kept hI hx hc (hI.text _ ha))

/-- One token keeps a kept property. -/
theorem step_kept (hI : KeptBy T I) (hx : expander.Keeps I) {t : Token}
    (ht : T t) {a b : Assembly} {n m : Nat}
    (h : (a.step place expander t).run n = some (b, m)) (ha : I a) :
    I b := by
  cases t with
  | opening name raw =>
      obtain ⟨as, k, has, h⟩ := run_bind_eq_some.mp h
      exact hI.opens ha ht (name_of_expandAttributes has)
        (run_lift_eq_some.mp h).1
  | single name raw =>
      obtain ⟨as, k, has, h⟩ := run_bind_eq_some.mp h
      exact hI.adds ha ht (name_of_expandAttributes has)
        (run_lift_eq_some.mp h).1
  | unfinished name raw =>
      obtain ⟨as, k, has, h⟩ := run_bind_eq_some.mp h
      exact hI.waits ha ht (name_of_expandAttributes has)
        (run_lift_eq_some.mp h).1
  | closing name => exact hI.closes ha (run_lift_eq_some.mp h).1
  | text raw =>
      obtain ⟨chunks, k, -, h⟩ := run_bind_eq_some.mp h
      exact addChunks_kept hI hx h ha
  | literal raw =>
      obtain ⟨rfl, -⟩ := run_pure_eq_some.mp h
      exact hI.text _ ha
  | comment s =>
      obtain ⟨rfl, -⟩ := run_pure_eq_some.mp h
      exact hI.comment ha ht
  | instruction target data =>
      obtain ⟨rfl, -⟩ := run_pure_eq_some.mp h
      exact hI.instruction ha ht

/-- A run of tokens keeps a kept property. -/
theorem steps_kept (hI : KeptBy T I) (hx : expander.Keeps I)
    {tokens : List Token} (ht : ∀ t ∈ tokens, T t)
    {a b : Assembly} {n m : Nat}
    (h : (a.steps place expander tokens).run n = some (b, m))
    (ha : I a) : I b := by
  induction tokens generalizing a n with
  | nil =>
      obtain ⟨rfl, -⟩ := run_pure_eq_some.mp h
      exact ha
  | cons t rest ih =>
      rw [steps, List.foldlM_cons] at h
      obtain ⟨c, k, hc, h⟩ := run_bind_eq_some.mp h
      exact ih (fun u hu => ht u (List.mem_cons_of_mem t hu)) h
        (step_kept hI hx (ht t (List.mem_cons_self ..)) hc ha)

/-- Entities keep what their tokens keep, however deep they nest. -/
theorem expander_keeps (hI : KeptBy T I) {entities : Entities}
    (ht : ∀ name raw tokens rest, entities.lookup name = some raw →
      Scan.content raw = some (tokens, rest) → ∀ t ∈ tokens, T t)
    (depth : Nat) : (entities.expander depth).Keeps I := by
  induction depth with
  | zero =>
      intro name a b n m h
      cases h
  | succ depth ih =>
      intro name a b n m h ha
      obtain ⟨raw, k, hraw, h⟩ := run_bind_eq_some.mp h
      obtain ⟨⟨tokens, rest⟩, l, hscan, h⟩ := run_bind_eq_some.mp h
      exact steps_kept hI ih (ht name raw tokens rest
        (run_lift_eq_some.mp hraw).1 (run_lift_eq_some.mp hscan).1) h ha

/-- The names of attributes are spelled like those of their tag. -/
theorem Kept.keptBy (hI : Kept I) : KeptBy Token.Spelled I := by
  have hnames : ∀ {raw : List RawAttribute} {as : List (QName × String)},
      (∀ r ∈ raw, r.name.Spelled) → as.map (·.1) = raw.map (·.name) →
      ∀ x ∈ as, x.1.Spelled := by
    intro raw as hraw has x hx
    have hmem := List.mem_map_of_mem (f := (·.1)) hx
    rw [has] at hmem
    obtain ⟨r, hr, he⟩ := List.mem_map.mp hmem
    exact he ▸ hraw r hr
  exact {
    sawTag := hI.sawTag
    text := hI.text
    comment := hI.comment
    instruction := hI.instruction
    opens := fun ha ht has => hI.opens ha ht.1 (hnames ht.2 has)
    adds := fun ha ht has => hI.adds ha ht.1 (hnames ht.2 has)
    waits := fun ha ht has => hI.waits ha ht.1 (hnames ht.2 has)
    closes := hI.closes }

/-- The tokens of entities are spelled, so they keep what spelled tokens
keep. -/
theorem Kept.entities_keep (hI : Kept I) (entities : Entities) (depth : Nat) :
    (entities.expander depth).Keeps I :=
  expander_keeps hI.keptBy
    (fun _ _ _ _ _ => Scan.contentWithin_spelled) depth

end Kept

end Assembly

-- ====================================================== names resolved

/-- A scope in which every prefix is a part of a name. -/
def Scope.Spelled (scope : Scope) : Prop :=
  ∀ b ∈ scope, ∀ p, b.1 = some p → IsPart p.toList

theorem isPart_xml : IsPart "xml".toList := by
  refine ⟨rfl, fun c hc => ?_, by simp⟩
  have hc : c ∈ ['x', 'm', 'l'] := hc
  simp only [List.mem_cons, List.not_mem_nil, or_false] at hc
  rcases hc with rfl | rfl | rfl <;> rfl

theorem isPart_xmlns : IsPart "xmlns".toList := by
  refine ⟨rfl, fun c hc => ?_, by simp⟩
  have hc : c ∈ ['x', 'm', 'l', 'n', 's'] := hc
  simp only [List.mem_cons, List.not_mem_nil, or_false] at hc
  rcases hc with rfl | rfl | rfl | rfl | rfl <;> rfl

/-- A declaration is about a part of the name that makes it. -/
theorem bindingOf_spelled {own : Scope} {name : QName} {value : String}
    {b : Option Binding} (hn : name.Spelled)
    (h : bindingOf own name value = some b) : Scope.Spelled b.toList := by
  have hlocal : Scope.Spelled [(some name.localName, value)] := by
    intro c hc p hp
    rw [List.mem_singleton] at hc
    subst hc
    cases hp
    exact hn.localPart
  simp only [bindingOf] at h
  split at h
  · split at h
    · cases h
    · split at h
      · cases h
        exact fun c hc => by cases hc
      · cases h
        exact hlocal
  · split at h
    · split at h
      · cases h
      · cases h
        intro c hc p hp
        rw [Option.toList_some, List.mem_singleton] at hc
        subst hc
        cases hp
    · cases h
      exact fun c hc => by cases hc

/-- The last attribute adds its declaration, if it makes one, to those of
the others. -/
theorem ownBindings_concat (attributes : List (QName × String))
    (x : QName × String) :
    ownBindings (attributes ++ [x])
      = (ownBindings attributes).bind fun before =>
        (bindingOf before x.1 x.2).map fun made => before ++ made.toList := by
  rw [ownBindings, List.foldlM_append]
  refine Option.bind_congr fun before _ => ?_
  rw [List.foldlM_cons]
  exact Option.bind_fun_some _

/-- The bindings of a tag are made attribute by attribute, and each is checked
against those in front of it only. -/
theorem ownBindings_concat_eq_some_iff {attributes : List (QName × String)}
    {x : QName × String} {own : Scope} :
    ownBindings (attributes ++ [x]) = some own
      ↔ ∃ before made, ownBindings attributes = some before
        ∧ bindingOf before x.1 x.2 = some made
        ∧ own = before ++ made.toList := by
  simp only [ownBindings_concat, Option.bind_eq_some_iff,
    Option.map_eq_some_iff, exists_and_left, eq_comm (a := own)]

/-- Each declaration of an element is made by one of its attributes. -/
theorem bindingOf_of_mem_ownBindings {attributes : List (QName × String)}
    {own : Scope} (h : ownBindings attributes = some own) {b : Binding}
    (hb : b ∈ own) :
    ∃ x ∈ attributes, ∃ before, bindingOf before x.1 x.2 = some (some b) := by
  induction attributes using List.reverseRecOn generalizing own with
  | nil =>
      cases h
      cases hb
  | append_singleton attributes x ih =>
      obtain ⟨before, made, hbefore, hmade, rfl⟩ :=
        ownBindings_concat_eq_some_iff.mp h
      rcases List.mem_append.mp hb with hb | hb
      · obtain ⟨y, hy, hmakes⟩ := ih hbefore hb
        exact ⟨y, List.mem_append_left _ hy, hmakes⟩
      · rw [Option.mem_toList] at hb
        cases hb
        exact ⟨x, by simp, before, hmade⟩

/-- The prefix of a binding is read off the name of its attribute. -/
theorem ownBindings_spelled {attributes : List (QName × String)}
    {own : Scope} (hn : ∀ x ∈ attributes, x.1.Spelled)
    (h : ownBindings attributes = some own) : own.Spelled := by
  intro b hb
  obtain ⟨x, hx, before, hmakes⟩ := bindingOf_of_mem_ownBindings h hb
  exact bindingOf_spelled (hn x hx) hmakes b (by simp)

/-- What is seen inside an element has its prefixes from the scope around it or
from its own bindings. The induction is on the bindings around, each of which
goes behind unless it is hidden. -/
theorem enter_spelled {scope own : Scope} (hs : scope.Spelled)
    (ho : own.Spelled) : (scope.enter own).Spelled := by
  rw [Scope.enter]
  split
  · exact hs
  · clear * - hs ho
    induction scope generalizing own with
    | nil => exact ho
    | cons b rest ih =>
        rw [List.foldl_cons]
        refine ih (fun c hc => hs c (List.mem_cons_of_mem b hc)) ?_
        by_cases hb : own.any (·.1 == b.1) = true
        · rw [if_pos hb]
          exact ho
        rw [if_neg hb]
        intro c hc
        rcases List.mem_append.mp hc with hc | hc
        · exact ho c hc
        · rw [List.mem_singleton] at hc
          exact hs c (hc ▸ List.mem_cons_self ..)

/-- Prefixes that are found for a URI are parts of names. -/
theorem prefixOf?_spelled {scope : Scope} (hs : scope.Spelled)
    {uri p : String} (h : scope.prefixOf? uri = some p) :
    IsPart p.toList := by
  rw [Scope.prefixOf?] at h
  split at h
  · cases h
    exact isPart_xml
  · obtain ⟨b, hb, hp⟩ := Option.bind_eq_some_iff.mp h
    exact hs b (List.mem_of_find?_eq_some hb) p hp

/-- A declaration that stands for a binding has a spelled name. -/
theorem toAttribute_spelled {b : Binding}
    (h : ∀ p, b.1 = some p → IsPart p.toList) :
    b.toAttribute.name.Spelled := by
  obtain ⟨p, uri⟩ := b
  cases p with
  | none =>
      exact ⟨isPart_xmlns, fun p hp => by cases hp⟩
  | some p =>
      refine ⟨h p rfl, fun q hq => ?_⟩
      cases hq
      exact isPart_xmlns

/-- An attribute keeps its local name, whatever its prefix becomes. -/
theorem snd_of_expandAttributeName {scope : Scope} {name : QName}
    {e : Option String × String}
    (h : expandAttributeName scope name = some e) :
    e.2 = name.localName := by
  rw [expandAttributeName] at h
  split at h
  · cases h
    rfl
  · cases h
    rfl
  · obtain ⟨uri, -, rfl⟩ := Option.map_eq_some_iff.mp h
    rfl

/-- What the attributes of a tag are resolved to: the declarations that
are new, and then the others, whose names are different where prefixes
stand for their URIs. -/
theorem of_resolveAttributes {scope inner : Scope}
    {attributes : List (QName × String)} {resolved : List Attribute}
    (h : resolveAttributes scope attributes = some (resolved, inner)) :
    ∃ own expanded, ownBindings attributes = some own
      ∧ inner = scope.enter own
      ∧ (attributes.filter (!declares ·.1)).mapM
          (fun x => expandAttributeName inner x.1) = some expanded
      ∧ expanded.eraseDups.length = expanded.length
      ∧ resolved = (own.filter (!scope.contains ·)).map Binding.toAttribute
        ++ (expanded.zip (attributes.filter (!declares ·.1))).map
          fun x => attributeIn inner x.1 x.2.2 := by
  simp only [resolveAttributes, Option.bind_eq_bind,
    Option.bind_eq_some_iff, Option.pure_def, Option.some.injEq,
    Option.guard_eq_some', beq_iff_eq, exists_const, Prod.mk.injEq] at h
  obtain ⟨own, hown, expanded, hexp, hlen, hresolved, rfl⟩ := h
  exact ⟨own, expanded, hown, rfl, hexp, hlen, hresolved.symm⟩

/-- So the attributes of a resolved element are spelled, as their prefixes come
from a scope that is or are read. -/
theorem resolveAttributes_spelled {scope inner : Scope}
    {attributes : List (QName × String)} {resolved : List Attribute}
    (hs : scope.Spelled) (hn : ∀ x ∈ attributes, x.1.Spelled)
    (h : resolveAttributes scope attributes = some (resolved, inner)) :
    (∀ a ∈ resolved, a.name.Spelled) ∧ inner.Spelled := by
  obtain ⟨own, expanded, hown, rfl, hexp, -, rfl⟩ := of_resolveAttributes h
  have ho := ownBindings_spelled hn hown
  have hi := enter_spelled hs ho
  refine ⟨fun a ha => ?_, hi⟩
  rcases List.mem_append.mp ha with ha | ha
  · obtain ⟨b, hb, rfl⟩ := List.mem_map.mp ha
    exact toAttribute_spelled (ho b (List.mem_of_mem_filter hb))
  · obtain ⟨⟨e, n, v⟩, he, rfl⟩ := List.mem_map.mp ha
    have hmem := (List.of_mem_zip he).2
    have hlocal := snd_of_expandAttributeName (of_mem_zip_of_mapM hexp _ he)
    have hname := hn (n, v) (List.mem_of_mem_filter hmem)
    refine ⟨?_, fun p hp => ?_⟩
    · rw [attributeIn]
      exact hlocal ▸ hname.localPart
    obtain ⟨uri, -, hp⟩ := Option.bind_eq_some_iff.mp hp
    exact prefixOf?_spelled hi hp

/-- What an element stands for has its local name, and the attributes
that its attributes stand for. -/
theorem of_resolveElement {scope inner : Scope} {name : QName}
    {attributes : List (QName × String)} {e : Element}
    (h : resolveElement scope name attributes = some (e, inner)) :
    resolveAttributes scope attributes = some (e.attributes, inner)
      ∧ e.name = ⟨e.uri.bind inner.prefixOf?, name.localName⟩ := by
  obtain ⟨⟨resolved, inner'⟩, hr, h⟩ := Option.bind_eq_some_iff.mp h
  have hshape : ∃ uri : Option String, (⟨⟨uri.bind inner'.prefixOf?,
      name.localName⟩, uri, resolved⟩, inner') = (e, inner) := by
    cases hp : name.nsPrefix with
    | none =>
        simp only [hp, Option.pure_def, Option.bind_eq_bind,
          Option.bind_some, Option.some.injEq] at h
        exact ⟨_, h⟩
    | some p =>
        simp only [hp, Option.pure_def, Option.bind_eq_bind,
          Option.bind_eq_some_iff, Option.some.injEq] at h
        obtain ⟨uri, -, h⟩ := h
        exact ⟨uri, h⟩
  obtain ⟨uri, he⟩ := hshape
  cases he
  exact ⟨hr, rfl⟩

/-- Resolving keeps the spelling of an element. -/
theorem resolveElement_spelled {scope inner : Scope} {name : QName}
    {attributes : List (QName × String)} {e : Element}
    (hs : scope.Spelled) (hname : name.Spelled)
    (hn : ∀ x ∈ attributes, x.1.Spelled)
    (h : resolveElement scope name attributes = some (e, inner)) :
    (NodeKind.element e).Spelled ∧ inner.Spelled := by
  obtain ⟨hr, he⟩ := of_resolveElement h
  obtain ⟨hattrs, hi⟩ := resolveAttributes_spelled hs hn hr
  refine ⟨⟨?_, hattrs⟩, hi⟩
  rw [he]
  refine ⟨hname.localPart, fun p hp => ?_⟩
  obtain ⟨uri, -, hp⟩ := Option.bind_eq_some_iff.mp hp
  exact prefixOf?_spelled hi hp

-- ==================================================== spelling is kept

/-- An open element in which everything is spelled. -/
structure Frame.Spelled (f : Frame) : Prop where
  element : (NodeKind.element f.element).Spelled
  scope : f.scope.Spelled
  inside : AllOf NodeKind.Spelled f.inside

namespace Assembly

/-- An assembly in which everything is spelled. -/
structure Spelled (a : Assembly) : Prop where
  frames : ∀ f ∈ a.frames, f.Spelled
  outside : AllOf NodeKind.Spelled a.outside
  pending : ∀ x ∈ a.pending, x.1.Spelled

theorem spelled_empty : Spelled ({} : Assembly) :=
  ⟨by simp, trivial, by simp⟩

/-- The scope at a place is that of the innermost element, or the one in which
all begins. -/
theorem Spelled.scope {a : Assembly} (h : a.Spelled) :
    a.scope.Spelled := by
  rw [Assembly.scope]
  cases hf : a.frames with
  | nil => exact fun b hb => by cases hb
  | cons top rest => exact (h.frames top (by simp [hf])).scope

/-- What is read at the place at hand may change if it stays spelled. -/
theorem Spelled.modifyHere {a : Assembly} (h : a.Spelled)
    {f : List Tree → List Tree}
    (hf : ∀ ts, AllOf NodeKind.Spelled ts → AllOf NodeKind.Spelled (f ts)) :
    (a.modifyHere f).Spelled := by
  rw [Assembly.modifyHere]
  split
  case h_1 top rest hframes =>
      have htop := h.frames top (by simp [hframes])
      refine ⟨fun g hg => ?_, h.outside, h.pending⟩
      rcases List.mem_cons.mp hg with rfl | hg
      · exact ⟨htop.element, htop.scope, hf _ htop.inside⟩
      · exact h.frames g (by simp [hframes, hg])
  case h_2 => exact ⟨h.frames, hf _ h.outside, h.pending⟩

/-- A spelled tree can be added. -/
theorem Spelled.add {a : Assembly} (h : a.Spelled) {t : Tree}
    (ht : t.All NodeKind.Spelled) : (a.add t).Spelled := by
  obtain ⟨hf, ho, hp⟩ := h.modifyHere (f := (t :: ·)) fun ts hts => ⟨ht, hts⟩
  exact ⟨hf, ho, hp⟩

/-- A text has no name that could be wrong, whether it is joined with the one
in front of it or not. -/
theorem allOf_withText (joins : Bool) {s : String} (hs : s ≠ "")
    {ts : List Tree} (h : AllOf NodeKind.Spelled ts) :
    AllOf NodeKind.Spelled (withText joins s ts) := by
  have happend : ∀ t : String, t ++ s ≠ "" := by
    intro t ht
    rw [← String.toList_inj, String.toList_append] at ht
    exact hs (String.toList_inj.mp (List.append_eq_nil_iff.mp ht).2)
  unfold withText
  split
  · split
    · exact ⟨happend _, h.2⟩
    · exact ⟨hs, h⟩
  · exact ⟨hs, h⟩

/-- Closing an element leaves no blank text in it. -/
theorem notBlank_of_mem_settled {ts : List Tree} {s : String}
    (h : Tree.text s ∈ settled ts) : isBlankText s = false := by
  simpa using (List.mem_filter.mp h).2

/-- What is left when an element is closed was there before. -/
theorem allOf_settled {p : NodeKind → Prop} {ts : List Tree}
    (h : AllOf p ts) : AllOf p (settled ts) := by
  rw [allOf_iff] at h ⊢
  intro t ht
  exact h t (List.mem_reverse.mp (List.mem_of_mem_filter ht))

/-- What an assembly takes for the attributes of a tag. -/
theorem Spelled.resolved {a : Assembly} (h : a.Spelled) {name : QName}
    {as : List (QName × String)} (hname : name.Spelled)
    (has : ∀ x ∈ as, x.1.Spelled) {e : Element} {inner : Scope}
    (he : a.element name as = some (e, inner)) :
    (NodeKind.element e).Spelled ∧ inner.Spelled := by
  refine resolveElement_spelled h.scope hname (fun x hx => ?_) he
  rcases List.mem_append.mp hx with hx | hx
  · exact h.pending x hx
  · exact has x hx

/-- A tag that has begun, with other attributes waiting. -/
theorem Spelled.begun {a : Assembly} (h : a.Spelled)
    {pending : List (QName × String)} (hp : ∀ x ∈ pending, x.1.Spelled) :
    Spelled { a with pending := pending, inText := false, sawTag := true } :=
  ⟨h.frames, h.outside, hp⟩

/-- Spelling is kept, way by way. Where a name is not read off the text it
comes from the scope, and where a tree is not new it was spelled inside an open
element. -/
theorem spelled_kept : Kept Spelled where
  sawTag b h := ⟨h.frames, h.outside, h.pending⟩
  text s h := by
    rw [addText]
    split
    · exact h
    · rename_i hs
      obtain ⟨hf, ho, hp⟩ := h.modifyHere (f := withText _ s)
        fun ts hts => allOf_withText _ (by simpa using hs) hts
      exact ⟨hf, ho, hp⟩
  comment h hs := h.add hs
  instruction h ht := h.add ht
  opens h hname has hb := by
    obtain ⟨-, e, inner, he, rfl⟩ := of_openElement hb
    obtain ⟨hel, hin⟩ := h.resolved hname has he
    refine ⟨fun f hf => ?_, h.outside, by simp⟩
    rcases List.mem_cons.mp hf with rfl | hf
    · exact ⟨hel, hin, trivial⟩
    · exact h.frames f hf
  adds h hname has hb := by
    obtain ⟨-, e, inner, he, rfl⟩ := of_addElement hb
    exact (h.begun (by simp)).add ⟨(h.resolved hname has he).1, trivial⟩
  waits h hname has hb := by
    obtain ⟨-, rfl⟩ := of_addUnfinished hb
    refine h.begun fun x hx => ?_
    rcases List.mem_append.mp hx with hx | hx
    · exact h.pending x hx
    · exact has x hx
  closes := by
    intro a b name h hb
    obtain ⟨-, ⟨-, rfl⟩ | ⟨top, rest, hframes, -, rfl⟩⟩ :=
      of_closeElement hb
    · exact ⟨h.frames, h.outside, by simp⟩
    · have htop := h.frames top (by simp [hframes])
      have hrest : Spelled { a with
          frames := rest, pending := [], inText := false } :=
        ⟨fun f hf => h.frames f (by simp [hframes, hf]), h.outside,
          by simp⟩
      exact hrest.add (t := .element top.element (settled top.inside))
        ⟨htop.element, allOf_settled htop.inside⟩

end Assembly

-- ================================================ the root comes first

/-- Whether a tree may stand in front of the root. -/
def Tree.isRemark : Tree → Bool
  | .comment _ => true
  | .instruction _ _ => true
  | _ => false

/-- What is added behind an element, or an element behind anything,
changes nothing in front of the first element. -/
theorem takeWhile_concat {ts : List Tree} {t : Tree}
    (h : t.isElement = true ∨ ∃ u ∈ ts, u.isElement = true) :
    (ts ++ [t]).takeWhile (!·.isElement)
      = ts.takeWhile (!·.isElement) := by
  induction ts with
  | nil =>
      rcases h with h | ⟨u, hu, -⟩
      · simp [h]
      · cases hu
  | cons u ts ih =>
      rw [List.cons_append, List.takeWhile_cons, List.takeWhile_cons]
      by_cases hu : u.isElement = true
      · simp [hu]
      · rw [ih ?_]
        rcases h with h | ⟨v, hv, he⟩
        · exact .inl h
        · rcases List.mem_cons.mp hv with rfl | hv
          · exact absurd he hu
          · exact .inr ⟨v, hv, he⟩

namespace Assembly

/-- What stands in front of the first element. -/
def front (a : Assembly) : List Tree :=
  a.outside.reverse.takeWhile (!·.isElement)

/-- No element has come up, and outside there are only comments and
instructions. -/
structure Bare (a : Assembly) : Prop where
  frames : a.frames = []
  outside : ∀ t ∈ a.outside, t.isRemark = true

/-- An element has come up, and in front of it there are only comments
and instructions. -/
structure Rooted (a : Assembly) : Prop where
  started : a.frames ≠ [] ∨ ∃ t ∈ a.outside, t.isElement = true
  front : ∀ t ∈ a.front, t.isRemark = true

theorem Bare.front {a : Assembly} (h : a.Bare) :
    ∀ t ∈ a.front, t.isRemark = true := fun t ht =>
  h.outside t (List.mem_reverse.mp (List.takeWhile_subset _ ht))

/-- Adding an element, even where none has come up. -/
theorem rooted_add_element {a : Assembly}
    (h : ∀ t ∈ a.front, t.isRemark = true) (e : Element)
    (children : List Tree) : (a.add (.element e children)).Rooted := by
  rw [add, modifyHere]
  split
  case h_1 top rest hframes => exact ⟨.inl (by simp), h⟩
  case h_2 =>
      refine ⟨.inr ⟨_, List.mem_cons_self .., rfl⟩, ?_⟩
      rw [front, List.reverse_cons, takeWhile_concat (.inl rfl)]
      exact h

/-- What is read at the place at hand may change behind the first
element. -/
theorem Rooted.modifyHere {a : Assembly} (h : a.Rooted)
    {f : List Tree → List Tree}
    (hf : ∀ ts, (∃ t ∈ ts, t.isElement = true) →
      (∃ t ∈ f ts, t.isElement = true) ∧
        (f ts).reverse.takeWhile (!·.isElement)
          = ts.reverse.takeWhile (!·.isElement)) :
    (a.modifyHere f).Rooted := by
  rw [Assembly.modifyHere]
  split
  case h_1 top rest hframes => exact ⟨.inl (by simp), h.front⟩
  case h_2 hframes =>
      have hel := h.started.resolve_left fun hne => hne hframes
      obtain ⟨hex, heq⟩ := hf _ hel
      refine ⟨.inr hex, fun t ht => h.front t ?_⟩
      rw [Assembly.front] at ht ⊢
      rwa [heq] at ht

/-- Behind the root anything may be added: in front of it is still what was
there. -/
theorem Rooted.add {a : Assembly} (h : a.Rooted) (t : Tree) :
    (a.add t).Rooted := by
  have hcons : ∀ ts : List Tree, (∃ u ∈ ts, u.isElement = true) →
      (∃ u ∈ t :: ts, u.isElement = true)
        ∧ (t :: ts).reverse.takeWhile (!·.isElement)
          = ts.reverse.takeWhile (!·.isElement) := by
    rintro ts ⟨u, hu, he⟩
    refine ⟨⟨u, List.mem_cons_of_mem t hu, he⟩, ?_⟩
    rw [List.reverse_cons,
      takeWhile_concat (.inr ⟨u, List.mem_reverse.mpr hu, he⟩)]
  obtain ⟨hs, hf⟩ := h.modifyHere (f := (t :: ·)) hcons
  exact ⟨hs, hf⟩

/-- A text changes nothing in front of the first element either. -/
theorem takeWhile_withText (joins : Bool) (s : String) {ts : List Tree}
    (h : ∃ t ∈ ts, t.isElement = true) :
    (∃ t ∈ withText joins s ts, t.isElement = true) ∧
      (withText joins s ts).reverse.takeWhile (!·.isElement)
        = ts.reverse.takeWhile (!·.isElement) := by
  have hcons : ∀ t, ∀ us : List Tree,
      (∃ u ∈ us, u.isElement = true) →
      (t :: us).reverse.takeWhile (!·.isElement)
        = us.reverse.takeWhile (!·.isElement) := by
    rintro t us ⟨u, hu, he⟩
    rw [List.reverse_cons,
      takeWhile_concat (.inr ⟨u, List.mem_reverse.mpr hu, he⟩)]
  have hmem : ∀ t, (∃ u ∈ ts, u.isElement = true) →
      ∃ u ∈ t :: ts, u.isElement = true := by
    rintro t ⟨u, hu, he⟩
    exact ⟨u, List.mem_cons_of_mem t hu, he⟩
  unfold withText
  split
  case h_1 t rest =>
      have hrest : ∃ u ∈ rest, u.isElement = true := by
        obtain ⟨u, hu, he⟩ := h
        rcases List.mem_cons.mp hu with rfl | hu
        · cases he
        · exact ⟨u, hu, he⟩
      split
      · obtain ⟨u, hu, he⟩ := hrest
        refine ⟨⟨u, List.mem_cons_of_mem _ hu, he⟩, ?_⟩
        rw [hcons _ _ ⟨u, hu, he⟩, hcons _ _ ⟨u, hu, he⟩]
      · exact ⟨hmem _ h, hcons _ _ h⟩
  case h_2 => exact ⟨hmem _ h, hcons _ _ h⟩

/-- No token takes the root back. An element that is closed is the root itself
or ends up inside, and until then it is open. -/
theorem rooted_kept : Kept Rooted where
  sawTag b h := ⟨h.started, h.front⟩
  text s h := by
    rw [addText]
    split
    · exact h
    · obtain ⟨hs, hf⟩ := h.modifyHere (f := withText _ s)
        fun ts hts => takeWhile_withText _ s hts
      exact ⟨hs, hf⟩
  comment h _ := h.add _
  instruction h _ := h.add _
  opens h _ _ hb := by
    obtain ⟨-, e, inner, -, rfl⟩ := of_openElement hb
    exact ⟨.inl (by simp), h.front⟩
  adds h _ _ hb := by
    obtain ⟨-, e, inner, -, rfl⟩ := of_addElement hb
    refine rooted_add_element ?_ e []
    exact h.front
  waits h _ _ hb := by
    obtain ⟨-, rfl⟩ := of_addUnfinished hb
    exact ⟨h.started, h.front⟩
  closes h hb := by
    obtain ⟨-, ⟨-, rfl⟩ | ⟨top, rest, -, -, rfl⟩⟩ := of_closeElement hb
    · exact ⟨h.started, h.front⟩
    · refine rooted_add_element ?_ _ _
      exact h.front

-- ==================================================== a whole document

variable {place : Place} {expander : Expander}

/-- Comments and instructions leave a document bare. -/
theorem bare_steps {tokens : List Token}
    (ht : ∀ t ∈ tokens, t.isRemark = true) {a b : Assembly} {n m : Nat}
    (h : (a.steps place expander tokens).run n = some (b, m))
    (ha : a.Bare) : b.Bare := by
  have hadd : ∀ {a : Assembly} {t : Tree}, a.Bare →
      t.isRemark = true → (a.add t).Bare := by
    intro a t ha ht
    rw [add, modifyHere, ha.frames]
    refine ⟨rfl, fun u hu => ?_⟩
    rcases List.mem_cons.mp hu with rfl | hu
    · exact ht
    · exact ha.outside u hu
  induction tokens generalizing a n with
  | nil =>
      obtain ⟨rfl, -⟩ := run_pure_eq_some.mp h
      exact ha
  | cons t rest ih =>
      rw [steps, List.foldlM_cons] at h
      obtain ⟨c, k, hc, h⟩ := run_bind_eq_some.mp h
      refine ih (fun u hu => ht u (List.mem_cons_of_mem t hu)) h ?_
      have htop := ht t (List.mem_cons_self ..)
      cases t with
      | comment s =>
          obtain ⟨rfl, -⟩ := run_pure_eq_some.mp hc
          exact hadd ha rfl
      | instruction target data =>
          obtain ⟨rfl, -⟩ := run_pure_eq_some.mp hc
          exact hadd ha rfl
      | _ => cases htop

/-- The tokens of the root leave a document rooted, unless there is
nothing but a tag without an end. -/
theorem rooted_or_bare {depth : Nat} {entities : Entities}
    {others rest : List Char} {tokens : List Token}
    (ht : Scan.element others = some (tokens, rest)) {a b : Assembly}
    {n m : Nat}
    (h : (a.steps place (entities.expander depth) tokens).run n
      = some (b, m)) (ha : a.Bare) : b.Bare ∨ b.Rooted := by
  rcases Scan.element_cases ht with
    rfl | ⟨name, as, -, -, rfl | rfl | ⟨us, hus, rfl⟩⟩
  · obtain ⟨rfl, -⟩ := run_pure_eq_some.mp h
    exact .inl ha
  · rw [steps, List.foldlM_cons] at h
    obtain ⟨c, k, hc, h⟩ := run_bind_eq_some.mp h
    obtain ⟨rfl, -⟩ := run_pure_eq_some.mp h
    obtain ⟨_, _, -, hc⟩ := run_bind_eq_some.mp hc
    obtain ⟨-, e, inner, -, rfl⟩ := of_addElement (run_lift_eq_some.mp hc).1
    refine .inr (rooted_add_element ?_ e [])
    exact ha.front
  · rw [steps, List.foldlM_cons] at h
    obtain ⟨c, k, hc, h⟩ := run_bind_eq_some.mp h
    obtain ⟨rfl, -⟩ := run_pure_eq_some.mp h
    obtain ⟨_, _, -, hc⟩ := run_bind_eq_some.mp hc
    obtain ⟨-, rfl⟩ := of_addUnfinished (run_lift_eq_some.mp hc).1
    exact .inl ⟨ha.frames, ha.outside⟩
  · rw [steps, List.foldlM_cons] at h
    obtain ⟨c, k, hc, h⟩ := run_bind_eq_some.mp h
    obtain ⟨_, _, -, hc⟩ := run_bind_eq_some.mp hc
    obtain ⟨-, e, inner, -, rfl⟩ :=
      of_openElement (run_lift_eq_some.mp hc).1
    exact .inr (steps_kept rooted_kept.keptBy
      (rooted_kept.entities_keep entities depth) hus h
      ⟨.inl (by simp), ha.front⟩)

/-- All tokens of a document leave it bare or rooted, and spelled. -/
theorem whole_document {cs : List Char} {front : Front}
    {body : List Token} (hfront : Scan.front cs = some front)
    (hbody : Scan.body front.rest = some body) {depth n m : Nat}
    {b : Assembly}
    (h : (steps .document (front.entities.expander depth) {}
      (front.tokens ++ body)).run n = some (b, m)) :
    (b.Bare ∨ b.Rooted) ∧ b.Spelled := by
  obtain ⟨before, root, after, rest, others, rfl, hbefore, hroot, hafter⟩ :=
    Scan.of_body hbody
  have hlead := Scan.front_spelled hfront
  have hspelled : ∀ t ∈ front.tokens ++ (before ++ root ++ after),
      t.Spelled := by
    intro t ht
    simp only [List.mem_append] at ht
    rcases ht with ht | (ht | ht) | ht
    · exact (hlead t ht).1
    · exact (hbefore t ht).1
    · exact Scan.element_spelled hroot t ht
    · exact (hafter t ht).1
  refine ⟨?_, steps_kept spelled_kept.keptBy
    (spelled_kept.entities_keep _ _) hspelled h spelled_empty⟩
  -- the front and what follows it, then the root, then the end
  rw [steps, ← List.append_assoc, ← List.append_assoc,
    List.foldlM_append, List.foldlM_append] at h
  obtain ⟨d, l, h, hend⟩ := run_bind_eq_some.mp h
  obtain ⟨c, k, hstart, hmiddle⟩ := run_bind_eq_some.mp h
  have hc : c.Bare := by
    refine bare_steps (fun t ht => ?_) hstart ⟨rfl, by simp⟩
    rcases List.mem_append.mp ht with ht | ht
    · exact (hlead t ht).2
    · exact (hbefore t ht).2
  rcases rooted_or_bare hroot hmiddle hc with hd | hd
  · exact .inl (bare_steps (fun t ht => (hafter t ht).2) hend hd)
  · exact .inr (steps_kept rooted_kept.keptBy (rooted_kept.entities_keep _ _)
      (fun t ht => (hafter t ht).1) hend hd)

end Assembly

/-- What holds of the content of a document that was read. -/
structure Content.Spelled (c : Content) : Prop where
  isElement : c.root.isElement = true
  root : c.root.All NodeKind.Spelled
  prolog : ∀ t ∈ c.prolog, t.isRemark = true ∧ t.All NodeKind.Spelled
  epilog : ∀ t ∈ c.epilog, t.isElement = false ∧ t.All NodeKind.Spelled
  epilogText : ∀ s, .text s ∈ c.epilog → isBlankText s = false

/-- Leaving texts out that stand behind the first element, or in front
of it, keeps what else stands in front of it. -/
theorem mem_takeWhile_filter {α : Type} {p q : α → Bool} {xs : List α}
    (h : ∀ x ∈ xs, p x = false → q x = true) {x : α}
    (hx : x ∈ (xs.filter q).takeWhile p) : x ∈ xs.takeWhile p := by
  induction xs with
  | nil => exact hx
  | cons y ys ih =>
      have ih := ih fun z hz => h z (List.mem_cons_of_mem y hz)
      by_cases hq : q y = true
      · rw [List.filter_cons_of_pos hq, List.takeWhile_cons] at hx
        rw [List.takeWhile_cons]
        split at hx
        case isTrue hp =>
            rw [if_pos hp]
            rcases List.mem_cons.mp hx with rfl | hx
            · exact List.mem_cons_self ..
            · exact List.mem_cons_of_mem y (ih hx)
        case isFalse => cases hx
      · rw [List.filter_cons_of_neg hq] at hx
        have hp : p y = true := by
          by_contra hp
          exact hq (h y (List.mem_cons_self ..) (by simpa using hp))
        rw [List.takeWhile_cons, if_pos hp]
        exact List.mem_cons_of_mem y (ih hx)

/-- The content that was read is spelled. -/
theorem readContent_spelled {cs : List Char} {c : Content}
    (h : readContent cs = some c) : c.Spelled := by
  simp only [readContent, Option.bind_eq_bind, Option.bind_eq_some_iff,
    Prod.exists] at h
  obtain ⟨front, hfront, body, hbody, a, m, ha, -, -, hc⟩ := h
  obtain ⟨hroot, hspelled⟩ := Assembly.whole_document hfront hbody ha
  have hall := allOf_iff.mp (Assembly.allOf_settled hspelled.outside)
  have hfirst : ∀ t ∈ a.front, t.isRemark = true :=
    hroot.elim (·.front) (·.front)
  simp only [Content.ofTrees, Option.bind_eq_bind,
    Option.bind_eq_some_iff, Option.pure_def, Option.some.injEq] at hc
  obtain ⟨root, hr, rfl⟩ := hc
  refine ⟨List.find?_some hr, hall _ (List.mem_of_find?_eq_some hr),
    fun t ht => ⟨hfirst t ?_, hall t (List.takeWhile_subset _ ht)⟩,
    fun t ht => ?_, fun s hs => ?_⟩
  · refine mem_takeWhile_filter (fun u _ hu => ?_) ht
    cases u <;> simp_all [Tree.isElement]
  · rw [List.mem_filter] at ht
    refine ⟨by simpa using ht.2, hall t ?_⟩
    exact (List.dropWhile_subset _ (List.mem_of_mem_drop ht.1))
  · have hs := (List.mem_filter.mp hs).1
    exact Assembly.notBlank_of_mem_settled
      (List.dropWhile_subset _ (List.mem_of_mem_drop hs))

/-- A document that was read is made of spelled content. -/
theorem parse_spelled {s : String} {doc : Document}
    (h : Document.parse s = some doc) :
    ∃ c : Content, c.Spelled ∧ doc = .ofContent c := by
  obtain ⟨c, hc, rfl⟩ := Option.map_eq_some_iff.mp h
  exact ⟨c, readContent_spelled hc, rfl⟩

/-- All the trees of a document that was read are spelled, in order. -/
theorem Content.Spelled.trees {c : Content} (h : c.Spelled) :
    AllOf NodeKind.Spelled (c.prolog ++ c.root :: c.epilog) := by
  rw [allOf_iff]
  intro t ht
  simp only [List.mem_append, List.mem_cons] at ht
  rcases ht with ht | rfl | ht
  · exact (h.prolog t ht).2
  · exact h.root
  · exact (h.epilog t ht).2

/-- Every node of a document that was read is spelled. -/
theorem kind_of_parse {s : String} {doc : Document}
    (h : Document.parse s = some doc) {id : Nat} {kind : NodeKind}
    (hk : doc.kind? id = some kind) : kind.Spelled := by
  obtain ⟨c, hc, rfl⟩ := parse_spelled h
  obtain ⟨x, hx, rfl⟩ := Option.map_eq_some_iff.mp hk
  have hmem : x ∈ nodesOfAll 0 none (c.prolog ++ c.root :: c.epilog) := by
    rw [Document.ofContent_eq] at hx
    exact List.mem_of_getElem? (by simpa using hx)
  exact kind_of_mem_nodesOfAll _ hc.trees hmem

end Overlay.Xml
