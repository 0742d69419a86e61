/-
The names of a document that was read, beside the names in its text.

# What a text says of its names

A tag says what its names are by the declarations among its own
attributes and those of the tags around it, innermost first (`Tag`,
`Source.tags`). This can be read off the text, without any scope
(`Tag.resolve?`).

# What the document says of them

In the document prefixes are others: each is looked up from a URI. Still
the element at hand says the same as its tag, prefix for prefix, and its
names are in the namespaces in which they were written
(`Document.KeepsNames`). The proof goes down the tree beside the tags
inside the root. On the way the scope in which a tag was resolved agrees
with the tags around it on one side (`agrees_enter`) and with the elements
around it on the other (`agrees_resolveAttributes`), so that both agree
with each other.

# What is lost

An attribute without a prefix is in no namespace, but the prefix of an
attribute is looked up as if it were that of an element. Where the default
namespace is first to have its URI, none is left. Such an attribute looks
like one in no namespace, and may have the name of another one
(`two_attributes_share_a_name`). This is all that can happen: an attribute
loses its prefix only if the default namespace has its URI, and names of
attributes differ unless a tag has an attribute without a prefix and one
with a prefix for the default namespace, both with the same local name
(`Tag.Apart`).
-/
import Overlay.Proofs.Xml.Forests
import Overlay.Proofs.Xml.Patching
import Overlay.Proofs.Xml.Tagging

namespace Overlay.Xml

-- ============================================= declarations as written

/-- Whether an attribute of this name declares a prefix, or the default
namespace. -/
def QName.declaresPrefix (n : QName) : Option String → Bool
  | none => n.declaresDefault
  | some p => n == QName.declaring (some p)

/-- What the attributes of a tag declare a prefix to be. What `xml` stands
for is not up to them. -/
def declaredBy (attributes : List (QName × String))
    (nsPrefix : Option String) : Option String :=
  if nsPrefix == some "xml" then none
  else (attributes.find? (·.1.declaresPrefix nsPrefix)).map (·.2)

/-- What is declared by the attributes of some tags, the innermost tag
first. -/
def declaredAround (tags : List (List (QName × String))) : Surroundings :=
  fun nsPrefix => tags.findSome? (declaredBy · nsPrefix)

/-- A tag where it stands: its name, its attributes, and the attributes of
the tags around it, innermost first. -/
structure Tag where
  name : QName
  attributes : List (QName × String)
  around : List (List (QName × String))

mutual

/-- The tags of a source in the order in which they are written. -/
def Source.tags (around : List (List (QName × String))) : Source → List Tag
  | .tag name attributes inside =>
    ⟨name, attributes, around⟩ :: tagsOfAll (attributes :: around) inside

/-- The tags of some sources. -/
def tagsOfAll (around : List (List (QName × String))) :
    List Source → List Tag
  | [] => []
  | s :: rest => s.tags around ++ tagsOfAll around rest

end

namespace Tag

/-- The URI that a prefix stands for at a tag, as it is written. -/
def resolve? (tag : Tag) (nsPrefix : Option String) : Option String :=
  (declaredAround (tag.attributes :: tag.around)).resolve? nsPrefix

/-- The attributes that make no declarations. -/
def others (tag : Tag) : List (QName × String) :=
  tag.attributes.filter (!declares ·.1)

/-- Whether the tag, and those around it, declare the default namespace at
most once, and not the prefix `xmlns`. -/
def DeclaresOnce (tag : Tag) : Prop :=
  ∀ as ∈ tag.attributes :: tag.around, DeclareOnce (as.map (·.1))

/-- Whether no attribute without a prefix has the local name of one that
is in the default namespace by its prefix. -/
def Apart (tag : Tag) : Prop :=
  ∀ x ∈ tag.others, ∀ y ∈ tag.others,
    x.1 = ⟨none, y.1.localName⟩ → y.1.nsPrefix ≠ none →
    tag.resolve? y.1.nsPrefix ≠ tag.resolve? none

instance (tag : Tag) : Decidable tag.DeclaresOnce :=
  inferInstanceAs (Decidable (∀ as ∈ tag.attributes :: tag.around, _))

instance (tag : Tag) : Decidable tag.Apart :=
  inferInstanceAs (Decidable (∀ x ∈ tag.others, _))

end Tag

-- ============================================= declarations of a scope

/-- An attribute adds its value to what is declared for the prefix that it
declares, and nothing for others. -/
theorem values_of_bindingOf {own : Scope} {name : QName} {value : String}
    {made : Option Binding} (h : bindingOf own name value = some made)
    {p : Option String} (hp : p ≠ some "xml") :
    (made.toList.filter (·.1 == p)).map (·.2)
      = if name.declaresPrefix p then [value] else [] := by
  obtain ⟨q, l⟩ := name
  simp only [bindingOf] at h
  split at h
  case isTrue hq =>
      obtain rfl : q = some "xmlns" := by simpa using hq
      split at h
      · cases h
      · rename_i hallowed
        simp only [Bool.not_eq_true, Bool.not_eq_false', Bool.and_eq_true,
          beq_iff_eq] at hallowed
        split at h
        · -- the prefix `xml`, which adds nothing
          rename_i hxml
          obtain rfl := Option.some.inj h
          have hl : l = "xml" := by simpa [hxml] using hallowed.1.2
          cases p with
          | none => rfl
          | some p =>
              have hne : ¬ "xml" = p := fun heq => hp (by rw [← heq])
              simp [QName.declaresPrefix, QName.declaring, hl, hne]
        · obtain rfl := Option.some.inj h
          cases p with
          | none => rfl
          | some p =>
              by_cases heq : l = p <;>
                simp [QName.declaresPrefix, QName.declaring, heq]
  case isFalse hq =>
      have hne : q ≠ some "xmlns" := by simpa using hq
      split at h
      · rename_i hl
        split at h
        · cases h
        · obtain rfl := Option.some.inj h
          cases p <;> simp [QName.declaresPrefix, QName.declaresDefault,
            QName.declaring, hne, eq_of_beq hl]
      · rename_i hl
        obtain rfl := Option.some.inj h
        cases p <;> simp_all [QName.declaresPrefix, QName.declaresDefault,
          QName.declaring]

/-- What the declarations of a tag say of a prefix is what is written,
value for value. -/
theorem values_ownBindings {attributes : List (QName × String)}
    {own : Scope} (h : ownBindings attributes = some own)
    {p : Option String} (hp : p ≠ some "xml") :
    (own.filter (·.1 == p)).map (·.2)
      = (attributes.filter (·.1.declaresPrefix p)).map (·.2) := by
  induction attributes using List.reverseRecOn generalizing own with
  | nil =>
      cases h
      rfl
  | append_singleton attributes x ih =>
      obtain ⟨before, made, hbefore, hmade, rfl⟩ :=
        ownBindings_concat_eq_some_iff.mp h
      rw [List.filter_append, List.map_append, ih hbefore,
        values_of_bindingOf hmade hp, List.filter_append, List.map_append,
        List.filter_singleton]
      cases x.1.declaresPrefix p <;> rfl

/-- What a tag that declares everything once declares is what is written
there. -/
theorem declaredBy_eq_some_iff {attributes : List (QName × String)}
    {own : Scope} (h : ownBindings attributes = some own)
    (ho : own.Distinct) {p : Option String} {uri : String} :
    declaredBy attributes p = some uri ↔ (p, uri) ∈ own := by
  by_cases hp : p = some "xml"
  · subst hp
    simpa [declaredBy] using fun hmem => ho.noXml _ hmem rfl
  have hmem : ∀ v, v ∈ (own.filter (·.1 == p)).map (·.2) ↔ (p, v) ∈ own := by
    intro v
    simp
  have hvalues := values_ownBindings h hp
  rw [declaredBy, if_neg (by simpa using hp), ← List.head?_filter,
    ← List.head?_map, ← hvalues, ← hmem]
  constructor
  · exact List.mem_of_mem_head?
  · intro huri
    -- all values are the same, so the first one is this one
    obtain ⟨v, rest, hcons⟩ := List.exists_cons_of_ne_nil
      (List.ne_nil_of_mem huri)
    have hv := (hmem v).mp (hcons ▸ List.mem_cons_self ..)
    obtain rfl : v = uri :=
      congrArg Prod.snd (ho.unique _ hv _ ((hmem uri).mp huri) rfl)
    rw [hcons, List.head?_cons]

theorem declaredAround_cons (attributes : List (QName × String))
    (tags : List (List (QName × String))) (p : Option String) :
    declaredAround (attributes :: tags) p
      = (declaredBy attributes p).or (declaredAround tags p) := by
  rw [declaredAround, List.findSome?_cons]
  cases declaredBy attributes p <;> rfl

/-- What holds inside a tag that declares everything once is what is
written there and around it. -/
theorem agrees_enter {scope own : Scope}
    {tags : List (List (QName × String))}
    (hs : scope.Agrees (declaredAround tags))
    {attributes : List (QName × String)}
    (h : ownBindings attributes = some own) (ho : own.Distinct) :
    (scope.enter own).Agrees (declaredAround (attributes :: tags)) := by
  refine ⟨hs.distinct.enter ho, fun p uri => ?_⟩
  rw [Scope.mem_enter_iff hs.distinct, declaredAround_cons,
    Option.or_eq_some_iff, declaredBy_eq_some_iff h ho, hs.mem_iff]
  rw [and_comm, Option.eq_none_iff_forall_ne_some]
  refine or_congr_right (and_congr_right fun _ => ?_)
  constructor
  · rintro hnone ⟨q, v⟩ hc rfl
    exact hnone v ((declaredBy_eq_some_iff h ho).mpr hc)
  · intro hkeys v hv
    exact hkeys _ ((declaredBy_eq_some_iff h ho).mp hv) rfl

/-- A tag that declares everything once makes no two declarations of one
prefix. -/
theorem nodup_ownBindings {attributes : List (QName × String)}
    {own : Scope} (h : ownBindings attributes = some own)
    (hnames : DeclareOnce (attributes.map (·.1))) :
    (own.map (·.1)).Nodup := by
  have hdefault : (own.filter (·.1 == none)).length ≤ 1 := by
    have hvalues := congrArg List.length
      (values_ownBindings h (p := none) (by simp))
    have hone := hnames.1
    rw [List.filter_map, List.length_map] at hone
    rw [List.length_map, List.length_map] at hvalues
    rw [hvalues]
    exact hone
  have hnone : own.Pairwise fun b c => b.1 = none → c.1 = none → False := by
    have hfilter : (own.filter (·.1 == none)).Pairwise fun _ _ => False := by
      generalize own.filter (·.1 == none) = defaults at hdefault ⊢
      rcases defaults with _ | ⟨b, _ | ⟨c, rest⟩⟩
      · exact .nil
      · exact List.pairwise_singleton _ b
      · simp at hdefault
    rw [List.pairwise_filter] at hfilter
    exact hfilter.imp fun hbc hb hc => hbc (by simp [hb]) (by simp [hc])
  rw [List.Nodup, List.pairwise_map]
  refine ((pairwise_ownBindings h).and hnone).imp ?_
  rintro b c ⟨hkeys, hdefault⟩ heq
  by_cases hb : b.1 = none
  · exact hdefault hb (heq ▸ hb)
  · exact hkeys hb (heq ▸ hb) heq

-- ==================================================== names of a scope

namespace Scope

variable {scope : Scope} {around : Surroundings}

/-- Without a URI an attribute has no prefix. -/
theorem of_expand_none {name : QName} {l : String}
    (h : expandAttributeName scope name = some (none, l)) :
    name = ⟨none, l⟩ := by
  obtain ⟨q, m⟩ := name
  rw [expandAttributeName] at h
  split at h
  case h_1 hq =>
      cases h
      exact congrArg (QName.mk · m) hq
  case h_2 => cases h
  case h_3 =>
      obtain ⟨u, hu, he⟩ := Option.map_eq_some_iff.mp h
      obtain ⟨v, -, rfl⟩ := Option.map_eq_some_iff.mp hu
      cases he

/-- With a URI it has one. -/
theorem of_expand_some {name : QName} {uri l : String}
    (h : expandAttributeName scope name = some (some uri, l)) :
    ∃ p, name = ⟨some p, l⟩ := by
  obtain ⟨q, m⟩ := name
  have hl : l = m := snd_of_expandAttributeName h
  cases q with
  | none => cases h
  | some q => exact ⟨q, congrArg (QName.mk (some q)) hl.symm⟩

/-- The URI of an attribute is known where it is resolved. -/
theorem knows_of_expand {name : QName} {ex : Option String × String}
    (h : expandAttributeName scope name = some ex) {uri : String}
    (huri : ex.1 = some uri) : scope.Knows uri := by
  rw [expandAttributeName] at h
  split at h
  · cases h
    cases huri
  · cases h
    exact .inl (Option.some.inj huri).symm
  · obtain ⟨u, hu, rfl⟩ := Option.map_eq_some_iff.mp h
    obtain ⟨v, hv, rfl⟩ := Option.map_eq_some_iff.mp hu
    obtain rfl := Option.some.inj huri
    exact .inr ⟨_, mem_of_uri? hv⟩

/-- Different URIs have different prefixes. -/
theorem Distinct.prefixOf?_inj (h : scope.Distinct) {u v : String}
    (hu : scope.Knows u) (hv : scope.Knows v)
    (heq : scope.prefixOf? u = scope.prefixOf? v) : u = v := by
  have hmem : ∀ {w}, scope.Knows w → w ≠ xmlUri →
      (scope.prefixOf? w, w) ∈ scope := by
    rintro w hw hne
    obtain ⟨p, hp⟩ := hw.resolve_left hne
    exact mem_prefixOf? hp hne
  by_cases hux : u = xmlUri <;> by_cases hvx : v = xmlUri
  · rw [hux, hvx]
  · rw [hux, prefixOf?_xml] at heq
    exact absurd heq.symm (h.noXml _ (hmem hv hvx))
  · rw [hvx, prefixOf?_xml] at heq
    exact absurd heq (h.noXml _ (hmem hu hux))
  · exact congrArg Prod.snd (h.unique _ (hmem hu hux) _ (hmem hv hvx) heq)

/-- The prefix that an attribute keeps stands for what its prefix stood
for. -/
theorem Agrees.resolve?_expand (h : scope.Agrees around) {name : QName}
    {ex : Option String × String}
    (hex : expandAttributeName scope name = some ex) {p : String}
    (hp : name.nsPrefix = some p) :
    around.resolve? (ex.1.bind scope.prefixOf?)
      = around.resolve? (some p) := by
  have hknows : ∀ u, ex.1 = some u → scope.Knows u :=
    fun _ => knows_of_expand hex
  rw [expandAttributeName, hp] at hex
  split at hex
  case h_1 heq => cases heq
  case h_2 heq =>
      cases hex
      rw [Option.bind_some, heq, prefixOf?_xml]
  case h_3 q hne heq =>
      obtain rfl := Option.some.inj heq
      obtain ⟨u, hu, rfl⟩ := Option.map_eq_some_iff.mp hex
      obtain ⟨v, hv, rfl⟩ := Option.map_eq_some_iff.mp hu
      rw [Option.bind_some, h.resolve?_prefixOf? (hknows v rfl),
        Surroundings.resolve?, if_neg (by simpa using hne), h.uri?, hv]

/-- The URI of an element is that of its prefix, an empty one being
none. -/
theorem Agrees.uri_of_resolveElement {outer : Scope}
    (h : scope.Agrees around) {name : QName}
    {attributes : List (QName × String)} {e : Element}
    (he : resolveElement outer name attributes = some (e, scope)) :
    e.uri.filter (· != "") = around.resolve? name.nsPrefix := by
  obtain ⟨huri, hnone⟩ := Xml.uri_of_resolveElement he
  by_cases hxml : name.nsPrefix = some "xml"
  · -- `xml` is in no scope, and elements need their prefix there
    rw [hxml] at huri hnone
    cases hu : scope.uri? (some "xml") with
    | none => cases hnone (huri.trans hu)
    | some uri => exact absurd rfl (h.distinct.noXml _ (mem_of_uri? hu))
  · rw [Surroundings.resolve?, if_neg (by simpa using hxml), h.uri?, huri]

end Scope

theorem isDeclaration_declaring (p : Option String) :
    (QName.declaring p).isDeclaration = true := by
  cases p <;> rfl

theorem exists_declaring {n : QName} (h : n.isDeclaration = true) :
    ∃ p, n = QName.declaring p := by
  obtain ⟨q, l⟩ := n
  cases q with
  | none => exact ⟨none, congrArg (QName.mk none) (beq_iff_eq.mp h)⟩
  | some q =>
      obtain rfl : q = "xmlns" := beq_iff_eq.mp h
      exact ⟨some l, rfl⟩

namespace Document

variable {doc : Document} {i : Nat} {tag : Tag}

-- ========================================================= kept names

/-- Whether an attribute has the name and the value of one in a tag: its
prefix stands for what is written there, without a prefix it stays without
one, and it keeps one where the default namespace is another. -/
structure KeepsAttribute (doc : Document) (i : Nat) (tag : Tag)
    (a : Attribute) (x : QName × String) : Prop where
  localName : a.name.localName = x.1.localName
  value : a.value = x.2
  bare : x.1.nsPrefix = none → a.name.nsPrefix = none
  uri : ∀ p, x.1.nsPrefix = some p →
    doc.lookupNamespace i a.name.nsPrefix = tag.resolve? (some p)
  nsPrefix : ∀ p, x.1.nsPrefix = some p →
    tag.resolve? (some p) ≠ tag.resolve? none → a.name.nsPrefix ≠ none

/-- Whether an element keeps the names of its tag. Prefixes stand for what
they stand for there, its own for the namespace in which its name was
written, which is its URI (an empty one being none). It has the attributes
of the tag, declarations apart, and no two of them have the same name
unless they clash in the tag. -/
structure KeepsNames (doc : Document) (i : Nat) (tag : Tag) : Prop where
  lookup : ∀ p, doc.lookupNamespace i p = tag.resolve? p
  localName : doc.localName i = tag.name.localName
  uri : (doc.uri? i).filter (· != "") = tag.resolve? tag.name.nsPrefix
  nsPrefix : doc.lookupNamespace i (doc.nsPrefix? i)
    = tag.resolve? tag.name.nsPrefix
  attributes : List.Forall₂ (doc.KeepsAttribute i tag)
    ((doc.attributes i).filter (!·.name.isDeclaration)) tag.others
  nodup : tag.Apart → ((doc.attributes i).map (·.name.qualified)).Nodup

/-- Names that attributes are resolved to are kept apart. -/
theorem nodup_names {inner : Scope}
    (h : inner.Agrees (declaredAround (tag.attributes :: tag.around)))
    (hapart : tag.Apart) {expanded : List (Option String × String)}
    (hex : tag.others.mapM (fun x => expandAttributeName inner x.1)
      = some expanded) (hnodup : expanded.Nodup) :
    (expanded.map fun ex =>
      (⟨ex.1.bind inner.prefixOf?, ex.2⟩ : QName)).Nodup := by
  have hfrom : ∀ ex ∈ expanded, ∃ x ∈ tag.others,
      expandAttributeName inner x.1 = some ex := by
    intro ex hmem
    have hmem := List.mem_map_of_mem (f := some) hmem
    rw [← map_some_of_mapM hex] at hmem
    exact List.mem_map.mp hmem
  -- an attribute that lost its prefix is in the default namespace
  have hclash : ∀ l uri, (none, l) ∈ expanded → (some uri, l) ∈ expanded →
      inner.prefixOf? uri ≠ none := by
    intro l uri hl hu hnone
    obtain ⟨x, hx, hxe⟩ := hfrom _ hl
    obtain ⟨y, hy, hye⟩ := hfrom _ hu
    obtain ⟨p, hyn⟩ := Scope.of_expand_some hye
    have hsame := h.resolve?_expand hye (p := p) (by rw [hyn])
    rw [Option.bind_some, hnone] at hsame
    refine hapart x hx y hy ?_ (by simp [hyn]) ?_
    · rw [Scope.of_expand_none hxe, hyn]
    · rw [hyn]
      exact hsame.symm
  refine List.Nodup.map_on ?_ hnodup
  rintro ⟨u, l⟩ hu ⟨v, m⟩ hv heq
  simp only [QName.mk.injEq] at heq
  obtain ⟨hkept, rfl⟩ := heq
  cases u with
  | none =>
      cases v with
      | none => rfl
      | some v => exact absurd hkept.symm (hclash l v hu hv)
  | some u =>
      cases v with
      | none => exact absurd hkept (hclash l u hv hu)
      | some v =>
          obtain ⟨x, -, hx⟩ := hfrom _ hu
          obtain ⟨y, -, hy⟩ := hfrom _ hv
          rw [h.distinct.prefixOf?_inj (Scope.knows_of_expand hx rfl)
            (Scope.knows_of_expand hy rfl) hkept]

/-- The attributes of an element have different names if those of its tag
do not clash. -/
theorem nodup_resolved {scope inner : Scope} {resolved : List Attribute}
    (h : inner.Agrees (declaredAround (tag.attributes :: tag.around)))
    (hnames : DeclareOnce (tag.attributes.map (·.1))) (hapart : tag.Apart)
    (hr : resolveAttributes scope tag.attributes = some (resolved, inner)) :
    (resolved.map (·.name)).Nodup := by
  obtain ⟨own, expanded, hown, hin, hex, hlen, rfl⟩ := of_resolveAttributes hr
  have hkept := nodup_names h hapart hex (length_eraseDups_eq_iff.mp hlen)
  have hfst : (expanded.zip tag.others).map Prod.fst = expanded := by
    refine List.map_fst_zip (Nat.le_of_eq ?_)
    have := congrArg List.length (map_some_of_mapM hex)
    rw [List.length_map, List.length_map] at this
    exact this.symm
  rw [List.map_append, List.map_map, List.map_map, List.nodup_append]
  refine ⟨?_, ?_, ?_⟩
  · have hsub := (List.filter_sublist (p := (!scope.contains ·)) (l := own)).map
      (·.1)
    have hkeys := (nodup_ownBindings hown hnames).sublist hsub
    have := hkeys.map declaring_injective
    rwa [List.map_map] at this
  · rw [← hfst, List.map_map] at hkept
    exact hkept
  · intro n hn m hm heq
    obtain ⟨b, -, rfl⟩ := List.mem_map.mp hn
    obtain ⟨⟨ex, x⟩, hz, rfl⟩ := List.mem_map.mp hm
    have hother := (List.mem_filter.mp (List.of_mem_zip hz).2).2
    exact attributeIn_ne_declaring h.distinct (of_mem_zip_of_mapM hex _ hz)
      (by simpa using hother) b.1 heq.symm

variable {e : Element} {scope inner : Scope}

/-- An attribute keeps its name where its tag is resolved. -/
theorem keepsAttribute_of_expand
    (hlookup : ∀ p, doc.lookupNamespace i p = tag.resolve? p)
    (h : inner.Agrees (declaredAround (tag.attributes :: tag.around)))
    {x : QName × String} {ex : Option String × String}
    (hex : expandAttributeName inner x.1 = some ex) :
    doc.KeepsAttribute i tag (attributeIn inner ex x.2) x where
  localName := snd_of_expandAttributeName hex
  value := rfl
  bare hp := by
    rw [expandAttributeName, hp] at hex
    cases hex
    rfl
  uri p hp := (hlookup _).trans (h.resolve?_expand hex hp)
  nsPrefix p hp hne hnone := by
    have hsame := h.resolve?_expand hex hp
    rw [show ex.1.bind inner.prefixOf? = none from hnone] at hsame
    exact hne hsame.symm

/-- Declarations apart, the attributes of an element are those of its
tag. -/
theorem keepsAttributes
    (hlookup : ∀ p, doc.lookupNamespace i p = tag.resolve? p)
    (h : inner.Agrees (declaredAround (tag.attributes :: tag.around)))
    {resolved : List Attribute}
    (hr : resolveAttributes scope tag.attributes = some (resolved, inner)) :
    List.Forall₂ (doc.KeepsAttribute i tag)
      (resolved.filter (!·.name.isDeclaration)) tag.others := by
  obtain ⟨own, expanded, -, -, hex, -, rfl⟩ := of_resolveAttributes hr
  have hdeclared : ((own.filter (!scope.contains ·)).map
      Binding.toAttribute).filter (!·.name.isDeclaration) = [] := by
    refine List.filter_eq_nil_iff.mpr fun a ha => ?_
    obtain ⟨b, -, rfl⟩ := List.mem_map.mp ha
    simp [Binding.toAttribute, isDeclaration_declaring]
  have hkept : ∀ a ∈ (expanded.zip tag.others).map
      (fun x => attributeIn inner x.1 x.2.2),
      (!a.name.isDeclaration) = true := by
    intro a ha
    obtain ⟨⟨ex, x⟩, hz, rfl⟩ := List.mem_map.mp ha
    have hother := (List.mem_filter.mp (List.of_mem_zip hz).2).2
    by_contra hno
    obtain ⟨p, hp⟩ := exists_declaring (by simpa using hno)
    exact attributeIn_ne_declaring h.distinct (of_mem_zip_of_mapM hex _ hz)
      (by simpa using hother) p hp
  rw [List.filter_append, hdeclared, List.nil_append]
  rw [Tag.others] at hkept ⊢
  rw [List.filter_eq_self.mpr hkept]
  exact forall₂_zip_of_mapM hex fun x ex hx =>
    keepsAttribute_of_expand hlookup h hx

/-- An element keeps the names of the tag that it is resolved from. -/
theorem keepsNames_of_element (he : doc.element? i = some e)
    (hs : (NodeKind.element e).Spelled)
    (hr : resolveElement scope tag.name tag.attributes = some (e, inner))
    (hdoc : scope.Agrees (doc.around i))
    (htags : scope.Agrees (declaredAround tag.around))
    (hnames : DeclareOnce (tag.attributes.map (·.1))) :
    doc.KeepsNames i tag := by
  obtain ⟨hra, hname⟩ := of_resolveElement hr
  obtain ⟨hresolved, hin⟩ := resolveElement_resolved hdoc hnames hr
  obtain ⟨own, -, hown, hinner, -⟩ := of_resolveAttributes hra
  have hout : inner.Agrees (declaredAround (tag.attributes :: tag.around)) :=
    hinner ▸ agrees_enter htags hown (distinct_ownBindings hown hnames)
  have hlookup : ∀ p, doc.lookupNamespace i p = tag.resolve? p := by
    intro p
    rw [lookupNamespace, findSome?_lineage he, hin.uri?, ← hout.uri?]
    rfl
  have hattributes : doc.attributes i = e.attributes := by
    rw [attributes, he]
    rfl
  have huri : (doc.uri? i).filter (· != "")
      = tag.resolve? tag.name.nsPrefix := by
    rw [uri?, he]
    exact hout.uri_of_resolveElement hr
  refine {
    lookup := hlookup
    localName := ?_
    uri := huri
    nsPrefix := ((isResolved_iff he).mpr hresolved).symm.trans huri
    attributes := hattributes ▸ keepsAttributes hlookup hout hra
    nodup := fun hapart => ?_ }
  · rw [localName, name?, he, Option.map_some, hname]
    rfl
  · have hnodup := nodup_resolved hout hnames hapart hra
    have hqualified := hnodup.map_on fun m hm n hn heq => by
      obtain ⟨a, ha, rfl⟩ := List.mem_map.mp hm
      obtain ⟨b, hb, rfl⟩ := List.mem_map.mp hn
      exact (hs.2 a ha).qualified_inj (hs.2 b hb) heq
    rw [List.map_map] at hqualified
    rw [hattributes]
    exact hqualified

-- ======================================================= down the tree

theorem isElement_tree (doc : Document) (i : Nat) :
    (doc.tree i).isElement = doc.isElement i := by
  rw [tree, Document.isElement, element?]
  cases doc.kind? i with
  | none => rfl
  | some kind => cases kind <;> rfl

/-- A tree that is an element stands at an element, above the trees of its
children. -/
theorem Linked.of_tree (hl : doc.Linked) (hs : doc.Sound)
    {children : List Tree} (h : doc.tree i = .element e children) :
    doc.element? i = some e
      ∧ children.filter Tree.isElement
        = (doc.elementChildren i).map doc.tree := by
  have hel : doc.isElement i = true := by
    rw [← isElement_tree, h]
    rfl
  obtain ⟨e', he⟩ := Option.isSome_iff_exists.mp hel
  rw [tree, element?_eq_some_iff.mp he] at h
  obtain ⟨rfl, rfl⟩ := Tree.element.inj h
  refine ⟨he, ?_⟩
  have hchildren : ∀ c ∈ doc.children i,
      (if _h : i < c ∧ c < doc.size then [doc.tree c] else [])
        = [doc.tree c] := fun c hc =>
    dif_pos ⟨(hl.child i c hc).2, hs.children i c hc⟩
  rw [List.flatMap_congr hchildren, ← List.map_eq_flatMap, List.filter_map,
    elementChildren]
  exact congrArg _ (List.filter_congr fun c _ => doc.isElement_tree c)

mutual

/-- The elements at and below a node keep the names of the tags that its
tree stands for. -/
theorem keepsNames_at (hl : doc.Linked) (hs : doc.Sound)
    (hspelled : ∀ {i kind}, doc.kind? i = some kind → kind.Spelled)
    (source : Source) {i : Nat} {scope : Scope}
    {around : List (List (QName × String))}
    (ht : (doc.tree i).StandsFor scope source)
    (hscope : (∀ as ∈ around, DeclareOnce (as.map (·.1))) →
      scope.Agrees (doc.around i) ∧ scope.Agrees (declaredAround around)) :
    List.Forall₂ (fun i tag => tag.DeclaresOnce → doc.KeepsNames i tag)
      (i :: doc.descendants i) (source.tags around) := by
  cases source with
  | tag name attributes inside =>
      generalize htree : doc.tree i = t at ht
      cases ht with
      | @element _ inner _ _ _ e children resolved below =>
          obtain ⟨he, hfilter⟩ := hl.of_tree hs htree
          have hkind := element?_eq_some_iff.mp he
          rw [allStandFor_iff, hfilter, List.forall₂_map_left_iff] at below
          rw [hl.descendants_eq hs, Source.tags]
          refine .cons (fun honce => ?_)
            (keepsNames_below hl hs hspelled inside below
              fun c hc honce => ?_)
          · obtain ⟨hnames, haround⟩ := List.forall_mem_cons.mp honce
            obtain ⟨hdoc, htags⟩ := hscope haround
            exact keepsNames_of_element he (hspelled hkind) resolved hdoc
              htags hnames
          · -- the scope inside agrees with both, one tag further down
            obtain ⟨hnames, haround⟩ := List.forall_mem_cons.mp honce
            obtain ⟨hdoc, htags⟩ := hscope haround
            have hra := (of_resolveElement resolved).1
            obtain ⟨own, -, hown, rfl, -⟩ := of_resolveAttributes hra
            have hparent := (hl.child i c (List.mem_of_mem_filter hc)).1
            rw [hl.around_of_parent hparent he]
            exact ⟨agrees_resolveAttributes hdoc hnames hra,
              agrees_enter htags hown (distinct_ownBindings hown hnames)⟩

/-- The same for several nodes. -/
theorem keepsNames_below (hl : doc.Linked) (hs : doc.Sound)
    (hspelled : ∀ {i kind}, doc.kind? i = some kind → kind.Spelled)
    (sources : List Source) {cs : List Nat}
    {scope : Scope} {around : List (List (QName × String))}
    (ht : List.Forall₂ (fun c s => (doc.tree c).StandsFor scope s) cs sources)
    (hscope : ∀ c ∈ cs, (∀ as ∈ around, DeclareOnce (as.map (·.1))) →
      scope.Agrees (doc.around c) ∧ scope.Agrees (declaredAround around)) :
    List.Forall₂ (fun i tag => tag.DeclaresOnce → doc.KeepsNames i tag)
      (cs.flatMap fun c => c :: doc.descendants c)
      (tagsOfAll around sources) := by
  cases sources with
  | nil =>
      cases ht
      exact .nil
  | cons s rest =>
      cases ht with
      | cons first others =>
          obtain ⟨hfirst, hothers⟩ := List.forall_mem_cons.mp hscope
          rw [List.flatMap_cons, tagsOfAll]
          exact List.rel_append (keepsNames_at hl hs hspelled s first hfirst)
            (keepsNames_below hl hs hspelled rest others hothers)

end

/-- The elements of a document that was read keep the names of the tags of
its text, one for each. -/
theorem keepsNames_of_parse {text : String} (hdoc : parse text = some doc) :
    ∃ source, sourceOf text = some source
      ∧ List.Forall₂ (fun i tag => tag.DeclaresOnce → doc.KeepsNames i tag)
        doc.elements (source.tags []) := by
  have hl := linked_of_parse hdoc
  have hs := sound_of_parse hdoc
  have hspelled : ∀ {i kind}, doc.kind? i = some kind → kind.Spelled :=
    fun h => kind_of_parse hdoc h
  obtain ⟨c, hc, rfl⟩ := Option.map_eq_some_iff.mp hdoc
  obtain ⟨source, hsource, hstands⟩ := readContent_standsFor hc
  have hroot : (ofContent c).tree (ofContent c).root = c.root :=
    congrArg Content.root (content_ofContent c)
  refine ⟨source, hsource, keepsNames_at hl hs hspelled source
    (hroot.symm ▸ hstands) fun _ => ?_⟩
  rw [hl.around_root]
  exact ⟨Scope.agrees_nil, Scope.agrees_nil⟩

/-- Two attributes that differ by a prefix. -/
theorem keepsNames_of_parse_prefixed :
    ∃ doc source,
      parse "<a xmlns=\"u\" xmlns:q=\"v\"><b q:x=\"1\" x=\"2\"/></a>" = some doc
      ∧ sourceOf "<a xmlns=\"u\" xmlns:q=\"v\"><b q:x=\"1\" x=\"2\"/></a>"
        = some source
      ∧ (∀ tag ∈ source.tags [], tag.DeclaresOnce ∧ tag.Apart)
      ∧ List.Forall₂ (fun i tag => tag.DeclaresOnce → doc.KeepsNames i tag)
        doc.elements (source.tags []) := by
  have hread :
      (parse "<a xmlns=\"u\" xmlns:q=\"v\"><b q:x=\"1\" x=\"2\"/></a>").isSome
        = true := by decide +kernel
  have htags : ∀ source ∈
      sourceOf "<a xmlns=\"u\" xmlns:q=\"v\"><b q:x=\"1\" x=\"2\"/></a>",
      ∀ tag ∈ source.tags [], tag.DeclaresOnce ∧ tag.Apart := by
    decide +kernel
  obtain ⟨doc, hdoc⟩ := Option.isSome_iff_exists.mp hread
  obtain ⟨source, hsource, hkeeps⟩ := keepsNames_of_parse hdoc
  exact ⟨doc, source, hdoc, hsource, htags source hsource, hkeeps⟩

/-- The prefix `p` is lost, and with it the difference to the attribute
behind it. -/
theorem two_attributes_share_a_name :
    (parse "<a xmlns=\"u\" xmlns:p=\"u\" p:x=\"1\" x=\"2\"/>").map
        (fun doc => (doc.attributes doc.root).map fun a =>
          (a.name.nsPrefix, a.name.qualified, a.value))
      = some [(none, "xmlns", "u"), (some "xmlns", "xmlns:p", "u"),
        (none, "x", "1"), (none, "x", "2")] := by decide +kernel

end Document

end Overlay.Xml
