/-
Scopes, and what the attributes of a document say about them.

# Two ways to look a prefix up

While a document is read, prefixes are looked up in a scope, a list of all
declarations that hold. In the document that comes out there are no scopes
any more, only the attributes that make declarations, and a prefix is
looked up on the way up from an element: the nearest declaration counts
(`Surroundings`). A declaration that repeats what holds already is not
even among the attributes.

Both give the same (`Scope.Agrees`) as long as a scope has one URI for
each prefix (`Scope.Distinct`). The scanner sees to that for prefixes, but
not for the default namespace, which a tag may declare twice, nor does it
refuse the prefix `xmlns` itself. `DeclaresOnce` leaves these tags out.

# Resolved elements

An element is *resolved* if its URI is the one that its prefix stands for
where it is (`Element.Resolved`). Its prefix is looked up from the URI, so
this is a matter of going back and forth in a distinct scope
(`resolveElement_resolved`). Tags that declare once keep all elements
resolved while a document is put together (`Assembly.resolved_kept`), so
that the elements of a document that was read are
(`Document.isResolved_of_parse`).
-/
import Overlay.Proofs.Xml.Lineages

namespace Overlay.Xml

open Text

-- ======================================================== surroundings

/-- What the nearest declarations around a place say of a prefix, or of
the default namespace. -/
abbrev Surroundings := Option String → Option String

/-- The surroundings outside of all elements. -/
def Surroundings.none : Surroundings := fun _ => .none

/-- The URI that a prefix stands for in some surroundings. -/
def Surroundings.resolve? (around : Surroundings)
    (nsPrefix : Option String) : Option String :=
  if nsPrefix == some "xml" then some xmlUri
  else (around nsPrefix).filter (· != "")

/-- What an element itself declares a prefix to be. -/
def Element.declared? (e : Element) (nsPrefix : Option String) :
    Option String :=
  (e.attributes.find? (·.name == QName.declaring nsPrefix)).map (·.value)

/-- The surroundings inside an element. -/
def Element.inside (e : Element) (around : Surroundings) : Surroundings :=
  fun nsPrefix => (e.declared? nsPrefix).or (around nsPrefix)

/-- Whether the URI of an element is the one that its prefix stands for
there. An empty URI is none. -/
def Element.Resolved (e : Element) (around : Surroundings) : Prop :=
  e.uri.filter (· != "") = (e.inside around).resolve? e.name.nsPrefix

mutual

/-- Whether all elements of a tree are resolved in its surroundings. -/
def Tree.Resolved (around : Surroundings) : Tree → Prop
  | .element e children =>
    e.Resolved around ∧ AllResolved (e.inside around) children
  | _ => True

/-- Whether all elements of some trees are resolved. -/
def AllResolved (around : Surroundings) : List Tree → Prop
  | [] => True
  | t :: rest => t.Resolved around ∧ AllResolved around rest

end

/-- Trees are resolved if each is: siblings do not see what the others
declare. -/
theorem allResolved_iff {around : Surroundings} {ts : List Tree} :
    AllResolved around ts ↔ ∀ t ∈ ts, t.Resolved around := by
  induction ts with
  | nil => simp [AllResolved]
  | cons t rest ih => simp [AllResolved, ih]

-- ===================================================== distinct scopes

namespace Scope

/-- A scope with one URI for each prefix, in which neither `xml` nor
`xmlns` is declared. -/
structure Distinct (scope : Scope) : Prop where
  unique : ∀ b ∈ scope, ∀ c ∈ scope, b.1 = c.1 → b = c
  noXml : ∀ b ∈ scope, b.1 ≠ some "xml"
  noXmlns : ∀ b ∈ scope, b.1 ≠ some "xmlns"

theorem distinct_nil : Distinct [] := ⟨by simp, by simp, by simp⟩

theorem Distinct.of_cons {b : Binding} {scope : Scope}
    (h : Distinct (b :: scope)) : scope.Distinct :=
  ⟨fun c hc d hd => h.unique c (List.mem_cons_of_mem b hc) d
      (List.mem_cons_of_mem b hd),
    fun c hc => h.noXml c (List.mem_cons_of_mem b hc),
    fun c hc => h.noXmlns c (List.mem_cons_of_mem b hc)⟩

/-- What is found for a prefix is in the scope. -/
theorem mem_of_uri? {scope : Scope} {p : Option String} {uri : String}
    (h : scope.uri? p = some uri) : (p, uri) ∈ scope := by
  obtain ⟨before, after, rfl, -⟩ := List.lookup_eq_some_iff.mp h
  simp

/-- In a distinct scope, what is in it is what is found. -/
theorem Distinct.uri? {scope : Scope} (h : scope.Distinct) {b : Binding}
    (hb : b ∈ scope) : scope.uri? b.1 = some b.2 := by
  cases hu : scope.uri? b.1 with
  | none =>
      have := List.lookup_eq_none_iff.mp hu b hb
      simp at this
  | some uri => rw [← h.unique _ (mem_of_uri? hu) b hb rfl]

/-- Whether a scope holds what is said in some surroundings. -/
structure Agrees (scope : Scope) (around : Surroundings) : Prop where
  distinct : scope.Distinct
  mem_iff : ∀ p uri, around p = some uri ↔ (p, uri) ∈ scope

/-- A look-up in a scope is one in the surroundings that it agrees with. -/
theorem Agrees.uri? {scope : Scope} {around : Surroundings}
    (h : scope.Agrees around) (p : Option String) :
    around p = scope.uri? p := by
  refine Option.ext fun uri => ?_
  rw [h.mem_iff]
  exact ⟨fun hmem => h.distinct.uri? hmem, mem_of_uri?⟩

/-- Outside of all elements nothing is declared on either side. -/
theorem agrees_nil : Agrees [] .none :=
  ⟨distinct_nil, by simp [Surroundings.none]⟩

/-- Whether names can be in this namespace: it is that of `xml`, or it is
declared. -/
def Knows (scope : Scope) (uri : String) : Prop :=
  uri = xmlUri ∨ ∃ p, (p, uri) ∈ scope

theorem prefixOf?_xml (scope : Scope) :
    scope.prefixOf? xmlUri = some "xml" := by
  rw [prefixOf?, if_pos (beq_self_eq_true xmlUri)]

/-- The prefix that is found for a URI is declared to be this URI. -/
theorem mem_prefixOf? {scope : Scope} {p : Option String} {uri : String}
    (h : (p, uri) ∈ scope) (hne : uri ≠ xmlUri) :
    (scope.prefixOf? uri, uri) ∈ scope := by
  have hsome : (scope.find? (·.2 == uri)).isSome = true :=
    List.find?_isSome.mpr ⟨_, h, beq_self_eq_true uri⟩
  obtain ⟨b, hb⟩ := Option.isSome_iff_exists.mp hsome
  obtain rfl : b.2 = uri := by simpa using List.find?_some hb
  rw [prefixOf?, if_neg (by simpa using hne), hb]
  exact List.mem_of_find?_eq_some hb

/-- Looking the prefix of a URI up gives the URI back, unless it is
empty. -/
theorem Agrees.resolve?_prefixOf? {scope : Scope} {around : Surroundings}
    (h : scope.Agrees around) {uri : String} (hk : scope.Knows uri) :
    around.resolve? (scope.prefixOf? uri) = (some uri).filter (· != "") := by
  by_cases hxml : uri = xmlUri
  · rw [hxml, prefixOf?_xml]
    rfl
  · obtain ⟨p, hp⟩ := hk.resolve_left hxml
    have hmem := mem_prefixOf? hp hxml
    rw [Surroundings.resolve?, if_neg (by simpa using h.distinct.noXml _ hmem),
      (h.mem_iff _ _).mpr hmem]

/-- A declaration that is added to others counts where they do not declare
its prefix. -/
theorem mem_foldl_add_iff {scope : Scope} (h : scope.Distinct)
    (all : Scope) {b : Binding} :
    b ∈ scope.foldl (fun all b =>
        if all.any (·.1 == b.1) then all else all ++ [b]) all
      ↔ b ∈ all ∨ b ∈ scope ∧ ∀ c ∈ all, c.1 ≠ b.1 := by
  induction scope generalizing all with
  | nil => simp
  | cons d rest ih =>
      rw [List.foldl_cons, ih h.of_cons, List.mem_cons]
      by_cases hany : all.any (·.1 == d.1) = true
      · -- `d` is declared again
        obtain ⟨c, hc, hd⟩ := List.any_eq_true.mp hany
        have hno : b = d → ¬ ∀ c ∈ all, c.1 ≠ b.1 := fun hb h =>
          h c hc (hb ▸ eq_of_beq hd)
        rw [if_pos hany]
        tauto
      · have hall : ∀ c ∈ all, c.1 ≠ d.1 := fun c hc heq =>
          hany (List.any_eq_true.mpr ⟨c, hc, beq_iff_eq.mpr heq⟩)
        have hsame : b ∈ rest → d.1 = b.1 → b = d := fun hb heq =>
          (h.unique d (List.mem_cons_self ..) b
            (List.mem_cons_of_mem d hb) heq).symm
        rw [if_neg hany, List.forall_mem_append, List.mem_append,
          List.mem_singleton, List.forall_mem_singleton]
        constructor
        · rintro ((hb | rfl) | ⟨hb, hkeys, -⟩)
          · exact .inl hb
          · exact .inr ⟨.inl rfl, hall⟩
          · exact .inr ⟨.inr hb, hkeys⟩
        · rintro (hb | ⟨rfl | hb, hkeys⟩)
          · exact .inl (.inl hb)
          · exact .inl (.inr rfl)
          · by_cases heq : d.1 = b.1
            · exact .inl (.inr (hsame hb heq))
            · exact .inr ⟨hb, hkeys, heq⟩

/-- A tag adds its own declarations to those that it does not make
again. -/
theorem mem_enter_iff {scope own : Scope} (h : scope.Distinct)
    {b : Binding} :
    b ∈ scope.enter own
      ↔ b ∈ own ∨ b ∈ scope ∧ ∀ c ∈ own, c.1 ≠ b.1 := by
  rw [enter]
  split
  case isTrue hown =>
      rw [List.isEmpty_iff.mp hown]
      simp
  case isFalse => exact mem_foldl_add_iff h own

/-- A scope stays distinct inside an element: what the element declares hides
what was there before. -/
theorem Distinct.enter {scope own : Scope} (h : scope.Distinct)
    (hown : own.Distinct) : (scope.enter own).Distinct := by
  have hcases := fun b => @mem_enter_iff scope own h b
  refine ⟨fun b hb c hc heq => ?_, fun b hb => ?_, fun b hb => ?_⟩
  · rcases (hcases b).mp hb with hb | ⟨hb, hkb⟩ <;>
      rcases (hcases c).mp hc with hc | ⟨hc, hkc⟩
    · exact hown.unique b hb c hc heq
    · exact absurd heq (hkc b hb)
    · exact absurd heq.symm (hkb c hc)
    · exact h.unique b hb c hc heq
  · rcases (hcases b).mp hb with hb | ⟨hb, -⟩
    · exact hown.noXml b hb
    · exact h.noXml b hb
  · rcases (hcases b).mp hb with hb | ⟨hb, -⟩
    · exact hown.noXmlns b hb
    · exact h.noXmlns b hb

end Scope

-- =============================================== declarations of a tag

/-- Whether an attribute of this name declares the default namespace. Only
the local name counts, unless the prefix is `xmlns`. -/
def QName.declaresDefault (n : QName) : Bool :=
  n.nsPrefix != some "xmlns" && n.localName == "xmlns"

/-- Whether attributes of these names declare the default namespace at most
once, and do not declare the prefix `xmlns`. -/
def DeclareOnce (names : List QName) : Prop :=
  (names.filter QName.declaresDefault).length ≤ 1
    ∧ QName.declaring (some "xmlns") ∉ names

/-- Whether they do not declare the default namespace at all. -/
def DeclareNone (names : List QName) : Prop :=
  (∀ n ∈ names, n.declaresDefault = false)
    ∧ QName.declaring (some "xmlns") ∉ names

instance (names : List QName) : Decidable (DeclareOnce names) :=
  inferInstanceAs (Decidable (_ ∧ _))

instance (names : List QName) : Decidable (DeclareNone names) :=
  inferInstanceAs (Decidable (_ ∧ _))

theorem declareNone_nil : DeclareNone [] := ⟨by simp, by simp⟩

theorem DeclareNone.append {xs ys : List QName} (h : DeclareNone xs)
    (h' : DeclareNone ys) : DeclareNone (xs ++ ys) :=
  ⟨List.forall_mem_append.mpr ⟨h.1, h'.1⟩, by
    simpa using ⟨h.2, h'.2⟩⟩

/-- Attributes that a tag inherits from one without an end must not declare the
default namespace, so that with its own ones there is still one declaration of
it. -/
theorem DeclareNone.append_once {xs ys : List QName} (h : DeclareNone xs)
    (h' : DeclareOnce ys) : DeclareOnce (xs ++ ys) := by
  have hnone : xs.filter QName.declaresDefault = [] :=
    List.filter_eq_nil_iff.mpr fun n hn => by simp [h.1 n hn]
  refine ⟨?_, by simpa using ⟨h.2, h'.2⟩⟩
  rw [List.filter_append, hnone]
  exact h'.1

/-- The declarations that an attribute can make. -/
theorem of_bindingOf {own : Scope} {name : QName} {value : String}
    {b : Binding} (h : bindingOf own name value = some (some b)) :
    (name = QName.declaring b.1 ∧ b.1 ≠ none ∧ b.1 ≠ some "xml"
        ∧ ∀ c ∈ own, c.1 ≠ b.1)
      ∨ name.declaresDefault = true ∧ b = (none, value) := by
  obtain ⟨p, l⟩ := name
  simp only [bindingOf] at h
  split at h
  case isTrue hp =>
      split at h
      · cases h
      · rename_i hallowed
        split at h
        · cases h
        · rename_i hxml
          obtain rfl := Option.some.inj (Option.some.inj h)
          simp only [Bool.not_eq_true, Bool.not_eq_false', Bool.and_eq_true,
            List.all_eq_true, bne_iff_ne, beq_iff_eq] at hallowed hxml hp
          refine .inl ⟨by rw [hp]; rfl, by simp, fun hl => hxml ?_,
            fun c hc => hallowed.2 c hc⟩
          have hiff := hallowed.1.2
          rw [Option.some.inj hl] at hiff
          simpa using hiff.symm
  case isFalse hp =>
      split at h
      · rename_i hl
        split at h
        · cases h
        · obtain rfl := Option.some.inj (Option.some.inj h)
          refine .inr ⟨?_, rfl⟩
          rw [QName.declaresDefault, hl, Bool.and_true, bne_iff_ne]
          exact fun heq => hp (beq_iff_eq.mpr heq)
      · cases h

/-- A prefix that a tag has declared already is refused. -/
theorem pairwise_ownBindings {attributes : List (QName × String)}
    {own : Scope} (h : ownBindings attributes = some own) :
    own.Pairwise fun b c => b.1 ≠ none → c.1 ≠ none → b.1 ≠ c.1 := by
  induction attributes using List.reverseRecOn generalizing own with
  | nil =>
      cases h
      exact .nil
  | append_singleton attributes x ih =>
      obtain ⟨before, made, hbefore, hmade, rfl⟩ :=
        ownBindings_concat_eq_some_iff.mp h
      refine List.pairwise_append.mpr ⟨ih hbefore, ?_, ?_⟩
      · cases made <;> simp
      · intro b hb c hc _ hne
        rw [Option.mem_toList] at hc
        cases hc
        rcases of_bindingOf hmade with ⟨-, -, -, hkeys⟩ | ⟨-, rfl⟩
        · exact hkeys b hb
        · exact absurd rfl hne

theorem eq_of_length_le_one {α : Type} {xs : List α} (h : xs.length ≤ 1)
    {x y : α} (hx : x ∈ xs) (hy : y ∈ xs) : x = y := by
  rcases xs with _ | ⟨z, _ | ⟨w, rest⟩⟩
  · cases hx
  · rw [List.mem_singleton.mp hx, List.mem_singleton.mp hy]
  · simp at h

/-- A tag that declares the default namespace once declares everything
once. -/
theorem distinct_ownBindings {attributes : List (QName × String)}
    {own : Scope} (h : ownBindings attributes = some own)
    (hnames : DeclareOnce (attributes.map (·.1))) : own.Distinct := by
  have hmade : ∀ b ∈ own, ∃ x ∈ attributes,
      (x.1 = QName.declaring b.1 ∧ b.1 ≠ none ∧ b.1 ≠ some "xml")
        ∨ x.1.declaresDefault = true ∧ b = (none, x.2) := by
    intro b hb
    obtain ⟨x, hx, before, hmakes⟩ := bindingOf_of_mem_ownBindings h hb
    exact ⟨x, hx, (of_bindingOf hmakes).imp_left
      fun ⟨hname, hne, hxml, _⟩ => ⟨hname, hne, hxml⟩⟩
  have hpre : ∀ b ∈ own, ∀ c ∈ own, b.1 ≠ none → b.1 = c.1 → b = c := by
    intro b hb c hc hne heq
    have hsymm : Std.Symm fun b c : Binding =>
        b.1 ≠ none → c.1 ≠ none → b.1 ≠ c.1 :=
      ⟨fun _ _ h hc hb => (h hb hc).symm⟩
    by_contra hbc
    exact (pairwise_ownBindings h).forall hb hc hbc hne (heq ▸ hne) heq
  have hdefault : ∀ b ∈ own, ∀ c ∈ own, b.1 = none → b.1 = c.1 → b = c := by
    intro b hb c hc hnone heq
    obtain ⟨x, hx, ⟨-, hne, -⟩ | ⟨hxd, rfl⟩⟩ := hmade b hb
    · exact absurd hnone hne
    obtain ⟨y, hy, ⟨-, hne, -⟩ | ⟨hyd, rfl⟩⟩ := hmade c hc
    · exact absurd (heq.symm.trans hnone) hne
    -- both are made by the one attribute that declares the default
    have hone := hnames.1
    rw [List.filter_map, List.length_map] at hone
    have hmem : ∀ z ∈ attributes, z.1.declaresDefault = true →
        z ∈ attributes.filter (QName.declaresDefault ∘ (·.1)) :=
      fun z hz hd => List.mem_filter.mpr ⟨hz, hd⟩
    rw [eq_of_length_le_one hone (hmem x hx hxd) (hmem y hy hyd)]
  refine ⟨fun b hb c hc heq => ?_, fun b hb => ?_, fun b hb => ?_⟩
  · by_cases hnone : b.1 = none
    · exact hdefault b hb c hc hnone heq
    · exact hpre b hb c hc hnone heq
  · obtain ⟨x, -, ⟨-, -, hxml⟩ | ⟨-, rfl⟩⟩ := hmade b hb
    · exact hxml
    · simp
  · obtain ⟨x, hx, ⟨hname, -, -⟩ | ⟨-, rfl⟩⟩ := hmade b hb
    · intro heq
      rw [heq] at hname
      exact hnames.2 (hname ▸ List.mem_map_of_mem hx)
    · simp

-- =================================================== resolved elements

/-- An attribute that makes no declaration is not kept as if it made
one. -/
theorem attributeIn_ne_declaring {inner : Scope} (hi : inner.Distinct)
    {name : QName} {expanded : Option String × String} {value : String}
    (h : expandAttributeName inner name = some expanded)
    (hname : declares name = false) (p : Option String) :
    (attributeIn inner expanded value).name ≠ QName.declaring p := by
  have hlocal := snd_of_expandAttributeName h
  simp only [declares, Bool.or_eq_false_iff, beq_eq_false_iff_ne] at hname
  intro heq
  cases p with
  | none =>
      have := congrArg QName.localName heq
      exact hname.2 (hlocal.symm.trans this)
  | some p =>
      have := congrArg QName.nsPrefix heq
      obtain ⟨uri, -, hp⟩ := Option.bind_eq_some_iff.mp this
      rw [Scope.prefixOf?] at hp
      split at hp
      · exact absurd (Option.some.inj hp) (by decide)
      · obtain ⟨b, hb, hp⟩ := Option.bind_eq_some_iff.mp hp
        exact hi.noXmlns b (List.mem_of_find?_eq_some hb) hp

/-- Each prefix has its own attribute that declares it, and so has the default
namespace. -/
theorem declaring_injective : Function.Injective QName.declaring := by
  intro p q h
  cases p <;> cases q <;> simp_all [QName.declaring]

/-- The attributes of a tag that declares everything once make those of its
declarations that are new. -/
theorem exists_own_of_resolveAttributes {scope inner : Scope}
    (hs : scope.Distinct) {attributes : List (QName × String)}
    (hnames : DeclareOnce (attributes.map (·.1))) {e : Element}
    (h : resolveAttributes scope attributes = some (e.attributes, inner)) :
    ∃ own : Scope, own.Distinct ∧ inner = scope.enter own
      ∧ ∀ p uri, e.declared? p = some uri
        ↔ (p, uri) ∈ own ∧ (p, uri) ∉ scope := by
  obtain ⟨own, expanded, hown, rfl, hexp, -, hattributes⟩ :=
    of_resolveAttributes h
  have ho := distinct_ownBindings hown hnames
  have hmade : ∀ a ∈ e.attributes, ∀ p, a.name = QName.declaring p →
      (p, a.value) ∈ own ∧ (p, a.value) ∉ scope := by
    intro a ha p hname
    rw [hattributes, List.mem_append] at ha
    rcases ha with ha | ha
    · obtain ⟨b, hb, rfl⟩ := List.mem_map.mp ha
      obtain rfl := declaring_injective hname
      obtain ⟨hb, hnew⟩ := List.mem_filter.mp hb
      have hnew : b ∉ scope := by simpa using hnew
      exact ⟨hb, hnew⟩
    · obtain ⟨⟨ex, n, v⟩, hz, rfl⟩ := List.mem_map.mp ha
      have hother := (List.mem_filter.mp (List.of_mem_zip hz).2).2
      exact absurd hname (attributeIn_ne_declaring (hs.enter ho)
        (of_mem_zip_of_mapM hexp _ hz) (by simpa using hother) p)
  refine ⟨own, ho, rfl, fun p uri => ?_⟩
  rw [Element.declared?, Option.map_eq_some_iff]
  constructor
  · rintro ⟨a, ha, rfl⟩
    exact hmade a (List.mem_of_find?_eq_some ha) p
      (by simpa using List.find?_some ha)
  · rintro ⟨hmem, hnew⟩
    have hin : Binding.toAttribute (p, uri) ∈ e.attributes := by
      rw [hattributes]
      exact List.mem_append_left _ (List.mem_map_of_mem
        (List.mem_filter.mpr ⟨hmem, by simpa using hnew⟩))
    have hsome : (e.attributes.find?
        (·.name == QName.declaring p)).isSome = true :=
      List.find?_isSome.mpr ⟨_, hin, beq_self_eq_true _⟩
    obtain ⟨a, ha⟩ := Option.isSome_iff_exists.mp hsome
    refine ⟨a, ha, ?_⟩
    obtain ⟨hown', -⟩ := hmade a (List.mem_of_find?_eq_some ha) p
      (by simpa using List.find?_some ha)
    exact congrArg Prod.snd (ho.unique _ hown' _ hmem rfl)

/-- What holds inside a tag that declares everything once is the scope
inside. -/
theorem agrees_resolveAttributes {scope inner : Scope}
    {around : Surroundings} (hs : scope.Agrees around)
    {attributes : List (QName × String)}
    (hnames : DeclareOnce (attributes.map (·.1))) {e : Element}
    (h : resolveAttributes scope attributes = some (e.attributes, inner)) :
    inner.Agrees (e.inside around) := by
  obtain ⟨own, ho, rfl, hdeclared⟩ :=
    exists_own_of_resolveAttributes hs.distinct hnames h
  refine ⟨hs.distinct.enter ho, fun p uri => ?_⟩
  rw [Scope.mem_enter_iff hs.distinct, Element.inside, Option.or_eq_some_iff,
    hdeclared, hs.mem_iff, Option.eq_none_iff_forall_ne_some]
  constructor
  · rintro (⟨hmem, -⟩ | ⟨hnone, hmem⟩)
    · exact .inl hmem
    · by_cases hkey : ∃ c ∈ own, c.1 = p
      · -- declared again as what it was
        obtain ⟨⟨q, v⟩, hc, rfl⟩ := hkey
        have hold : (q, v) ∈ scope := by
          by_contra hnew
          exact hnone v ((hdeclared _ v).mpr ⟨hc, hnew⟩)
        exact .inl (hs.distinct.unique _ hold _ hmem rfl ▸ hc)
      · exact .inr ⟨hmem, fun c hc heq => hkey ⟨c, hc, heq⟩⟩
  · rintro (hmem | ⟨hmem, hkeys⟩)
    · by_cases hold : (p, uri) ∈ scope
      · refine .inr ⟨fun v hv => ?_, hold⟩
        obtain ⟨hv, hnew⟩ := (hdeclared p v).mp hv
        exact hnew (ho.unique _ hmem _ hv rfl ▸ hold)
      · exact .inl ⟨hmem, hold⟩
    · refine .inr ⟨fun v hv => ?_, hmem⟩
      exact hkeys _ ((hdeclared p v).mp hv).1 rfl

/-- The URI of an element is that of its prefix in the scope inside, and
only without a prefix it may be none. -/
theorem uri_of_resolveElement {scope inner : Scope} {name : QName}
    {attributes : List (QName × String)} {e : Element}
    (h : resolveElement scope name attributes = some (e, inner)) :
    e.uri = inner.uri? name.nsPrefix
      ∧ (e.uri = none → name.nsPrefix = none) := by
  obtain ⟨⟨resolved, inner'⟩, -, h⟩ := Option.bind_eq_some_iff.mp h
  cases hp : name.nsPrefix with
  | none =>
      simp only [hp, Option.pure_def, Option.bind_eq_bind,
        Option.bind_some, Option.some.injEq] at h
      cases h
      exact ⟨rfl, fun _ => rfl⟩
  | some p =>
      simp only [hp, Option.pure_def, Option.bind_eq_bind,
        Option.bind_eq_some_iff, Option.some.injEq] at h
      obtain ⟨uri, huri, h⟩ := h
      obtain ⟨u, hu, rfl⟩ := Option.map_eq_some_iff.mp huri
      cases h
      exact ⟨hu.symm, fun hnone => by cases hnone⟩

/-- A tag that declares everything once gives a resolved element. -/
theorem resolveElement_resolved {scope inner : Scope}
    {around : Surroundings} (hs : scope.Agrees around) {name : QName}
    {attributes : List (QName × String)}
    (hnames : DeclareOnce (attributes.map (·.1))) {e : Element}
    (h : resolveElement scope name attributes = some (e, inner)) :
    e.Resolved around ∧ inner.Agrees (e.inside around) := by
  obtain ⟨hr, hname⟩ := of_resolveElement h
  have hagrees := agrees_resolveAttributes hs hnames hr
  refine ⟨?_, hagrees⟩
  obtain ⟨huri, hnone⟩ := uri_of_resolveElement h
  rw [Element.Resolved, hname]
  cases hu : e.uri with
  | none =>
      rw [hu, hnone hu] at huri
      have hout := (hagrees.uri? none).trans huri.symm
      simp [Surroundings.resolve?, hout]
  | some uri =>
      have hmem := Scope.mem_of_uri? (huri.symm.trans hu)
      exact (hagrees.resolve?_prefixOf? (.inr ⟨_, hmem⟩)).symm

-- =========================================== resolved while it is read

/-- Whether a tag declares the default namespace at most once, and not the
prefix `xmlns`. The attributes of a tag without an end go to the next tag,
so they declare nothing at all of this. -/
def Token.DeclaresOnce : Token → Prop
  | .opening _ raw => DeclareOnce (raw.map (·.name))
  | .single _ raw => DeclareOnce (raw.map (·.name))
  | .unfinished _ raw => DeclareNone (raw.map (·.name))
  | _ => True

instance (t : Token) : Decidable t.DeclaresOnce :=
  match t with
  | .opening _ _ => inferInstanceAs (Decidable (DeclareOnce _))
  | .single _ _ => inferInstanceAs (Decidable (DeclareOnce _))
  | .unfinished _ _ => inferInstanceAs (Decidable (DeclareNone _))
  | .closing _ => isTrue trivial
  | .text _ => isTrue trivial
  | .literal _ => isTrue trivial
  | .comment _ => isTrue trivial
  | .instruction _ _ => isTrue trivial

/-- The surroundings inside some open elements, the innermost first. -/
def surroundingsOf : List Frame → Surroundings
  | [] => .none
  | f :: rest => f.element.inside (surroundingsOf rest)

/-- Whether open elements are resolved, with what was read inside, and
their scopes say what the elements declare. -/
def FramesResolved : List Frame → Prop
  | [] => True
  | f :: rest =>
    f.element.Resolved (surroundingsOf rest)
      ∧ f.scope.Agrees (surroundingsOf (f :: rest))
      ∧ AllResolved (surroundingsOf (f :: rest)) f.inside
      ∧ FramesResolved rest

namespace Assembly

/-- An assembly in which everything is resolved. -/
structure Resolved (a : Assembly) : Prop where
  frames : FramesResolved a.frames
  outside : AllResolved .none a.outside
  pending : DeclareNone (a.pending.map (·.1))

theorem resolved_empty : Resolved ({} : Assembly) :=
  ⟨trivial, trivial, declareNone_nil⟩

/-- The scope inside the innermost open element holds what the open elements
declare. -/
theorem Resolved.agrees {a : Assembly} (h : a.Resolved) :
    a.scope.Agrees (surroundingsOf a.frames) := by
  have hframes := h.frames
  rw [Assembly.scope]
  cases hf : a.frames with
  | nil => exact Scope.agrees_nil
  | cons top rest =>
      rw [hf] at hframes
      exact hframes.2.1

/-- What is read at the place at hand may change if it stays resolved. -/
theorem Resolved.modifyHere {a : Assembly} (h : a.Resolved)
    {f : List Tree → List Tree}
    (hf : ∀ around ts, AllResolved around ts →
      around = surroundingsOf a.frames → AllResolved around (f ts)) :
    (a.modifyHere f).Resolved := by
  have hframes := h.frames
  rw [Assembly.modifyHere]
  split
  case h_1 top rest hcons =>
      rw [hcons] at hframes hf
      obtain ⟨hel, hscope, hinside, hrest⟩ := hframes
      exact ⟨⟨hel, hscope, hf _ _ hinside rfl, hrest⟩, h.outside, h.pending⟩
  case h_2 hnil =>
      rw [hnil] at hf
      exact ⟨hframes, hf _ _ h.outside rfl, h.pending⟩

/-- A tree that is resolved where it stands may be added there. -/
theorem Resolved.add {a : Assembly} (h : a.Resolved) {t : Tree}
    (ht : t.Resolved (surroundingsOf a.frames)) : (a.add t).Resolved := by
  obtain ⟨hf, ho, hp⟩ := h.modifyHere (f := (t :: ·))
    fun _ _ hts heq => ⟨heq ▸ ht, hts⟩
  exact ⟨hf, ho, hp⟩

/-- A text may be added anywhere, as it has no name to resolve. -/
theorem allResolved_withText (joins : Bool) (s : String)
    {around : Surroundings} {ts : List Tree} (h : AllResolved around ts) :
    AllResolved around (withText joins s ts) := by
  unfold withText
  split
  · split
    · exact ⟨trivial, h.2⟩
    · exact ⟨trivial, h⟩
  · exact ⟨trivial, h⟩

/-- What is left when an element is closed is resolved if all was. -/
theorem allResolved_settled {around : Surroundings} {ts : List Tree}
    (h : AllResolved around ts) : AllResolved around (settled ts) := by
  rw [allResolved_iff] at h ⊢
  intro t ht
  exact h t (List.mem_reverse.mp (List.mem_of_mem_filter ht))

/-- What an assembly takes for the attributes of a tag. -/
theorem Resolved.element {a : Assembly} (h : a.Resolved) {name : QName}
    {raw : List RawAttribute} {as : List (QName × String)}
    (hraw : DeclareOnce (raw.map (·.name)))
    (has : as.map (·.1) = raw.map (·.name)) {e : Element} {inner : Scope}
    (he : a.element name as = some (e, inner)) :
    e.Resolved (surroundingsOf a.frames)
      ∧ inner.Agrees (e.inside (surroundingsOf a.frames)) := by
  refine resolveElement_resolved h.agrees ?_ he
  rw [List.map_append, has]
  exact h.pending.append_once hraw

/-- No tag that declares everything once leaves an element unresolved. -/
theorem resolved_kept : KeptBy Token.DeclaresOnce Resolved where
  sawTag b h := ⟨h.frames, h.outside, h.pending⟩
  text s h := by
    rw [addText]
    split
    · exact h
    · obtain ⟨hf, ho, hp⟩ := h.modifyHere (f := withText _ s)
        fun _ _ hts _ => allResolved_withText _ s hts
      exact ⟨hf, ho, hp⟩
  comment h _ := h.add trivial
  instruction h _ := h.add trivial
  opens h ht has hb := by
    obtain ⟨-, e, inner, he, rfl⟩ := of_openElement hb
    obtain ⟨hel, hin⟩ := h.element ht has he
    exact ⟨⟨hel, hin, trivial, h.frames⟩, h.outside, declareNone_nil⟩
  adds := by
    intro a b name raw as h ht has hb
    obtain ⟨-, e, inner, he, rfl⟩ := of_addElement hb
    exact Resolved.add (a := { a with
        pending := [], inText := false, sawTag := true })
      ⟨h.frames, h.outside, declareNone_nil⟩
      ⟨(h.element ht has he).1, trivial⟩
  waits h ht has hb := by
    obtain ⟨-, rfl⟩ := of_addUnfinished hb
    refine ⟨h.frames, h.outside, ?_⟩
    rw [List.map_append, has]
    exact h.pending.append ht
  closes := by
    intro a b name h hb
    obtain ⟨-, ⟨-, rfl⟩ | ⟨top, rest, hframes, -, rfl⟩⟩ :=
      of_closeElement hb
    · exact ⟨h.frames, h.outside, declareNone_nil⟩
    · have htop := h.frames
      rw [hframes] at htop
      obtain ⟨hel, -, hinside, hrest⟩ := htop
      exact Resolved.add (a := { a with
          frames := rest, pending := [], inText := false })
        ⟨hrest, h.outside, declareNone_nil⟩
        ⟨hel, allResolved_settled hinside⟩

end Assembly

-- ============================================= documents that are read

/-- Whether all tags of a text and of its entities declare the default
namespace at most once, and not the prefix `xmlns`. -/
def DeclaresOnce (text : String) : Prop :=
  ∀ front ∈ Scan.front text.toList, ∀ body ∈ Scan.body front.rest,
    (∀ t ∈ front.tokens ++ body, t.DeclaresOnce)
      ∧ ∀ entity ∈ front.entities, ∀ found ∈ Scan.content entity.2,
        ∀ t ∈ found.1, t.DeclaresOnce

instance (text : String) : Decidable (DeclaresOnce text) :=
  inferInstanceAs (Decidable (∀ front ∈ Scan.front text.toList, _))

/-- The root of a document that was read is resolved. -/
theorem readContent_resolved {text : String} {c : Content}
    (h : readContent text.toList = some c) (htext : DeclaresOnce text) :
    c.root.Resolved .none := by
  simp only [readContent, Option.bind_eq_bind, Option.bind_eq_some_iff,
    Prod.exists] at h
  obtain ⟨front, hfront, body, hbody, a, m, ha, -, -, hc⟩ := h
  obtain ⟨htokens, hentities⟩ := htext front hfront body hbody
  have hkeeps : (front.entities.expander expansionDepth).Keeps
      Assembly.Resolved := by
    refine Assembly.expander_keeps Assembly.resolved_kept ?_ _
    intro name raw tokens rest hraw hscan
    obtain ⟨before, after, hsplit, -⟩ := List.lookup_eq_some_iff.mp hraw
    exact hentities (name, raw) (by rw [hsplit]; simp) (tokens, rest) hscan
  have hresolved := Assembly.steps_kept Assembly.resolved_kept hkeeps
    htokens ha Assembly.resolved_empty
  simp only [Content.ofTrees, Option.bind_eq_bind,
    Option.bind_eq_some_iff, Option.pure_def, Option.some.injEq] at hc
  obtain ⟨root, hr, rfl⟩ := hc
  exact allResolved_iff.mp
    (Assembly.allResolved_settled hresolved.outside) _
    (List.mem_of_find?_eq_some hr)

namespace Document

variable {doc : Document} {i : Nat}

/-- What is declared around a node. -/
def around (doc : Document) (i : Nat) (nsPrefix : Option String) :
    Option String :=
  (doc.lineage i).tail.findSome? (doc.declaration? nsPrefix)

/-- In a document the nearest declaration is looked for along the lineage of an
element, and comes to what is declared inside of it. -/
theorem findSome?_lineage {e : Element} (he : doc.element? i = some e)
    (nsPrefix : Option String) :
    (doc.lineage i).findSome? (doc.declaration? nsPrefix)
      = e.inside (doc.around i) nsPrefix := by
  obtain ⟨up, hup⟩ := doc.exists_lineage i
  have hown : doc.declaration? nsPrefix i = e.declared? nsPrefix := by
    rw [declaration?, attributes, he]
    rfl
  rw [Element.inside, around, hup, ← hown, List.findSome?_cons,
    List.tail_cons]
  cases doc.declaration? nsPrefix i <;> rfl

/-- Around the root nothing is declared. -/
theorem Linked.around_root (h : doc.Linked) :
    doc.around doc.root = Surroundings.none := by
  funext nsPrefix
  rw [around, lineage_of_none h.root]
  rfl

/-- Around a child is what its parent declares, and what is around its
parent. -/
theorem Linked.around_of_parent (h : doc.Linked) {p : Nat} {e : Element}
    (hp : doc.parent? i = some p) (he : doc.element? p = some e) :
    doc.around i = e.inside (doc.around p) := by
  funext nsPrefix
  rw [← findSome?_lineage he, around, h.lineage_of_parent hp,
    List.tail_cons]

/-- The prefix of an element, which most have not. -/
def nsPrefix? (doc : Document) (i : Nat) : Option String :=
  (doc.name? i).bind (·.nsPrefix)

/-- Whether the URI of an element is the one that its prefix stands for at
the element. An empty URI is none. -/
def IsResolved (doc : Document) (i : Nat) : Prop :=
  (doc.uri? i).filter (· != "") = doc.lookupNamespace i (doc.nsPrefix? i)

instance (doc : Document) (i : Nat) : Decidable (doc.IsResolved i) :=
  inferInstanceAs (Decidable (_ = _))

/-- So an element of a document is resolved by the declarations on its lineage
if it is in its surroundings. -/
theorem isResolved_iff {e : Element} (he : doc.element? i = some e) :
    doc.IsResolved i ↔ e.Resolved (doc.around i) := by
  rw [IsResolved, Element.Resolved, Surroundings.resolve?, lookupNamespace,
    findSome?_lineage he, uri?, nsPrefix?, name?, he]
  rfl

/-- The tree at an attached node is resolved where it is. -/
theorem tree_resolved {text : String} (hdoc : parse text = some doc)
    (htext : DeclaresOnce text) (hi : doc.isAttached i = true) :
    (doc.tree i).Resolved (doc.around i) := by
  have hl := linked_of_parse hdoc
  have hs := sound_of_parse hdoc
  refine hl.attached_induct (P := fun i => (doc.tree i).Resolved (doc.around i))
    ?_ (fun i p hp _ ih => ?_) hi
  · obtain ⟨c, hc, rfl⟩ := Option.map_eq_some_iff.mp hdoc
    have hroot : (ofContent c).tree (ofContent c).root = c.root :=
      congrArg Content.root (content_ofContent c)
    rw [hl.around_root, hroot]
    exact readContent_resolved hc htext
  · obtain ⟨hmem, hel⟩ := hl.parent i p hp
    obtain ⟨e, he⟩ := Option.isSome_iff_exists.mp hel
    rw [tree, element?_eq_some_iff.mp he] at ih
    rw [hl.around_of_parent hp he]
    refine allResolved_iff.mp ih.2 _ (List.mem_flatMap.mpr ⟨i, hmem, ?_⟩)
    rw [dif_pos ⟨hl.lt hp, hs.children p i hmem⟩]
    exact List.mem_singleton_self _

/-- The elements of a document that was read are resolved. -/
theorem isResolved_of_parse {text : String} (hdoc : parse text = some doc)
    (htext : DeclaresOnce text) (hel : doc.isElement i = true)
    (hi : doc.isAttached i = true) : doc.IsResolved i := by
  obtain ⟨e, he⟩ := Option.isSome_iff_exists.mp hel
  have htree := tree_resolved hdoc htext hi
  rw [tree, element?_eq_some_iff.mp he] at htree
  exact (isResolved_iff he).mpr htree.1

-- Two default namespaces: the scope has the first one, but what is left
-- among the attributes is the one that is new.
example : ((parse "<a xmlns=\"u\"><b xmlns=\"u\" xmlns=\"v\"/></a>").map
    fun doc => (doc.uri? 1, doc.lookupNamespace 1 (doc.nsPrefix? 1)))
      = some (some "u", some "v") := by decide +kernel

-- A prefix `xmlns`: another attribute of its namespace is kept as if it
-- declared `p`.
example : ((parse
    "<a xmlns:xmlns=\"u\" xmlns:q=\"u\" xmlns:p=\"v\"><p:b q:p=\"w\"/></a>").map
      fun doc => (doc.uri? 1, doc.lookupNamespace 1 (doc.nsPrefix? 1)))
      = some (some "v", some "w") := by decide +kernel

end Document

end Overlay.Xml
