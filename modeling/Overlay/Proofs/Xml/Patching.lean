/-
Documents that were read and then changed.

# What every change keeps

However a document is changed, its elements stay elements, and what is no
element stays what it is (`Keeps`). Names that are put into it have been
checked, so that they end where they were meant to end when the document
is written (`isPlain_of_isValidName`); whether they can be read is another
question. So what comes out of a document that was read can be judged by
its tree (`Keeps.plain_content`).

# Changes that do no harm

Texts, elements that are taken out, and attributes without a prefix leave
a document that can be read where it is written in that state
(`Spares.wellformed`). Attributes with a prefix do not: nothing asks
whether the prefix is declared, nor whether another prefix stands for the
same URI.
-/
import Overlay.Proofs.Xml.Accepting
import Overlay.Proofs.Xml.Edits
import Overlay.Proofs.Xml.Roundtrip

namespace Overlay.Xml

open Text

-- =============================================================== names

/-- A name that may be put into a document ends where markup begins. -/
theorem isPlain_of_isValidName {name : String}
    (h : isValidName name = true) : IsPlain name.toList := by
  have hchar : ∀ c : Char, (isAlphanumeric c || c == '_' || c == ':'
      || c == '-' || c == '.' || !isAscii c) = true →
      isNameChar c = true ∨ isAscii c = false := by
    intro c hc
    cases ha : isAscii c with
    | false => exact .inr rfl
    | true =>
        have hlow : c.toNat ≤ 0x80 := by
          have := of_decide_eq_true ha
          omega
        left
        simp only [isAlphanumeric, isAlphabetic, isNumeric, ha, if_true,
          Bool.not_true, Bool.or_false] at hc
        simp only [isNameChar, hlow, if_true]
        simp only [Bool.or_eq_true] at hc ⊢
        tauto
  unfold isValidName at h
  split at h
  case h_1 => cases h
  case h_2 first rest hname =>
      rw [Bool.and_eq_true, List.all_eq_true] at h
      obtain ⟨hfirst, hrest⟩ := h
      rw [hname]
      have hstart :
          isAlphanumeric first = true ∨ first = '_' ∨ first = ':' := by
        rw [Bool.or_eq_true, Bool.or_eq_true, beq_iff_eq, beq_iff_eq] at hfirst
        rw [isAlphanumeric, Bool.or_eq_true]
        rcases hfirst with (h | h) | h
        · exact .inl (.inl h)
        · exact .inr (.inl h)
        · exact .inr (.inr h)
      refine ⟨by simp, List.forall_mem_cons.mpr
        ⟨hchar first ?_, fun c hc => hchar c (hrest c hc)⟩⟩
      rcases hstart with h | rfl | rfl
      · simp only [h, Bool.true_or]
      · rfl
      · rfl

namespace Document

variable {doc doc' doc'' : Document} {id : Nat} {name value : String}

-- ============================================================= changes

/-- What a change keeps. -/
structure Keeps (doc doc' : Document) : Prop where
  root : doc'.root = doc.root
  prolog : doc'.prolog = doc.prolog
  epilog : doc'.epilog = doc.epilog
  elements : ∀ i, doc.isElement i = true → doc'.isElement i = true
  others : ∀ i kind, doc.kind? i = some kind → kind.element? = none →
    doc'.kind? i = some kind
  plain : (∀ i kind, doc.kind? i = some kind → kind.Plain) →
    ∀ i kind, doc'.kind? i = some kind → kind.Plain

theorem Keeps.refl (doc : Document) : doc.Keeps doc :=
  ⟨rfl, rfl, rfl, fun _ h => h, fun _ _ h _ => h, fun h => h⟩

theorem Keeps.trans (h : doc.Keeps doc') (h' : doc'.Keeps doc'') :
    doc.Keeps doc'' where
  root := h'.root.trans h.root
  prolog := h'.prolog.trans h.prolog
  epilog := h'.epilog.trans h.epilog
  elements i hi := h'.elements i (h.elements i hi)
  others i kind hk hn := h'.others i kind (h.others i kind hk hn) hn
  plain hdoc := h'.plain (h.plain hdoc)

/-- A change that touches nothing but parents and children. -/
theorem keeps_of_kind? (hroot : doc'.root = doc.root)
    (hprolog : doc'.prolog = doc.prolog)
    (hepilog : doc'.epilog = doc.epilog)
    (hkind : ∀ i, doc'.kind? i = doc.kind? i) : doc.Keeps doc' where
  root := hroot
  prolog := hprolog
  epilog := hepilog
  elements i hi := by
    rw [isElement, element?, hkind]
    exact hi
  others i kind hk _ := (hkind i).trans hk
  plain hdoc i kind hk := hdoc i kind ((hkind i).symm.trans hk)

/-- A replaced text is a node of its own. -/
theorem keeps_setText (h : doc.setText id value = .ok doc') :
    doc.Keeps doc' := by
  obtain ⟨-, -, rfl⟩ := setText_eq_ok_iff.mp h
  obtain ⟨hroot, hprolog, hepilog⟩ := outside_retext doc id value
  refine ⟨hroot, hprolog, hepilog, fun i hi => ?_, fun i kind hk _ => ?_,
    fun hdoc i kind hk => ?_⟩
  · rw [isElement, element?_retext]
    exact hi
  · have := Nat.ne_of_lt (lt_of_kind? hk)
    rw [kind?_retext, if_neg fun hn => this hn.1, hk]
  · rw [kind?_retext] at hk
    split at hk
    case isTrue hnew =>
        cases hk
        exact hnew.2
    case isFalse => exact hdoc i kind hk

/-- An element may be replaced by one that can be written if the first one
can. -/
theorem keeps_putElement {e e' : Element} (he : doc.element? id = some e)
    (hplain : e.Plain → e'.Plain) : doc.Keeps (doc.putElement id e') := by
  have hkind := element?_eq_some_iff.mp he
  have hput := fun i => @kind?_putElement doc id i e' (lt_of_kind? hkind)
  refine ⟨rfl, rfl, rfl, fun i hi => ?_, fun i kind hk hn => ?_,
    fun hdoc i kind hk => ?_⟩
  · rw [isElement, element?, hput]
    split
    · rfl
    · exact hi
  · rw [hput, if_neg]
    · exact hk
    · rintro rfl
      rw [hkind] at hk
      cases hk
      cases hn
  · rw [hput] at hk
    split at hk
    · cases hk
      exact hplain (hdoc id _ hkind)
    · exact hdoc i kind hk

/-- A written attribute has a name that was there, or the one that was
written. -/
theorem name_of_mem_writeAttribute {as : List Attribute}
    {a : Attribute} (h : a ∈ writeAttribute name value as) :
    a.name = QName.parse name ∨ ∃ b ∈ as, a.name = b.name := by
  induction as with
  | nil =>
      rw [writeAttribute, List.mem_singleton] at h
      exact .inl (congrArg Attribute.name h)
  | cons b rest ih =>
      rw [writeAttribute] at h
      split at h
      · rcases List.mem_cons.mp h with rfl | h
        · exact .inr ⟨b, List.mem_cons_self .., rfl⟩
        · exact .inr ⟨a, List.mem_cons_of_mem b h, rfl⟩
      · rcases List.mem_cons.mp h with rfl | h
        · exact .inr ⟨a, List.mem_cons_self .., rfl⟩
        · obtain h | ⟨c, hc, he⟩ := ih h
          · exact .inl h
          · exact .inr ⟨c, List.mem_cons_of_mem b hc, he⟩

/-- To write an attribute keeps the frame of a document. -/
theorem keeps_setAttribute (h : doc.setAttribute id name value = .ok doc') :
    doc.Keeps doc' := by
  obtain ⟨hname, -, e, he, rfl⟩ := setAttribute_eq_ok_iff.mp h
  refine keeps_putElement he fun hplain => ⟨hplain.name, fun a ha => ?_⟩
  rcases name_of_mem_writeAttribute ha with hq | ⟨b, hb, hq⟩
  · rw [hq, qualified_parse]
    exact isPlain_of_isValidName hname
  · rw [hq]
    exact hplain.attributes b hb

/-- To give an element another prefix keeps the frame of a document. -/
theorem keeps_rename {qname : QName} (h : doc.rename id qname = .ok doc') :
    doc.Keeps doc' := by
  obtain ⟨hname, -, e, he, rfl⟩ := rename_eq_ok_iff.mp h
  exact keeps_putElement he fun hplain =>
    ⟨isPlain_of_isValidName hname, hplain.attributes⟩

/-- To take an element out keeps the frame of a document, as it stays in the
table. -/
theorem keeps_detach (h : doc.detach id = .ok doc') : doc.Keeps doc' := by
  unfold detach at h
  split at h
  case isTrue => cases h
  case isFalse =>
      split at h
      case h_1 p hp =>
          rw [← Except.ok.inj h]
          refine keeps_of_kind? rfl rfl rfl fun i => ?_
          refine (kind?_modify ?_).trans (kind?_modify ?_) <;>
            exact fun _ => rfl
      case h_2 =>
          rw [← Except.ok.inj h]
          exact .refl doc

-- ====================================================== what comes out

/-- The tree of a node that is no element is the node. -/
theorem tree_congr (h : doc'.kind? id = doc.kind? id)
    (hn : doc.element? id = none) : doc'.tree id = doc.tree id := by
  rw [tree, tree, h]
  rw [element?] at hn
  cases hk : doc.kind? id with
  | none => rfl
  | some kind =>
      rw [hk] at hn
      cases kind with
      | element e => cases hn
      | _ => rfl

/-- What holds of all nodes holds of the nodes of a tree. -/
theorem all_tree {p : NodeKind → Prop}
    (h : ∀ i kind, doc.kind? i = some kind → p kind) (id : Nat)
    (hid : id < doc.size) : (doc.tree id).All p := by
  induction hn : doc.size - id using Nat.strong_induction_on
    generalizing id with
  | _ n ih =>
      have hnode : doc.kind? id ≠ none := by
        rw [kind?, Array.getElem?_eq_getElem hid]
        simp
      rw [tree]
      split
      case h_1 e hk =>
          refine ⟨h id _ hk, allOf_iff.mpr fun t ht => ?_⟩
          obtain ⟨c, -, ht⟩ := List.mem_flatMap.mp ht
          split at ht
          case isTrue hc =>
              rw [List.mem_singleton.mp ht]
              exact ih _ (by omega) c hc.2 rfl
          case isFalse => cases ht
      case h_2 s hk => exact h id _ hk
      case h_3 s hk => exact h id _ hk
      case h_4 t d hk => exact h id _ hk
      case h_5 hk => exact absurd hk hnode

/-- What stands outside of the root of a document that was read stays. -/
theorem Keeps.outside {text : String} (hdoc : parse text = some doc)
    (h : doc.Keeps doc') : doc'.content.prolog = doc.content.prolog
      ∧ doc'.content.epilog = doc.content.epilog := by
  obtain ⟨c, hc, rfl⟩ := parse_spelled hdoc
  have hplain := hc.plain
  have hcontent := content_ofContent c
  have houtside : ∀ ids : List Nat, (∀ t ∈ ids.map (ofContent c).tree,
        t.isElement = false ∧ t.All NodeKind.Plain) →
      ids.map doc'.tree = ids.map (ofContent c).tree := by
    intro ids hids
    refine List.map_congr_left fun id hid => ?_
    obtain ⟨hno, hall⟩ := hids _ (List.mem_map_of_mem hid)
    cases hk : (ofContent c).kind? id with
    | none =>
        rw [tree, hk] at hall
        exact absurd rfl hall
    | some kind =>
        have hn : kind.element? = none := by
          rw [tree, hk] at hno
          cases kind with
          | element e => cases hno
          | _ => rfl
        refine tree_congr ((h.others id kind hk hn).trans hk.symm) ?_
        rw [element?, hk]
        exact hn
  constructor
  · show doc'.prolog.map doc'.tree = _
    rw [h.prolog]
    refine houtside _ fun t ht => ?_
    obtain ⟨hremark, hall⟩ :=
      hplain.prolog t (congrArg Content.prolog hcontent ▸ ht)
    exact ⟨isElement_of_isRemark hremark, hall⟩
  · show doc'.epilog.map doc'.tree = _
    rw [h.epilog]
    exact houtside _ fun t ht =>
      hplain.epilog t (congrArg Content.epilog hcontent ▸ ht)

/-- What comes out of a document that was read can be written. -/
theorem Keeps.plain_content {text : String} (hdoc : parse text = some doc)
    (h : doc.Keeps doc') : doc'.content.Plain := by
  have hkinds := h.plain fun i kind hk => (kind_of_parse hdoc hk).plain
  have hroot := h.elements _ (sound_of_parse hdoc).root
  obtain ⟨hprolog, hepilog⟩ := h.outside hdoc
  have hplain : doc.content.Plain := by
    obtain ⟨c, hc, rfl⟩ := parse_spelled hdoc
    rw [content_ofContent]
    exact hc.plain
  refine ⟨?_, ?_, by rw [hprolog]; exact hplain.prolog,
    by rw [hepilog]; exact hplain.epilog,
    by rw [hepilog]; exact hplain.epilogText⟩
  · show (doc'.tree doc'.root).isElement = true
    rw [h.root]
    obtain ⟨e, he⟩ := Option.isSome_iff_exists.mp hroot
    rw [tree, element?_eq_some_iff.mp he]
    rfl
  · show (doc'.tree doc'.root).All NodeKind.Plain
    rw [h.root]
    exact all_tree hkinds _ (lt_of_isElement hroot)

end Document

-- ==================================================== harmless changes

/-- A name that stands for an attribute without a prefix, and declares
nothing. -/
structure IsBare (name : String) : Prop where
  part : IsPart name.toList
  ne : name ≠ "xmlns"

namespace IsBare

variable {name : String}

theorem spelled (h : IsBare name) : QName.Spelled ⟨none, name⟩ :=
  ⟨h.part, by simp⟩

theorem parse_eq (h : IsBare name) : QName.parse name = ⟨none, name⟩ := by
  rw [QName.parse, splitFirst?_eq_none_iff.mpr h.part.noColon]

theorem not_declares (h : IsBare name) : declares ⟨none, name⟩ = false := by
  simp [declares, h.ne]

end IsBare

/-- A spelled name is known by the way it is written. -/
theorem QName.Spelled.qualified_inj {m n : QName} (hm : m.Spelled)
    (hn : n.Spelled) (h : m.qualified = n.qualified) : m = n := by
  have := hm.nameOf?_qualified
  rw [h, hn.nameOf?_qualified] at this
  exact (Option.some.inj this).symm

namespace Document

/-- What becomes of attributes when one without a prefix is written. -/
theorem writeAttribute_bare {name : String} (h : IsBare name)
    (value : String) {as : List Attribute}
    (hs : ∀ a ∈ as, a.name.Spelled) :
    (∃ before a behind, as = before ++ a :: behind
        ∧ a.name = ⟨none, name⟩
        ∧ writeAttribute name value as
          = before ++ { a with value := value } :: behind)
      ∨ (∀ a ∈ as, a.name ≠ ⟨none, name⟩)
        ∧ writeAttribute name value as
          = as ++ [⟨⟨none, name⟩, value⟩] := by
  induction as with
  | nil => exact .inr ⟨by simp, by rw [writeAttribute, h.parse_eq]; rfl⟩
  | cons b rest ih =>
      obtain ⟨hb, hrest⟩ := List.forall_mem_cons.mp hs
      rw [writeAttribute]
      by_cases hq : b.name.qualified = name
      · refine .inl ⟨[], b, rest, rfl, hb.qualified_inj h.spelled hq, ?_⟩
        simp [hq]
      · have hne : b.name ≠ ⟨none, name⟩ := by
          intro he
          rw [he] at hq
          exact hq rfl
        rw [if_neg (by simpa using hq)]
        rcases ih hrest with ⟨before, a, behind, rfl, ha, hw⟩ | ⟨hno, hw⟩
        · exact .inl ⟨b :: before, a, behind, rfl, ha, by rw [hw]; rfl⟩
        · exact .inr ⟨List.forall_mem_cons.mpr ⟨hne, hno⟩, by rw [hw]; rfl⟩

end Document

/-- The declarations of an element are made by attributes that declare. -/
theorem ownBindings_filter (attributes : List (QName × String)) :
    ownBindings (attributes.filter (declares ·.1))
      = ownBindings attributes := by
  induction attributes using List.reverseRecOn with
  | nil => rfl
  | append_singleton attributes x ih =>
      rw [List.filter_append, List.filter_singleton, ownBindings_concat]
      cases hx : declares x.1 with
      | true =>
          rw [cond_true, ownBindings_concat, ih]
      | false =>
          have hquiet : ∀ own, bindingOf own x.1 x.2 = some none := by
            intro own
            simp only [declares, Bool.or_eq_false_iff] at hx
            simp [bindingOf, hx.1, hx.2]
          rw [cond_false, List.append_nil, ih]
          simp [hquiet]

/-- Whether a tag can be resolved does not depend on the values of
attributes that declare nothing. -/
theorem Resolves.congr {scope inner : Scope} {name : QName}
    {xs ys : List (QName × String)} (h : Resolves scope name xs inner)
    (hdeclared : ys.filter (declares ·.1) = xs.filter (declares ·.1))
    (hnames : (ys.filter (!declares ·.1)).map Prod.fst
      = (xs.filter (!declares ·.1)).map Prod.fst) :
    Resolves scope name ys inner := by
  have hexpand : ∀ zs : List (QName × String),
      (zs.map fun x => expandAttributeName inner x.1)
        = (zs.map Prod.fst).map (expandAttributeName inner) := by
    intro zs
    rw [List.map_map]
    rfl
  refine ⟨?_, fun x hx => ?_, ?_, h.element⟩
  · rw [← ownBindings_filter, hdeclared, ownBindings_filter]
    exact h.allowed
  · have hmem := List.mem_map_of_mem (f := Prod.fst) hx
    rw [hnames] at hmem
    obtain ⟨y, hy, he⟩ := List.mem_map.mp hmem
    rw [← he]
    exact h.declared y hy
  · rw [hexpand, hnames, ← hexpand]
    exact h.distinct

/-- An attribute without a prefix may be added if there is none of its
name. -/
theorem Resolves.append_bare {scope inner : Scope} {name : QName}
    {xs : List (QName × String)} {x : QName × String} {added : String}
    (h : Resolves scope name xs inner) (hbare : IsBare added)
    (hx : x.1 = ⟨none, added⟩) (hnew : ∀ y ∈ xs, y.1 ≠ ⟨none, added⟩) :
    Resolves scope name (xs ++ [x]) inner := by
  have hno : declares x.1 = false := hx ▸ hbare.not_declares
  have hothers : (xs ++ [x]).filter (!declares ·.1)
      = xs.filter (!declares ·.1) ++ [x] := by
    rw [List.filter_append]
    simp [hno]
  have hown : (xs ++ [x]).filter (declares ·.1)
      = xs.filter (declares ·.1) := by
    rw [List.filter_append]
    simp [hno]
  refine ⟨?_, fun y hy => ?_, ?_, h.element⟩
  · rw [← ownBindings_filter, hown, ownBindings_filter]
    exact h.allowed
  · rw [hothers, List.mem_append, List.mem_singleton] at hy
    rcases hy with hy | rfl
    · exact h.declared y hy
    · rw [hx]
      rfl
  · rw [hothers, List.map_append, List.map_singleton, List.nodup_append, hx]
    refine ⟨h.distinct, List.nodup_singleton _, fun y hy z hz => ?_⟩
    obtain ⟨⟨⟨p, l⟩, v⟩, hmem, rfl⟩ := List.mem_map.mp hy
    rw [List.mem_singleton.mp hz]
    -- a name with a prefix is expanded to one with a URI
    intro he
    have hsame : (⟨p, l⟩ : QName) = ⟨none, added⟩ := by
      simp only [expandAttributeName, Scope.uriOfPrefix] at he
      split at he
      case h_1 =>
          cases he
          rfl
      case h_2 => cases he
      case h_3 =>
          obtain ⟨uri, huri, he⟩ := Option.map_eq_some_iff.mp he
          obtain ⟨_, -, rfl⟩ := Option.map_eq_some_iff.mp huri
          cases he
    exact hnew (⟨p, l⟩, v) (List.mem_of_mem_filter hmem) hsame

/-- Writing an attribute without a prefix leaves names spelled. -/
theorem Document.spelled_writeAttribute {name : String} (h : IsBare name)
    (value : String) {as : List Attribute}
    (hs : ∀ a ∈ as, a.name.Spelled) :
    ∀ a ∈ writeAttribute name value as, a.name.Spelled := by
  rcases writeAttribute_bare h value hs with
    ⟨before, a, behind, has, -, hw⟩ | ⟨-, hw⟩
  · rw [has, List.forall_mem_append, List.forall_mem_cons] at hs
    rw [hw, List.forall_mem_append, List.forall_mem_cons]
    exact hs
  · rw [hw, List.forall_mem_append, List.forall_mem_singleton]
    exact ⟨hs, h.spelled⟩

/-- A tag that can be read can be read with an attribute written that has
no prefix. -/
theorem Element.Wellformed.writeAttribute {scope inner : Scope}
    {e : Element} {name value : String} (h : e.Wellformed scope inner)
    (hs : ∀ a ∈ e.attributes, a.name.Spelled) (hbare : IsBare name)
    (hvalue : value.toList.all isXmlChar = true) :
    Wellformed scope { e with
      attributes := Document.writeAttribute name value e.attributes }
      inner := by
  obtain ⟨qname, attributes, hname, hno, hread, hresolves⟩ := h
  have hall : e.attributes.all (fun a => a.value.toList.all isXmlChar)
      = true := by
    by_contra hbad
    rw [mapM_read? hs, if_neg hbad] at hread
    cases hread
  rw [mapM_read? hs, if_pos hall] at hread
  cases hread
  rw [List.all_eq_true] at hall
  have hvalues : ∀ a ∈ Document.writeAttribute name value e.attributes,
      a.value.toList.all isXmlChar = true := by
    rcases Document.writeAttribute_bare hbare value hs with
      ⟨before, a, behind, has, -, hw⟩ | ⟨-, hw⟩
    · rw [has, List.forall_mem_append, List.forall_mem_cons] at hall
      rw [hw, List.forall_mem_append, List.forall_mem_cons]
      exact ⟨hall.1, hvalue, hall.2.2⟩
    · rw [hw, List.forall_mem_append, List.forall_mem_singleton]
      exact ⟨hall, hvalue⟩
  have hread := mapM_read? (Document.spelled_writeAttribute hbare value hs)
  rw [if_pos (List.all_eq_true.mpr hvalues)] at hread
  refine ⟨qname, _, hname, hno, hread, ?_⟩
  · rcases Document.writeAttribute_bare hbare value hs with
      ⟨before, a, behind, has, ha, hw⟩ | ⟨hnew, hw⟩
    · have hquiet : declares a.name = false := ha ▸ hbare.not_declares
      rw [has] at hresolves
      rw [hw]
      refine hresolves.congr ?_ ?_ <;> simp [hquiet]
    · rw [hw, List.map_append, List.map_singleton]
      refine hresolves.append_bare hbare rfl fun y hy => ?_
      obtain ⟨b, hb, rfl⟩ := List.mem_map.mp hy
      exact hnew b hb

/-- Trees can be read in a row if each can be. -/
theorem wellformedAll_iff {scope : Scope} {ts : List Tree} :
    WellformedAll scope ts ↔ ∀ t ∈ ts, t.Wellformed scope := by
  induction ts with
  | nil => simp [WellformedAll]
  | cons t rest ih => simp [WellformedAll, ih]

namespace Document

variable {doc doc' doc'' : Document} {id : Nat} {name value : String}

/-- A change that does no harm: a tag that can be read can be read
afterwards, and below a node nothing comes up but texts. -/
structure Spares (doc doc' : Document) : Prop where
  keeps : doc.Keeps doc'
  tags : ∀ i e, doc.element? i = some e →
    (∀ a ∈ e.attributes, a.name.Spelled) →
    ∃ e', doc'.element? i = some e'
      ∧ (∀ a ∈ e'.attributes, a.name.Spelled)
      ∧ ∀ scope inner, e.Wellformed scope inner → e'.Wellformed scope inner
  children : ∀ i, ∀ c ∈ doc'.children i, c ∈ doc.children i
    ∨ ∃ s, doc'.kind? c = some (.text s) ∧ s.toList.all isXmlChar = true

theorem Spares.refl (doc : Document) : doc.Spares doc where
  keeps := .refl doc
  tags _ e he hs := ⟨e, he, hs, fun _ _ h => h⟩
  children _ _ hc := .inl hc

/-- Changes that do no harm one after the other do none. -/
theorem Spares.trans (h : doc.Spares doc') (h' : doc'.Spares doc'') :
    doc.Spares doc'' where
  keeps := h.keeps.trans h'.keeps
  tags i e he hs := by
    obtain ⟨e', he', hs', hread⟩ := h.tags i e he hs
    obtain ⟨e'', he'', hs'', hread'⟩ := h'.tags i e' he' hs'
    exact ⟨e'', he'', hs'', fun scope inner hw =>
      hread' scope inner (hread scope inner hw)⟩
  children i c hc := by
    rcases h'.children i c hc with hc | hc
    · rcases h.children i c hc with hc | ⟨s, hs, hchars⟩
      · exact .inl hc
      · exact .inr ⟨s, h'.keeps.others c _ hs rfl, hchars⟩
    · exact .inr hc

/-- A new text is no harm: documents can hold its characters, or it would have
been refused. -/
theorem spares_setText (h : doc.setText id value = .ok doc') :
    doc.Spares doc' := by
  obtain ⟨hchars, hel, rfl⟩ := setText_eq_ok_iff.mp h
  refine ⟨keeps_setText h, fun i e he hs => ?_, fun i c hc => ?_⟩
  · exact ⟨e, (element?_retext value).trans he, hs, fun _ _ hw => hw⟩
  · rw [children_retext (lt_of_isElement hel)] at hc
    split at hc
    case isFalse => exact .inl hc
    case isTrue hi =>
        rw [retexted, List.mem_append] at hc
        rcases hc with hc | hc
        · split at hc
          case isTrue => cases hc
          case isFalse hne =>
              refine .inr ⟨value, ?_, hchars⟩
              rw [kind?_retext, if_pos ⟨List.mem_singleton.mp hc, hne⟩]
        · exact .inl (hi ▸ List.mem_of_mem_filter hc)

/-- An attribute without a prefix is no harm where it is written: it needs no
declaration, and it takes the place of one with the same name. -/
theorem spares_setAttribute (hname : IsBare name)
    (h : doc.setAttribute id name value = .ok doc') : doc.Spares doc' := by
  obtain ⟨-, hchars, e, he, rfl⟩ := setAttribute_eq_ok_iff.mp h
  have hlt := lt_of_element? he
  refine ⟨keeps_setAttribute h, fun i e' he' hs => ?_, fun i c hc => ?_⟩
  · rw [element?_putElement hlt]
    split
    case isFalse => exact ⟨e', he', hs, fun _ _ hw => hw⟩
    case isTrue hi =>
        rw [hi, he] at he'
        cases he'
        exact ⟨_, rfl, spelled_writeAttribute hname value hs,
          fun _ _ hw => hw.writeAttribute hs hname hchars⟩
  · rw [children_putElement] at hc
    exact .inl hc

/-- A node whose children are only taken away. -/
theorem mem_children_of_modify {f : Node → Node} {i c : Nat}
    (hf : ∀ n, ∀ c ∈ (f n).children, c ∈ n.children)
    (h : c ∈ (doc.modify id f).children i) : c ∈ doc.children i := by
  rw [children, getElem?_modify] at h
  rw [children]
  split at h
  case isFalse => exact h
  case isTrue =>
      cases hn : doc.nodes[i]? with
      | none =>
          rw [hn] at h
          cases h
      | some n =>
          rw [hn] at h
          exact hf n c h

/-- And what is taken out cannot be read wrongly. -/
theorem spares_detach (h : doc.detach id = .ok doc') : doc.Spares doc' := by
  have hkeeps := keeps_detach h
  unfold detach at h
  split at h
  case isTrue => cases h
  case isFalse =>
      split at h
      case h_2 =>
          cases h
          exact .refl doc
      case h_1 p hp =>
          cases h
          refine ⟨hkeeps, fun i e he hs => ?_, fun i c hc => .inl ?_⟩
          · refine ⟨e, ?_, hs, fun _ _ hw => hw⟩
            rw [← he, element?, element?]
            refine congrArg (Option.bind · _)
              ((kind?_modify ?_).trans (kind?_modify ?_)) <;>
              exact fun _ => rfl
          · have horphan : (doc.orphan id).children i = doc.children i :=
              children_modify fun _ => rfl
            rw [← horphan]
            exact mem_children_of_modify
              (fun _ _ hc => List.mem_of_mem_filter hc) hc

/-- Below an element that is spared, everything can be read that could
be. -/
theorem Spares.wellformed_tree (h : doc.Spares doc') (hdoc : doc.Sound)
    (hs : ∀ i e, doc.element? i = some e →
      ∀ a ∈ e.attributes, a.name.Spelled) (id : Nat) {e : Element}
    (he : doc.element? id = some e) (scope : Scope)
    (hw : (doc.tree id).Wellformed scope) :
    (doc'.tree id).Wellformed scope := by
  induction hn : doc.size - id using Nat.strong_induction_on
    generalizing id e scope with
  | _ n ih =>
      have hkind := element?_eq_some_iff.mp he
      obtain ⟨e', he', -, htag⟩ := h.tags id e he (hs id e he)
      have hkind' := element?_eq_some_iff.mp he'
      rw [tree, hkind] at hw
      obtain ⟨inner, hopen, hbelow⟩ := hw
      rw [tree, hkind']
      refine ⟨inner, htag scope inner hopen,
        wellformedAll_iff.mpr fun t ht => ?_⟩
      obtain ⟨c, hc, ht⟩ := List.mem_flatMap.mp ht
      split at ht
      case isFalse => cases ht
      case isTrue hlt =>
          rw [List.mem_singleton.mp ht]
          rcases h.children id c hc with hc | ⟨s, hk, hchars⟩
          · have hsize := hdoc.children id c hc
            have hold : (doc.tree c).Wellformed inner := by
              refine wellformedAll_iff.mp hbelow _
                (List.mem_flatMap.mpr ⟨c, hc, ?_⟩)
              rw [dif_pos ⟨hlt.1, hsize⟩]
              exact List.mem_singleton_self _
            cases hel : doc.element? c with
            | some inside => exact ih _ (by omega) c hel inner hold rfl
            | none =>
                have hk : doc.kind? c = some doc.nodes[c].kind := by
                  rw [kind?, Array.getElem?_eq_getElem hsize]
                  rfl
                have hno := hel
                rw [element?, hk] at hno
                rw [tree_congr ((h.keeps.others c _ hk hno).trans hk.symm)
                  hel]
                exact hold
          · rw [tree, hk]
            exact hchars

/-- A document that can be read where it is written can be read where it
is written after changes that do no harm. -/
theorem Spares.wellformed {text : String} (hdoc : parse text = some doc)
    (h : doc.Spares doc') {declaration : Bool}
    (hw : doc.content.Wellformed declaration) :
    doc'.content.Wellformed declaration := by
  obtain ⟨hprolog, hepilog⟩ := h.keeps.outside hdoc
  have hsound := sound_of_parse hdoc
  obtain ⟨e, he⟩ := Option.isSome_iff_exists.mp hsound.root
  have hstart : doc'.content.start declaration
      = doc.content.start declaration := by
    rw [Content.start, Content.start, hprolog]
  refine ⟨?_, ?_, ?_, ?_⟩
  · rw [hstart]
    exact hw.version
  · rw [hstart]
    exact hw.prolog
  · show (doc'.tree doc'.root).Wellformed []
    rw [h.keeps.root]
    refine h.wellformed_tree hsound (fun i e he => ?_) doc.root he [] hw.root
    exact (kind_of_parse hdoc (element?_eq_some_iff.mp he)).2
  · rw [hepilog]
    exact hw.epilog

end Document

end Overlay.Xml
