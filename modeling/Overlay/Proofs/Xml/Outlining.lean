/-
What changes to texts, attributes and prefixes leave alone.

# The outline

Without its texts, a document is an outline: elements with their local
names, comments and processing instructions, each with its number, its
parent and its place among the children of the parent. A replaced text
rewires the children of its element and makes a node; it does not touch
the outline, and neither do attributes and prefixes (`SameOutline`).

# Reach

What else changes is bounded by a `Reach`, which says where changes may
happen. It confines the difference of two documents as long as every
change happens within it (`Reach.Confines`). Attributes are compared place
by place: they are only added behind the others, so that the places of
those that were there before are the same in both documents.
-/
import Overlay.Proofs.Xml.Edits

namespace Overlay.Xml

/-- What a node is apart from prefixes, namespaces and attributes; texts
are left out. -/
def NodeKind.outline : NodeKind → Option NodeKind
  | .element e => some (.element ⟨⟨none, e.name.localName⟩, none, []⟩)
  | .text _ => none
  | kind => some kind

namespace Document

variable {doc doc' doc'' : Document} {id i : Nat} {name value : String}

-- ============================================================ outlines

/-- What a node is in the outline. -/
def outline? (doc : Document) (id : Nat) : Option NodeKind :=
  (doc.kind? id).bind NodeKind.outline

/-- The children of a node that are no texts. -/
def otherChildren (doc : Document) (id : Nat) : List Nat :=
  (doc.children id).filter (!doc.isText ·)

/-- Documents that are the same but for their texts, and for the prefixes,
namespaces and attributes of their elements. -/
structure SameOutline (doc doc' : Document) : Prop where
  root : doc'.root = doc.root
  prolog : doc'.prolog = doc.prolog
  epilog : doc'.epilog = doc.epilog
  outline? : ∀ i, doc'.outline? i = doc.outline? i
  parent? : ∀ i, (doc.outline? i).isSome = true →
    doc'.parent? i = doc.parent? i
  otherChildren : ∀ i, doc'.otherChildren i = doc.otherChildren i

/-- The local name of an element is in its outline. -/
theorem localName_eq_outline (doc : Document) (id : Nat) :
    doc.localName id = ((((doc.outline? id).bind NodeKind.element?).map
      (·.name.localName)).getD "") := by
  rw [localName, name?, element?, outline?]
  cases doc.kind? id with
  | none => rfl
  | some kind => cases kind <;> rfl

/-- Whether a node is an element is in its outline. -/
theorem isElement_eq_outline (doc : Document) (id : Nat) :
    doc.isElement id
      = ((doc.outline? id).bind NodeKind.element?).isSome := by
  rw [isElement, element?, outline?]
  cases doc.kind? id with
  | none => rfl
  | some kind => cases kind <;> rfl

/-- What has an outline is no text. -/
theorem isText_of_outline (h : (doc.outline? id).isSome = true) :
    doc.isText id = false := by
  rw [isText]
  rw [outline?] at h
  cases hk : doc.kind? id with
  | none => rfl
  | some kind =>
      rw [hk] at h
      cases kind <;> first | rfl | cases h

/-- What has an outline has a number in the table. -/
theorem lt_of_outline (h : (doc.outline? id).isSome = true) :
    id < doc.size := by
  obtain ⟨kind, hk⟩ := Option.isSome_iff_exists.mp h
  obtain ⟨kind', hk', -⟩ := Option.bind_eq_some_iff.mp hk
  exact lt_of_kind? hk'

/-- Elements are no texts. -/
theorem elementChildren_eq_filter (doc : Document) (id : Nat) :
    doc.elementChildren id = (doc.otherChildren id).filter doc.isElement := by
  rw [elementChildren, otherChildren, List.filter_filter]
  refine List.filter_congr fun c _ => ?_
  rw [isElement, element?, isText]
  cases doc.kind? c with
  | none => rfl
  | some kind => cases kind <;> rfl

namespace SameOutline

theorem refl (doc : Document) : doc.SameOutline doc :=
  ⟨rfl, rfl, rfl, fun _ => rfl, fun _ _ => rfl, fun _ => rfl⟩

theorem trans (h : doc.SameOutline doc') (h' : doc'.SameOutline doc'') :
    doc.SameOutline doc'' where
  root := h'.root.trans h.root
  prolog := h'.prolog.trans h.prolog
  epilog := h'.epilog.trans h.epilog
  outline? i := (h'.outline? i).trans (h.outline? i)
  parent? i hi := (h'.parent? i ((h.outline? i).symm ▸ hi)).trans
    (h.parent? i hi)
  otherChildren i := (h'.otherChildren i).trans (h.otherChildren i)

theorem localName (h : doc.SameOutline doc') (i : Nat) :
    doc'.localName i = doc.localName i := by
  rw [localName_eq_outline, h.outline?, ← localName_eq_outline]

theorem isElement (h : doc.SameOutline doc') (i : Nat) :
    doc'.isElement i = doc.isElement i := by
  rw [isElement_eq_outline, h.outline?, ← isElement_eq_outline]

/-- Documents of the same outline have the same elements below each node. -/
theorem elementChildren (h : doc.SameOutline doc') (i : Nat) :
    doc'.elementChildren i = doc.elementChildren i := by
  have hel : doc'.isElement = doc.isElement := funext h.isElement
  rw [elementChildren_eq_filter, h.otherChildren, hel,
    ← elementChildren_eq_filter]

end SameOutline

/-- A replaced text is not in the outline. -/
theorem sameOutline_retext (h : doc.Sound) (hid : id < doc.size)
    (value : String) : doc.SameOutline (doc.retext id value) := by
  obtain ⟨hroot, hprolog, hepilog⟩ := outside_retext doc id value
  have hnew : doc.outline? doc.size = none := by
    cases ho : doc.outline? doc.size with
    | none => rfl
    | some kind =>
        exact absurd (lt_of_outline (Option.isSome_of_eq_some ho))
          (Nat.lt_irrefl _)
  have htext : ∀ c < doc.size,
      (doc.retext id value).isText c = doc.isText c := by
    intro c hc
    rw [isText, kind?_retext, if_neg fun hn => Nat.ne_of_lt hc hn.1, isText]
  refine ⟨hroot, hprolog, hepilog, fun i => ?_, fun i hi => ?_, fun i => ?_⟩
  · rw [outline?, kind?_retext]
    split
    case isTrue hi => rw [hi.1, hnew]; rfl
    case isFalse => rfl
  · exact parent?_retext_of_not_text (lt_of_outline hi)
      (isText_of_outline hi) value
  · have hothers : ∀ cs : List Nat, (∀ c ∈ cs, c < doc.size) →
        cs.filter (!(doc.retext id value).isText ·)
          = cs.filter (!doc.isText ·) :=
      fun cs hcs => List.filter_congr fun c hc => by rw [htext c (hcs c hc)]
    rw [otherChildren, children_retext hid]
    split
    case isFalse => exact hothers _ (h.children i)
    case isTrue hi =>
        have hadded : (if value = "" then [] else [doc.size]).filter
            (!(doc.retext id value).isText ·) = [] := by
          split
          · rfl
          · rename_i hv
            rw [List.filter_cons_of_neg, List.filter_nil]
            simp [isText, kind?_retext, hv, NodeKind.isText]
        rw [retexted, List.filter_append, hadded, List.nil_append,
          hothers _ fun c hc => h.children id c (List.mem_of_mem_filter hc),
          List.filter_filter, hi, otherChildren]
        exact List.filter_congr fun c _ => Bool.and_self _

/-- Replacing an element by one of the same local name keeps the
outline. -/
theorem sameOutline_putElement {e e' : Element}
    (he : doc.element? id = some e)
    (hname : e'.name.localName = e.name.localName) :
    doc.SameOutline (doc.putElement id e') := by
  have hkind := element?_eq_some_iff.mp he
  have hput := fun i => @kind?_putElement doc id i e' (lt_of_kind? hkind)
  have htext : (doc.putElement id e').isText = doc.isText := by
    funext i
    rw [isText, hput, isText]
    split
    case isTrue hi => rw [hi, hkind]; rfl
    case isFalse => rfl
  refine ⟨rfl, rfl, rfl, fun i => ?_, fun i _ => ?_, fun i => ?_⟩
  · rw [outline?, hput, outline?]
    split
    case isTrue hi =>
        rw [hi, hkind, Option.bind_some, Option.bind_some,
          NodeKind.outline, NodeKind.outline, hname]
    case isFalse => rfl
  · exact parent?_putElement
  · rw [otherChildren, children_putElement, htext, otherChildren]

-- ========================================================== attributes

/-- A written attribute that was not there comes last. -/
theorem names_writeAttribute (name value : String) (as : List Attribute) :
    ∃ added, (writeAttribute name value as).map (·.name)
        = as.map (·.name) ++ added
      ∧ ∀ n ∈ added, n.qualified = name
        ∧ ∀ a ∈ as, a.name.qualified ≠ name := by
  induction as with
  | nil =>
      refine ⟨[QName.parse name], rfl, fun n hn => ⟨?_, by simp⟩⟩
      rw [List.mem_singleton.mp hn, qualified_parse]
  | cons a rest ih =>
      rw [writeAttribute]
      by_cases ha : a.name.qualified = name
      · rw [if_pos (beq_iff_eq.mpr ha)]
        exact ⟨[], by simp, by simp⟩
      · obtain ⟨added, hnames, hadded⟩ := ih
        rw [if_neg (beq_iff_eq.not.mpr ha)]
        refine ⟨added, by simp [hnames], fun n hn => ⟨(hadded n hn).1, ?_⟩⟩
        exact List.forall_mem_cons.mpr ⟨ha, (hadded n hn).2⟩

/-- Where the value of an attribute changes, its name is the one that was
written. -/
theorem qualified_of_writeAttribute {as : List Attribute} {j : Nat}
    {a b : Attribute} (ha : as[j]? = some a)
    (hb : (writeAttribute name value as)[j]? = some b)
    (hne : b.value ≠ a.value) : a.name.qualified = name := by
  induction as generalizing j with
  | nil => cases ha
  | cons c rest ih =>
      rw [writeAttribute] at hb
      split at hb
      case isTrue hc =>
          cases j with
          | zero =>
              cases ha
              exact beq_iff_eq.mp hc
          | succ j =>
              cases ha.symm.trans hb
              exact absurd rfl hne
      case isFalse =>
          cases j with
          | zero =>
              cases ha
              cases hb
              exact absurd rfl hne
          | succ j => exact ih ha hb

end Document

-- =============================================================== reach

/-- Where changes to a document may happen. -/
structure Reach where
  /-- The elements whose direct text may change. -/
  text : Nat → Prop
  /-- The attributes whose value may change, by element and qualified
  name. -/
  value : Nat → String → Prop
  /-- The attributes that may be added. -/
  addition : Nat → String → Prop
  /-- The elements that may get another prefix. -/
  nsPrefix : Nat → Prop

namespace Reach

variable {reach : Reach} {doc doc' doc'' : Document} {i : Nat}

/-- Whether all that differs in two documents is within reach. Their
outlines are the same, and attributes are only added, and only behind the
others. -/
structure Confines (reach : Reach) (doc doc' : Document) : Prop where
  outline : doc.SameOutline doc'
  texts : ∀ i, doc'.text? i ≠ doc.text? i → reach.text i
  names : ∀ i, ∃ added,
    (doc'.attributes i).map (·.name) = (doc.attributes i).map (·.name) ++ added
      ∧ ∀ n ∈ added, reach.addition i n.qualified
  values : ∀ i (j : Nat) a b, (doc.attributes i)[j]? = some a →
    (doc'.attributes i)[j]? = some b → b.value ≠ a.value →
      reach.value i a.name.qualified
  prefixes : ∀ i, doc'.name? i ≠ doc.name? i ∨ doc'.uri? i ≠ doc.uri? i →
    reach.nsPrefix i

namespace Confines

theorem refl (reach : Reach) (doc : Document) : reach.Confines doc doc where
  outline := .refl doc
  texts _ h := absurd rfl h
  names _ := ⟨[], (List.append_nil _).symm, by simp⟩
  values i j a b ha hb h := by
    cases ha.symm.trans hb
    exact absurd rfl h
  prefixes _ h := (h.elim (absurd rfl) (absurd rfl) : False).elim

/-- What differs in the end differed somewhere on the way, and an attribute
that is added is behind those that were added before. -/
theorem trans (h : reach.Confines doc doc')
    (h' : reach.Confines doc' doc'') : reach.Confines doc doc'' where
  outline := h.outline.trans h'.outline
  texts i hne := by
    by_cases hd : doc'.text? i = doc.text? i
    · exact h'.texts i (hd ▸ hne)
    · exact h.texts i hd
  names i := by
    obtain ⟨added, hnames, hadded⟩ := h.names i
    obtain ⟨more, hmore, hadded'⟩ := h'.names i
    refine ⟨added ++ more, by rw [hmore, hnames, List.append_assoc], ?_⟩
    intro n hn
    exact (List.mem_append.mp hn).elim (hadded n) (hadded' n)
  values i j a b ha hb hne := by
    -- the attribute at the same place in between
    obtain ⟨added, hnames, -⟩ := h.names i
    have hplace : ((doc'.attributes i).map (·.name))[j]? = some a.name := by
      rw [hnames, List.getElem?_append_left, List.getElem?_map, ha]
      · rfl
      · rw [List.length_map]
        exact (List.getElem?_eq_some_iff.mp ha).1
    rw [List.getElem?_map, Option.map_eq_some_iff] at hplace
    obtain ⟨c, hc, hname⟩ := hplace
    by_cases hd : c.value = a.value
    · exact hname ▸ h'.values i j c b hc hb (hd ▸ hne)
    · exact h.values i j a c ha hc hd
  prefixes i hne := by
    by_cases hd : doc'.name? i = doc.name? i ∧ doc'.uri? i = doc.uri? i
    · rw [← hd.1, ← hd.2] at hne
      exact h'.prefixes i hne
    · exact h.prefixes i (not_and_or.mp hd)

/-- An attribute that was there before is still there. -/
theorem exists_attribute (h : reach.Confines doc doc') {a : Attribute}
    (ha : a ∈ doc.attributes i) :
    ∃ b ∈ doc'.attributes i, b.name = a.name := by
  obtain ⟨added, hnames, -⟩ := h.names i
  have hmem : a.name ∈ (doc'.attributes i).map (·.name) := by
    rw [hnames]
    exact List.mem_append_left _ (List.mem_map_of_mem ha)
  exact List.mem_map.mp hmem

/-- An attribute that is there was there before, or is one of those that
may be added. -/
theorem attribute_cases (h : reach.Confines doc doc') {b : Attribute}
    (hb : b ∈ doc'.attributes i) :
    (∃ a ∈ doc.attributes i, a.name = b.name)
      ∨ reach.addition i b.name.qualified := by
  obtain ⟨added, hnames, hadded⟩ := h.names i
  have hmem : b.name ∈ (doc'.attributes i).map (·.name) :=
    List.mem_map_of_mem hb
  rw [hnames] at hmem
  exact (List.mem_append.mp hmem).imp List.mem_map.mp (hadded _)

end Confines

end Reach

-- ====================================================== single changes

namespace Reach

variable {reach : Reach} {doc doc' : Document} {id : Nat}
  {name value : String}

open Document

/-- To set a text within reach stays within reach, and leaves a sound document:
the new text gets a number that no node had. -/
theorem confines_setText (h : doc.Sound)
    (hset : doc.setText id value = .ok doc') (hreach : reach.text id) :
    reach.Confines doc doc' ∧ doc'.Sound := by
  obtain ⟨-, hel, rfl⟩ := setText_eq_ok_iff.mp hset
  have hid := lt_of_isElement hel
  have hattributes : ∀ i, (doc.retext id value).attributes i
      = doc.attributes i := by
    intro i
    rw [attributes, element?_retext, attributes]
  refine ⟨⟨sameOutline_retext h hid value, fun i hne => ?_, fun i => ?_,
    fun i j a b ha hb hne => ?_, fun i hne => ?_⟩,
    sound_retext h hid value⟩
  · by_cases hi : i = id
    · exact hi ▸ hreach
    · exact absurd (text?_retext_of_ne h hid hi value) hne
  · exact ⟨[], by rw [hattributes, List.append_nil], by simp⟩
  · rw [hattributes, ha] at hb
    cases hb
    exact absurd rfl hne
  · simp [name?, uri?, element?_retext] at hne

/-- Changing an element stays within reach if its attributes do, and if
either its name and its namespace stay or they may change. -/
theorem confines_putElement {e e' : Element} (he : doc.element? id = some e)
    (hlocal : e'.name.localName = e.name.localName)
    (hnames : ∃ added, e'.attributes.map (·.name)
        = e.attributes.map (·.name) ++ added
      ∧ ∀ n ∈ added, reach.addition id n.qualified)
    (hvalues : ∀ (j : Nat) a b, e.attributes[j]? = some a →
      e'.attributes[j]? = some b → b.value ≠ a.value →
        reach.value id a.name.qualified)
    (hpre : (e'.name = e.name ∧ e'.uri = e.uri) ∨ reach.nsPrefix id) :
    reach.Confines doc (doc.putElement id e') := by
  have hput : ∀ i, (doc.putElement id e').element? i
      = if i = id then some e' else doc.element? i :=
    fun i => element?_putElement (lt_of_element? he)
  refine ⟨sameOutline_putElement he hlocal, fun i hne => ?_, fun i => ?_,
    fun i j a b ha hb hne => ?_, fun i hne => ?_⟩
  · exact absurd (text?_putElement he) hne
  · rw [attributes, hput, attributes]
    split
    case isTrue hi => rw [hi, he]; exact hnames
    case isFalse => exact ⟨[], by rw [List.append_nil], by simp⟩
  · rw [attributes, hput] at hb
    rw [attributes] at ha
    split at hb
    case isTrue hi =>
        rw [hi, he] at ha
        exact hi ▸ hvalues j a b ha hb hne
    case isFalse =>
        cases ha.symm.trans hb
        exact absurd rfl hne
  · rw [name?, uri?, hput, name?, uri?] at hne
    split at hne
    case isTrue hi =>
        rw [hi, he] at hne
        rcases hpre with ⟨hn, hu⟩ | hr
        · simp [hn, hu] at hne
        · exact hi ▸ hr
    case isFalse => simp at hne

/-- To write an attribute changes its value or adds it behind the others; only
what is in reach of either may differ. -/
theorem confines_setAttribute
    (hset : doc.setAttribute id name value = .ok doc')
    (hvalue : reach.value id name)
    (hthere : (∃ a ∈ doc.attributes id, a.name.qualified = name)
      ∨ reach.addition id name) : reach.Confines doc doc' := by
  obtain ⟨-, -, e, he, rfl⟩ := setAttribute_eq_ok_iff.mp hset
  have hattributes : doc.attributes id = e.attributes := by
    rw [attributes, he]
    rfl
  obtain ⟨added, hnames, hadded⟩ :=
    names_writeAttribute name value e.attributes
  refine confines_putElement he rfl ⟨added, hnames, fun n hn => ?_⟩
    (fun j a b ha hb hne => ?_) (.inl ⟨rfl, rfl⟩)
  · obtain ⟨hq, hnew⟩ := hadded n hn
    rcases hthere with ⟨a, ha, hqa⟩ | hr
    · exact absurd hqa (hnew a (hattributes ▸ ha))
    · exact hq ▸ hr
  · exact qualified_of_writeAttribute ha hb hne ▸ hvalue

/-- Another prefix of an element is within reach if it may change there, as
long as the local name is the same. -/
theorem confines_rename {qname : QName}
    (hrename : doc.rename id qname = .ok doc')
    (hlocal : qname.localName = doc.localName id) (hreach : reach.nsPrefix id) :
    reach.Confines doc doc' := by
  obtain ⟨-, -, e, he, rfl⟩ := rename_eq_ok_iff.mp hrename
  refine confines_putElement he ?_ ⟨[], (List.append_nil _).symm, by simp⟩
    (fun j a b ha hb hne => ?_) (.inr hreach)
  · rw [hlocal, localName, name?, he]
    rfl
  · cases ha.symm.trans hb
    exact absurd rfl hne

end Reach

end Overlay.Xml
