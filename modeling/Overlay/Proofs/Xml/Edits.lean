/-
What a change to a document changes, and what it leaves alone.

# One node at a time

Every change comes down to `modify`, which touches one node of the table,
and at most one node is added at its end. So the questions that are put
to a document (what a node is, which children it has) are answered for
`modify` first, and then for the changes as wholes.

# Soundness

A new text gets the next free number. That no node has it for a child
already is part of being `Sound`; the other part is that the root is an
element. Documents that are read are sound, and changes keep them so.

# The same shape

Texts and attributes can change without the elements noticing: which
nodes are elements, what they are called and how they nest stays the
same. `SameShape` says so, and it is all that is left to know about a
document after any number of such changes.
-/
import Overlay.Proofs.Outcome
import Overlay.Proofs.Xml.Assembling

namespace Overlay.Xml

namespace Document

variable {doc doc' : Document} {id i : Nat}

-- ==================================================== one node changed

@[simp] theorem size_modify (f : Node → Node) :
    (doc.modify id f).size = doc.size := by
  simp [modify, size]

/-- A change at a node is seen at that node only, and not at all where there is
none. -/
theorem getElem?_modify (f : Node → Node) :
    (doc.modify id f).nodes[i]?
      = if id = i then doc.nodes[i]?.map f else doc.nodes[i]? := by
  rw [modify, Array.getElem?_modify]

/-- A change that does not touch what a node is. -/
theorem kind?_modify {f : Node → Node} (hf : ∀ n, (f n).kind = n.kind) :
    (doc.modify id f).kind? i = doc.kind? i := by
  rw [kind?, kind?, getElem?_modify]
  split
  · rw [Option.map_map]
    exact congrFun (congrArg _ (funext hf)) _
  · rfl

/-- A change that does not touch the children of a node. -/
theorem children_modify {f : Node → Node}
    (hf : ∀ n, (f n).children = n.children) :
    (doc.modify id f).children i = doc.children i := by
  rw [children, children, getElem?_modify]
  split
  · rw [Option.map_map]
    exact congrArg (Option.getD · []) (congrFun (congrArg _ (funext hf)) _)
  · rfl

theorem children_modify_of_ne {f : Node → Node} (h : i ≠ id) :
    (doc.modify id f).children i = doc.children i := by
  rw [children, getElem?_modify, if_neg (Ne.symm h), children]

/-- The children that a node is given. -/
theorem children_modify_self {cs : List Nat} (h : id < doc.size) :
    (doc.modify id fun n => { n with children := cs }).children id
      = cs := by
  have hn : doc.nodes[id]? = some doc.nodes[id] :=
    Array.getElem?_eq_getElem h
  rw [children, getElem?_modify, if_pos rfl, hn]
  rfl

/-- A change that does not touch the parent of a node. -/
theorem parent?_modify {f : Node → Node}
    (hf : ∀ n, (f n).parent = n.parent) :
    (doc.modify id f).parent? i = doc.parent? i := by
  rw [parent?, parent?, getElem?_modify]
  split
  · rw [Option.bind_map]
    exact congrArg _ (funext hf)
  · rfl

/-- Only the node itself loses its parent. -/
theorem parent?_orphan :
    (doc.orphan id).parent? i = if i = id then none else doc.parent? i := by
  rw [parent?, orphan, getElem?_modify]
  by_cases hi : i = id
  · rw [if_pos hi.symm, if_pos hi, Option.bind_map]
    cases doc.nodes[i]? <;> rfl
  · rw [if_neg (Ne.symm hi), if_neg hi, parent?]

/-- Nodes are what they are in the table. -/
theorem lt_of_kind? {kind : NodeKind} (h : doc.kind? id = some kind) :
    id < doc.size := by
  obtain ⟨n, hn, -⟩ := Option.map_eq_some_iff.mp h
  exact (Array.getElem?_eq_some_iff.mp hn).1

/-- An element has a number in the table. -/
theorem lt_of_isElement (h : doc.isElement id = true) :
    id < doc.size := by
  obtain ⟨e, he⟩ := Option.isSome_iff_exists.mp h
  obtain ⟨kind, hk, -⟩ := Option.bind_eq_some_iff.mp he
  exact lt_of_kind? hk

/-- A node has an element if that is its kind. -/
theorem element?_eq_some_iff {e : Element} :
    doc.element? id = some e ↔ doc.kind? id = some (.element e) := by
  rw [element?, Option.bind_eq_some_iff]
  constructor
  · rintro ⟨kind, hk, he⟩
    cases kind with
    | element e' =>
        cases he
        exact hk
    | _ => cases he
  · exact fun h => ⟨_, h, rfl⟩

/-- What has an element has a number in the table. -/
theorem lt_of_element? {e : Element} (h : doc.element? id = some e) :
    id < doc.size :=
  lt_of_kind? (element?_eq_some_iff.mp h)

-- =========================================================== soundness

/-- A document whose root is an element and whose children are in its
table. -/
structure Sound (doc : Document) : Prop where
  root : doc.isElement doc.root = true
  children : ∀ id, ∀ c ∈ doc.children id, c < doc.size

/-- A document that is made of content is sound. -/
theorem sound_ofContent {c : Content} (h : c.root.isElement = true) :
    (ofContent c).Sound := by
  have hlen := length_nodesOfAll c.prolog 0 none
  constructor
  · -- the node of the root is the first one behind the prolog
    cases hroot : c.root with
    | element e children =>
        rw [ofContent_eq, isElement, element?, kind?, hroot]
        simp only [nodesOfAll_append, nodesOfAll, Tree.nodes,
          List.getElem?_toArray]
        rw [List.getElem?_append_right (by rw [hlen]), hlen, Nat.sub_self]
        rfl
    | _ => simp [hroot, Tree.isElement] at h
  · intro id child hchild
    rw [ofContent_eq, Document.children] at hchild
    cases hx : (nodesOfAll 0 none
        (c.prolog ++ c.root :: c.epilog)).toArray[id]? with
    | none =>
        rw [hx] at hchild
        cases hchild
    | some x =>
        rw [hx] at hchild
        have hmem := List.mem_of_getElem? (by simpa using hx)
        have := lt_of_mem_nodesOfAll _ hmem child hchild
        rw [ofContent_eq, size, List.size_toArray, length_nodesOfAll]
        omega

/-- A document that was read is sound. -/
theorem sound_of_parse {s : String} (h : parse s = some doc) :
    doc.Sound := by
  obtain ⟨c, hc, rfl⟩ := parse_spelled h
  exact sound_ofContent hc.isElement

-- ====================================================== the same shape

/-- Documents that differ in texts and attributes only. -/
structure SameShape (doc doc' : Document) : Prop where
  root : doc'.root = doc.root
  name? : ∀ i, doc'.name? i = doc.name? i
  elementChildren : ∀ i, doc'.elementChildren i = doc.elementChildren i

namespace SameShape

theorem refl (doc : Document) : SameShape doc doc :=
  ⟨rfl, fun _ => rfl, fun _ => rfl⟩

theorem trans {doc'' : Document} (h : SameShape doc doc')
    (h' : SameShape doc' doc'') : SameShape doc doc'' :=
  ⟨h'.root.trans h.root, fun i => (h'.name? i).trans (h.name? i),
    fun i => (h'.elementChildren i).trans (h.elementChildren i)⟩

theorem isElement (h : SameShape doc doc') (i : Nat) :
    doc'.isElement i = doc.isElement i := by
  have := congrArg Option.isSome (h.name? i)
  simpa [Document.name?, Document.isElement] using this

theorem localName (h : SameShape doc doc') (i : Nat) :
    doc'.localName i = doc.localName i := by
  rw [Document.localName, Document.localName, h.name? i]

end SameShape

-- =============================================================== texts

/-- Taking texts out of the tree changes neither what nodes are nor which
children they have. -/
theorem foldl_orphan (ids : List Nat) (doc : Document) :
    (ids.foldl orphan doc).size = doc.size
      ∧ (ids.foldl orphan doc).root = doc.root
      ∧ (∀ i, (ids.foldl orphan doc).kind? i = doc.kind? i)
      ∧ ∀ i, (ids.foldl orphan doc).children i = doc.children i := by
  induction ids generalizing doc with
  | nil => exact ⟨rfl, rfl, fun _ => rfl, fun _ => rfl⟩
  | cons id rest ih =>
      obtain ⟨hsize, hroot, hkind, hchildren⟩ := ih (doc.orphan id)
      rw [List.foldl_cons]
      refine ⟨hsize.trans (size_modify _), hroot, fun i => ?_, fun i => ?_⟩
      · exact (hkind i).trans (kind?_modify fun _ => rfl)
      · exact (hchildren i).trans (children_modify fun _ => rfl)

/-- Nodes that lose their parents one after the other have none in the end, and
the parents of others stay. -/
theorem parent?_foldl_orphan (ids : List Nat) (doc : Document) :
    (ids.foldl orphan doc).parent? i
      = if i ∈ ids then none else doc.parent? i := by
  induction ids generalizing doc with
  | nil => simp
  | cons id rest ih =>
      rw [List.foldl_cons, ih, parent?_orphan]
      by_cases hi : i ∈ rest <;> simp [hi]

/-- The document with the direct text of an element replaced. -/
def retext (doc : Document) (id : Nat) (value : String) : Document :=
  let others := (doc.children id).filter (!doc.isText ·)
  let cleared := ((doc.children id).filter doc.isText).foldl orphan doc
  if value = "" then
    cleared.modify id fun n => { n with children := others }
  else
    { cleared with
      nodes := cleared.nodes.push ⟨.text value, some id, []⟩ }.modify id
        fun n => { n with children := doc.size :: others }

/-- A value is accepted if documents can hold each of its characters. -/
theorem checkChars_eq_ok_iff {value : String} :
    checkChars value = .ok () ↔ value.toList.all isXmlChar = true := by
  rw [checkChars, firstForbidden?]
  cases h : value.toList.find? (!isXmlChar ·) with
  | none => simpa [List.find?_eq_none] using h
  | some c =>
      have hc := List.mem_of_find?_eq_some h
      have hbad := List.find?_some h
      simp only [reduceCtorEq, List.all_eq_true, false_iff, not_forall]
      exact ⟨c, hc, by simpa using hbad⟩

/-- A target is accepted if it is an element. -/
theorem elementOr_eq_ok_iff {e : Element} :
    doc.elementOr id = .ok e ↔ doc.element? id = some e := by
  rw [elementOr]
  cases doc.element? id <;> simp

/-- What is refused when a text is replaced, check by check. -/
theorem setText_eq (doc : Document) (id : Nat) (value : String) :
    doc.setText id value = (do
      checkChars value
      let _ ← doc.elementOr id
      return doc.retext id value) := by
  rw [setText]
  by_cases hv : value = "" <;> simp [hv, retext]

/-- When a text can be replaced, and what comes out. -/
theorem setText_eq_ok_iff {value : String} :
    doc.setText id value = .ok doc'
      ↔ value.toList.all isXmlChar = true ∧ doc.isElement id = true
        ∧ doc' = doc.retext id value := by
  rw [setText_eq]
  constructor
  · intro h
    obtain ⟨⟨⟩, hc, h⟩ := ok_of_bind h
    obtain ⟨e, he, h⟩ := ok_of_bind h
    exact ⟨checkChars_eq_ok_iff.mp hc,
      Option.isSome_iff_exists.mpr ⟨e, elementOr_eq_ok_iff.mp he⟩,
      (Except.ok.inj h).symm⟩
  · rintro ⟨hc, hel, rfl⟩
    obtain ⟨e, he⟩ := Option.isSome_iff_exists.mp hel
    rw [checkChars_eq_ok_iff.mpr hc, elementOr_eq_ok_iff.mpr he]
    rfl

/-- The children of an element whose text was replaced: the new text, if
there is one, and the other children. -/
def retexted (doc : Document) (id : Nat) (value : String) : List Nat :=
  (if value = "" then [] else [doc.size])
    ++ (doc.children id).filter (!doc.isText ·)

/-- A new text takes one more number; an empty one takes none. -/
theorem size_retext (value : String) :
    (doc.retext id value).size
      = if value = "" then doc.size else doc.size + 1 := by
  have hcleared := foldl_orphan ((doc.children id).filter doc.isText) doc
  simp only [retext]
  split
  · rw [size_modify, hcleared.1]
  · rw [size_modify, size, Array.size_push]
    exact congrArg (· + 1) hcleared.1

/-- The root, and what stands beside it, stays. -/
theorem outside_retext (doc : Document) (id : Nat) (value : String) :
    (doc.retext id value).root = doc.root
      ∧ (doc.retext id value).prolog = doc.prolog
      ∧ (doc.retext id value).epilog = doc.epilog := by
  have hroot := foldl_keeps Document.root (f := orphan) (fun _ _ => rfl)
    ((doc.children id).filter doc.isText) doc
  have hprolog := foldl_keeps Document.prolog (f := orphan)
    (fun _ _ => rfl) ((doc.children id).filter doc.isText) doc
  have hepilog := foldl_keeps Document.epilog (f := orphan)
    (fun _ _ => rfl) ((doc.children id).filter doc.isText) doc
  refine ⟨?_, ?_, ?_⟩ <;> rw [retext] <;> split <;> assumption

/-- All that gets another parent are the texts that leave the tree, and
the one that comes in. -/
theorem parent?_retext (value : String) :
    (doc.retext id value).parent? i
      = if i = doc.size ∧ value ≠ "" then some id
        else if i ∈ (doc.children id).filter doc.isText then none
        else doc.parent? i := by
  have hsize :=
    (foldl_orphan ((doc.children id).filter doc.isText) doc).1
  simp only [retext]
  by_cases hv : value = ""
  · rw [if_pos hv, if_neg fun h => h.2 hv, ← parent?_foldl_orphan]
    exact parent?_modify fun _ => rfl
  · rw [if_neg hv, ← parent?_foldl_orphan, ← hsize]
    refine Eq.trans (parent?_modify fun _ => rfl) ?_
    rw [parent?, Array.getElem?_push, size]
    simp only [hv, ne_eq, not_false_eq_true, and_true]
    split <;> rfl

/-- What is no text keeps its parent. -/
theorem parent?_retext_of_not_text (hi : i < doc.size)
    (htext : doc.isText i = false) (value : String) :
    (doc.retext id value).parent? i = doc.parent? i := by
  rw [parent?_retext, if_neg fun h => Nat.ne_of_lt hi h.1, if_neg]
  intro hmem
  rw [(List.mem_filter.mp hmem).2] at htext
  cases htext

/-- A node that is added to the table comes last. -/
theorem kind?_added (kind : NodeKind) (parent : Option Nat) :
    kind? { doc with nodes := doc.nodes.push ⟨kind, parent, []⟩ } i
      = if i = doc.size then some kind else doc.kind? i := by
  rw [kind?, Array.getElem?_push, size]
  split <;> rfl

/-- A node that is added to the table changes no children. -/
theorem children_added (kind : NodeKind) (parent : Option Nat) :
    children { doc with nodes := doc.nodes.push ⟨kind, parent, []⟩ } i
      = doc.children i := by
  rw [children, children, Array.getElem?_push]
  split
  case isTrue hi =>
      rw [hi, Array.getElem?_eq_none (Nat.le_refl _)]
      rfl
  case isFalse => rfl

/-- No node changes its kind for a new text, which stands at the end of the
table. -/
theorem kind?_retext (value : String) :
    (doc.retext id value).kind? i
      = if i = doc.size ∧ value ≠ "" then some (.text value)
        else doc.kind? i := by
  obtain ⟨hsize, -, hkind, -⟩ :=
    foldl_orphan ((doc.children id).filter doc.isText) doc
  simp only [retext]
  by_cases hv : value = ""
  · rw [if_pos hv, if_neg fun h => h.2 hv, ← hkind i]
    exact kind?_modify fun _ => rfl
  · rw [if_neg hv, ← hkind i, ← hsize]
    refine Eq.trans (kind?_modify fun _ => rfl)
      (Eq.trans (kind?_added _ _) ?_)
    simp only [hv, ne_eq, not_false_eq_true, and_true]

/-- The children of the element alone change: its old texts go, and the new one
comes in front. -/
theorem children_retext (hid : id < doc.size) (value : String) :
    (doc.retext id value).children i
      = if i = id then doc.retexted id value else doc.children i := by
  obtain ⟨hsize, -, -, hchildren⟩ :=
    foldl_orphan ((doc.children id).filter doc.isText) doc
  simp only [retext, retexted]
  by_cases hv : value = ""
  · rw [if_pos hv, if_pos hv, List.nil_append]
    by_cases hi : i = id
    · rw [if_pos hi, hi, children_modify_self (by rw [hsize]; exact hid)]
    · rw [if_neg hi, children_modify_of_ne hi, hchildren]
  · rw [if_neg hv, if_neg hv, List.singleton_append]
    by_cases hi : i = id
    · rw [if_pos hi, hi, children_modify_self]
      rw [size, Array.size_push]
      rw [size] at hsize
      omega
    · rw [if_neg hi, children_modify_of_ne hi, ← hchildren i]
      exact children_added _ _

/-- Replacing a text touches no element. -/
theorem element?_retext (value : String) :
    (doc.retext id value).element? i = doc.element? i := by
  rw [element?, kind?_retext, element?]
  split
  case isTrue h =>
      have hnone : doc.kind? i = none := by
        rw [kind?, h.1, size, Array.getElem?_eq_none (Nat.le_refl _)]
        rfl
      rw [hnone]
      rfl
  case isFalse => rfl

/-- Among its elements there is no change, as texts are none. -/
theorem elementChildren_retext (hid : id < doc.size) (value : String) :
    (doc.retext id value).elementChildren i = doc.elementChildren i := by
  have hel : (doc.retext id value).isElement = doc.isElement := by
    funext j
    rw [isElement, element?_retext, isElement]
  rw [elementChildren, elementChildren, hel, children_retext hid]
  split
  case isFalse => rfl
  case isTrue hi =>
      subst hi
      have hnew : doc.isElement doc.size = false := by
        cases h : doc.isElement doc.size with
        | false => rfl
        | true => exact absurd (lt_of_isElement h) (Nat.lt_irrefl _)
      have hrest : ((doc.children i).filter (!doc.isText ·)).filter
          doc.isElement = (doc.children i).filter doc.isElement := by
        rw [List.filter_filter]
        refine List.filter_congr fun c _ => ?_
        rw [isElement, element?, isText]
        cases doc.kind? c with
        | none => rfl
        | some kind => cases kind <;> rfl
      rw [retexted, List.filter_append, hrest]
      split
      · rfl
      · rw [List.filter_cons_of_neg (by simp [hnew]), List.filter_nil,
          List.nil_append]

/-- So a new text leaves the shape of a document. -/
theorem sameShape_retext (hid : id < doc.size) (value : String) :
    SameShape doc (doc.retext id value) := by
  refine ⟨(outside_retext doc id value).1, fun i => ?_,
    fun i => elementChildren_retext hid value⟩
  rw [name?, name?, element?_retext]

/-- And the document sound: the number of the new text was free. -/
theorem sound_retext (h : doc.Sound) (hid : id < doc.size)
    (value : String) : (doc.retext id value).Sound := by
  have hshape := sameShape_retext hid value
  refine ⟨?_, fun i c hc => ?_⟩
  · rw [hshape.isElement, hshape.root]
    exact h.root
  · rw [children_retext hid] at hc
    rw [size_retext]
    have hold : ∀ j, ∀ d ∈ doc.children j,
        d < if value = "" then doc.size else doc.size + 1 := by
      intro j d hd
      have := h.children j d hd
      split <;> omega
    split at hc
    case isFalse => exact hold i c hc
    case isTrue =>
        rw [retexted, List.mem_append] at hc
        rcases hc with hc | hc
        · split at hc
          · cases hc
          · rename_i hv
            rw [List.mem_singleton] at hc
            rw [if_neg hv]
            omega
        · exact hold id c (List.mem_of_mem_filter hc)

/-- The texts among some nodes. -/
theorem directTexts_eq (doc : Document) (id : Nat) :
    doc.directTexts id = (doc.children id).filterMap fun c =>
      match doc.kind? c with
      | some (.text t) => some t
      | _ => none := rfl

/-- A replaced text is read back; the empty one counts as none. -/
theorem text?_retext_self (h : doc.Sound) (hid : id < doc.size)
    (value : String) :
    (doc.retext id value).text? id
      = if value = "" then none else some value := by
  have hothers : ((doc.children id).filter (!doc.isText ·)).filterMap
      (fun c => match (doc.retext id value).kind? c with
        | some (.text t) => some t
        | _ => none) = [] := by
    rw [List.filterMap_eq_nil_iff]
    intro c hc
    rw [List.mem_filter] at hc
    have hlt := h.children id c hc.1
    rw [kind?_retext, if_neg fun hn => absurd hn.1 (Nat.ne_of_lt hlt)]
    have hnot := hc.2
    rw [isText] at hnot
    cases hk : doc.kind? c with
    | none => rfl
    | some kind => cases kind <;> simp_all [NodeKind.isText]
  rw [text?, directTexts_eq, children_retext hid, if_pos rfl, retexted,
    List.filterMap_append, hothers, List.append_nil]
  by_cases hv : value = ""
  · rw [if_pos hv, if_pos hv]
    rfl
  · rw [if_neg hv, if_neg hv, List.filterMap_cons, kind?_retext,
      if_pos ⟨rfl, hv⟩]
    simp [String.join]

/-- The texts of other elements stay as they are. -/
theorem text?_retext_of_ne (h : doc.Sound) (hid : id < doc.size)
    (hi : i ≠ id) (value : String) :
    (doc.retext id value).text? i = doc.text? i := by
  have htexts : (doc.retext id value).directTexts i
      = doc.directTexts i := by
    rw [directTexts_eq, directTexts_eq, children_retext hid, if_neg hi]
    refine List.filterMap_congr fun c hc => ?_
    have hlt := h.children i c hc
    rw [kind?_retext, if_neg fun hn => absurd hn.1 (Nat.ne_of_lt hlt)]
  rw [text?, htexts, text?]

-- ========================================================== attributes

/-- A name is read back from its parts. -/
theorem qualified_parse (name : String) :
    (QName.parse name).qualified = name := by
  rw [QName.parse]
  split
  case h_1 p l hsplit =>
      split
      · rfl
      · obtain ⟨h, -⟩ := Text.splitFirst?_eq_some_iff.mp hsplit
        refine String.toList_inj.mp ?_
        have hcolon : ":".toList = [':'] := rfl
        simp [QName.qualified, h, hcolon]
  case h_2 => rfl

/-- An attribute that was written has its value. -/
theorem find?_writeAttribute_self (name value : String)
    (as : List Attribute) :
    ((writeAttribute name value as).find?
        (·.name.qualified == name)).map (·.value) = some value := by
  induction as with
  | nil => simp [writeAttribute, qualified_parse]
  | cons a rest ih =>
      rw [writeAttribute]
      by_cases ha : a.name.qualified = name
      · simp [ha]
      · have hb : (a.name.qualified == name) = false := by simpa using ha
        simp [hb, ih]

/-- Writing an attribute leaves those as they are that go by other names. -/
theorem find?_writeAttribute {name : String} {p : QName → Bool}
    (h : ∀ n, p n = true → n.qualified ≠ name) (value : String)
    (as : List Attribute) :
    ((writeAttribute name value as).find? (p ·.name)).map (·.value)
      = (as.find? (p ·.name)).map (·.value) := by
  have hno : ∀ n : QName, n.qualified = name → p n = false := fun n hn =>
    Bool.eq_false_iff.mpr fun hp => h n hp hn
  induction as with
  | nil => simp [writeAttribute, hno _ (qualified_parse name)]
  | cons a rest ih =>
      rw [writeAttribute]
      by_cases ha : a.name.qualified = name
      · simp [ha, hno a.name ha]
      · rw [if_neg (by simpa using ha), List.find?_cons, List.find?_cons]
        cases p a.name with
        | true => rfl
        | false => exact ih

/-- Where one attribute is written the others keep their values. -/
theorem find?_writeAttribute_of_ne {name other : String}
    (h : other ≠ name) (value : String) (as : List Attribute) :
    ((writeAttribute name value as).find?
        (·.name.qualified == other)).map (·.value)
      = (as.find? (·.name.qualified == other)).map (·.value) :=
  find?_writeAttribute (p := (·.qualified == other))
    (fun _ hn hname => h ((eq_of_beq hn).symm.trans hname)) value as

/-- A new name is accepted if documents can hold it. -/
theorem checkName_eq_ok_iff {name : String} :
    checkName name = .ok () ↔ isValidName name = true := by
  rw [checkName]
  cases isValidName name <;> simp

/-- When an attribute can be set, and what comes out. -/
theorem setAttribute_eq_ok_iff {name value : String} :
    doc.setAttribute id name value = .ok doc'
      ↔ isValidName name = true ∧ value.toList.all isXmlChar = true
        ∧ ∃ e, doc.element? id = some e
          ∧ doc' = doc.putElement id { e with
              attributes := writeAttribute name value e.attributes } := by
  constructor
  · intro h
    unfold setAttribute at h
    obtain ⟨⟨⟩, hn, h⟩ := ok_of_bind h
    obtain ⟨⟨⟩, hc, h⟩ := ok_of_bind h
    obtain ⟨e, he, h⟩ := ok_of_bind h
    cases h
    exact ⟨checkName_eq_ok_iff.mp hn, checkChars_eq_ok_iff.mp hc, e,
      elementOr_eq_ok_iff.mp he, rfl⟩
  · rintro ⟨hn, hc, e, he, rfl⟩
    rw [setAttribute, checkName_eq_ok_iff.mpr hn,
      checkChars_eq_ok_iff.mpr hc, elementOr_eq_ok_iff.mpr he]
    rfl

/-- Refuses a prefix that stands for no namespace. -/
def checkDeclared (nsPrefix uri : Option String) : Except Refusal Unit :=
  match nsPrefix, uri with
  | some p, none => .error (.undeclaredPrefix p)
  | _, _ => .ok ()

/-- A prefix is accepted where it is declared, and no prefix always is. -/
theorem checkDeclared_eq_ok_iff {nsPrefix uri : Option String} :
    checkDeclared nsPrefix uri = .ok ()
      ↔ ∀ p, nsPrefix = some p → uri.isSome = true := by
  cases nsPrefix <;> cases uri <;> simp [checkDeclared]

/-- What is refused when an element is renamed, check by check. -/
theorem rename_eq (doc : Document) (id : Nat) (name : QName) :
    doc.rename id name = (do
      checkName name.qualified
      checkDeclared name.nsPrefix (doc.lookupNamespace id name.nsPrefix)
      let e ← doc.elementOr id
      return doc.putElement id { e with
        name := name
        uri := doc.lookupNamespace id name.nsPrefix }) := by
  rw [rename]
  cases name.nsPrefix with
  | none => rfl
  | some p => cases doc.lookupNamespace id (some p) <;> rfl

/-- When an element can be renamed, and what comes out. -/
theorem rename_eq_ok_iff {name : QName} :
    doc.rename id name = .ok doc'
      ↔ isValidName name.qualified = true
        ∧ (∀ p, name.nsPrefix = some p →
          (doc.lookupNamespace id name.nsPrefix).isSome = true)
        ∧ ∃ e, doc.element? id = some e
          ∧ doc' = doc.putElement id { e with
              name := name
              uri := doc.lookupNamespace id name.nsPrefix } := by
  rw [rename_eq]
  constructor
  · intro h
    obtain ⟨⟨⟩, hname, h⟩ := ok_of_bind h
    obtain ⟨⟨⟩, hdeclared, h⟩ := ok_of_bind h
    obtain ⟨e, he, h⟩ := ok_of_bind h
    exact ⟨checkName_eq_ok_iff.mp hname,
      checkDeclared_eq_ok_iff.mp hdeclared, e, elementOr_eq_ok_iff.mp he,
      (Except.ok.inj h).symm⟩
  · rintro ⟨hname, hdeclared, e, he, rfl⟩
    rw [checkName_eq_ok_iff.mpr hname,
      checkDeclared_eq_ok_iff.mpr hdeclared, elementOr_eq_ok_iff.mpr he]
    rfl

/-- Another element in place of one changes this node and no other. -/
theorem kind?_putElement {e : Element} (hid : id < doc.size) :
    (doc.putElement id e).kind? i
      = if i = id then some (.element e) else doc.kind? i := by
  have hn : doc.nodes[id]? = some doc.nodes[id] :=
    Array.getElem?_eq_getElem hid
  rw [putElement, kind?, getElem?_modify]
  by_cases hi : i = id
  · subst hi
    rw [if_pos rfl, if_pos rfl, hn]
    rfl
  · rw [if_neg (Ne.symm hi), if_neg hi, kind?]

theorem children_putElement {e : Element} :
    (doc.putElement id e).children i = doc.children i :=
  children_modify fun _ => rfl

theorem parent?_putElement {e : Element} :
    (doc.putElement id e).parent? i = doc.parent? i :=
  parent?_modify fun _ => rfl

/-- The other elements stay as they are. -/
theorem element?_putElement {e : Element} (hid : id < doc.size) :
    (doc.putElement id e).element? i
      = if i = id then some e else doc.element? i := by
  rw [element?, kind?_putElement hid]
  split <;> rfl

/-- Replacing an element by one of the same name keeps the shape. -/
theorem sameShape_putElement {e e' : Element}
    (he : doc.element? id = some e) (hname : e'.name = e.name) :
    SameShape doc (doc.putElement id e') := by
  have hid := lt_of_element? he
  have hnames : ∀ i, (doc.putElement id e').name? i = doc.name? i := by
    intro i
    rw [name?, name?, element?_putElement hid]
    split
    case isTrue hi => rw [hi, he, Option.map_some, Option.map_some, hname]
    case isFalse => rfl
  have hel : (doc.putElement id e').isElement = doc.isElement := by
    funext i
    have := congrArg Option.isSome (hnames i)
    simpa [name?, isElement] using this
  refine ⟨rfl, hnames, fun i => ?_⟩
  rw [elementChildren, elementChildren, children_putElement, hel]

/-- Which nodes are elements stays the same. -/
theorem isElement_putElement {e e' : Element}
    (he : doc.element? id = some e) :
    (doc.putElement id e').isElement i = doc.isElement i := by
  rw [isElement, isElement, element?_putElement (lt_of_element? he)]
  split
  case isTrue hi => rw [hi, he]; rfl
  case isFalse => rfl

/-- A sound document stays sound. -/
theorem sound_putElement (h : doc.Sound) {e e' : Element}
    (he : doc.element? id = some e) : (doc.putElement id e').Sound := by
  refine ⟨(isElement_putElement he).trans h.root, fun i c hc => ?_⟩
  rw [children_putElement] at hc
  rw [putElement, size_modify]
  exact h.children i c hc

/-- Replacing an element touches no text. -/
theorem text?_putElement {e e' : Element}
    (he : doc.element? id = some e) :
    (doc.putElement id e').text? i = doc.text? i := by
  have hkind := element?_eq_some_iff.mp he
  have htexts : (doc.putElement id e').directTexts i
      = doc.directTexts i := by
    rw [directTexts_eq, directTexts_eq, children_putElement]
    refine List.filterMap_congr fun c _ => ?_
    rw [kind?_putElement (lt_of_kind? hkind)]
    by_cases hc : c = id
    · rw [if_pos hc, hc, hkind]
    · rw [if_neg hc]
  rw [text?, htexts, text?]

/-- An attribute that was set has its value. -/
theorem attribute?_setAttribute_self {name value : String}
    (h : doc.setAttribute id name value = .ok doc') :
    doc'.attribute? id name = some value := by
  obtain ⟨-, -, e, he, rfl⟩ := setAttribute_eq_ok_iff.mp h
  rw [attribute?, attributes, element?_putElement (lt_of_element? he),
    if_pos rfl]
  exact find?_writeAttribute_self name value e.attributes

/-- The others are as they were. -/
theorem attribute?_setAttribute_of_ne {name value other : String}
    (h : doc.setAttribute id name value = .ok doc') (hne : other ≠ name)
    (i : Nat) : doc'.attribute? i other = doc.attribute? i other := by
  obtain ⟨-, -, e, he, rfl⟩ := setAttribute_eq_ok_iff.mp h
  rw [attribute?, attribute?, attributes, attributes,
    element?_putElement (lt_of_element? he)]
  split
  case isTrue hi =>
      rw [hi, he]
      exact find?_writeAttribute_of_ne hne value e.attributes
  case isFalse => rfl

end Document

end Overlay.Xml
