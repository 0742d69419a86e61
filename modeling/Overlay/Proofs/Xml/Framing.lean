/-
What an edit touches.

# All or nothing

An edit is a few checks and then a few writes. Made in place, one write
after the other (`Edit.inPlace`), it could stop half way. It does not,
since no check comes after a write: an edit in place leaves the document as
it is, or makes of it what comes out of the edit (`on_inPlace`).

# Frames

What comes out of an edit is the old document but for a few nodes
(`SameBut`): for a text, the element and its old texts (`TextReplaced`); for
an attribute or a name, the element (`ElementReplaced`); for a node that is
taken out, the node and its parent (`TakenOut`). Each of these says all
there is to say about the nodes that are touched.

Taking a node out changes what is at or below another node only if that
one is above it (`subtree_of_apart`). From there, the node is cut out with
all that is below it, in one piece (`subtree_of_above`).
-/
import Overlay.Proofs.Xml.Forests

namespace Overlay.Xml

open Document

-- ============================================================ in place

/-- Steps on a document in place. When one fails, what was written before
stays written. -/
abbrev InPlace := ExceptT Refusal (StateM Document)

namespace InPlace

variable {α β : Type}

/-- A check, which writes nothing. -/
def check (x : Except Refusal α) : InPlace α := ExceptT.mk (pure x)

/-- A write, which does not fail. -/
def write (f : Document → Document) : InPlace Unit := modify f

/-- What steps give on a document, and the document after them. -/
def on (m : InPlace α) (doc : Document) : Except Refusal α × Document :=
  StateT.run m.run doc

@[simp] theorem on_get (m : Document → InPlace α) (doc : Document) :
    (get >>= m).on doc = (m doc).on doc := rfl

@[simp] theorem on_write (f : Document → Document) (doc : Document) :
    (write f).on doc = (.ok (), f doc) := rfl

@[simp] theorem on_write_bind (f : Document → Document)
    (m : Unit → InPlace α) (doc : Document) :
    (write f >>= m).on doc = (m ()).on (f doc) := rfl

@[simp] theorem on_check_ok (a : α) (m : α → InPlace β) (doc : Document) :
    (check (.ok a) >>= m).on doc = (m a).on doc := rfl

/-- What an edit in place leaves: what comes out of the edit, or the
document that it began with. -/
def settled (doc : Document) (result : Except Refusal Document) :
    Except Refusal Unit × Document :=
  match result with
  | .ok out => (.ok (), out)
  | .error why => (.error why, doc)

/-- A check in front of the steps of an edit. -/
theorem on_check {x : Except Refusal α} {m : α → InPlace Unit}
    {f : α → Except Refusal Document} {doc : Document}
    (h : ∀ a, x = .ok a → (m a).on doc = settled doc (f a)) :
    (check x >>= m).on doc = settled doc (x >>= f) := by
  cases x with
  | error why => rfl
  | ok a => exact h a rfl

/-- Texts that leave the tree one by one. -/
theorem on_forM_orphan (texts : List Nat) (f : Unit → InPlace α)
    (doc : Document) :
    (texts.forM (fun t => write (·.orphan t)) >>= f).on doc
      = (f ()).on (texts.foldl orphan doc) := by
  induction texts generalizing doc with
  | nil => rfl
  | cons t rest ih => exact ih (doc.orphan t)

end InPlace

open InPlace in
/-- The texts of an element leave the tree, and a new one comes in. -/
def Document.rewriteText (doc : Document) (id : Nat) (value : String) :
    InPlace Unit := do
  ((doc.children id).filter doc.isText).forM fun t => write (·.orphan t)
  write (·.modify id fun n =>
    { n with children := (doc.children id).filter (!doc.isText ·) })
  if value ≠ "" then
    let text := (← get).size
    write fun d => { d with nodes := d.nodes.push ⟨.text value, some id, []⟩ }
    write (·.modify id fun n => { n with children := text :: n.children })

open InPlace in
/-- An edit in place: its checks and its writes, in their order. -/
def Edit.inPlace : Edit → InPlace Unit
  | .setText id value => do
      check (checkChars value)
      let _ ← check ((← get).elementOr id)
      (← get).rewriteText id value
  | .setAttribute id name value => do
      check (checkName name)
      check (checkChars value)
      let e ← check ((← get).elementOr id)
      write (·.putElement id
        { e with attributes := writeAttribute name value e.attributes })
  | .rename id name => do
      check (checkName name.qualified)
      let uri := (← get).lookupNamespace id name.nsPrefix
      check (checkDeclared name.nsPrefix uri)
      let e ← check ((← get).elementOr id)
      write (·.putElement id { e with name := name })
      write (·.putElement id { e with name := name, uri := uri })
  | .detach id => do
      check (if id = (← get).root then .error .detachedRoot else .ok ())
      if let some p := (← get).parent? id then
        write (·.orphan id)
        write (·.modify p fun n =>
          { n with children := n.children.filter (· != id) })

namespace Document

variable {doc out : Document} {id i : Nat}

/-- Two changes of one node, with another node added between them. -/
theorem modify_push_modify (doc : Document) (h : id < doc.size)
    (f g : Node → Node) (n : Node) :
    modify { doc.modify id f with nodes := (doc.modify id f).nodes.push n }
        id g
      = modify { doc with nodes := doc.nodes.push n } id (g ∘ f) := by
  have hnodes : ((doc.nodes.modify id f).push n).modify id g
      = (doc.nodes.push n).modify id (g ∘ f) := by
    refine Array.ext_getElem? fun j => ?_
    simp only [Array.getElem?_modify, Array.getElem?_push, Array.size_modify]
    have hne : id ≠ doc.nodes.size := Nat.ne_of_lt h
    by_cases hj : id = j
    · subst hj
      simp [hne]
    · simp [hj]
  exact congrArg (fun nodes => { doc with nodes := nodes }) hnodes

/-- Two changes of one node. -/
theorem modify_modify (f g : Node → Node) :
    (doc.modify id f).modify id g = doc.modify id (g ∘ f) := by
  have hnodes : (doc.nodes.modify id f).modify id g
      = doc.nodes.modify id (g ∘ f) := by
    refine Array.ext_getElem? fun j => ?_
    simp only [Array.getElem?_modify]
    split
    · rw [Option.map_map]
    · rfl
  exact congrArg (fun nodes => { doc with nodes := nodes }) hnodes

/-- The writes of a text that is replaced. -/
theorem on_rewriteText (hid : id < doc.size) (value : String) :
    (doc.rewriteText id value).on doc = (.ok (), doc.retext id value) := by
  have hsize := (foldl_orphan ((doc.children id).filter doc.isText) doc).1
  rw [rewriteText, InPlace.on_forM_orphan, retext]
  generalize ((doc.children id).filter doc.isText).foldl orphan doc
    = cleared at hsize ⊢
  by_cases hv : value = ""
  · rw [if_pos hv, if_neg (not_not.mpr hv)]
    rfl
  · rw [if_neg hv, if_pos hv, ← hsize]
    have hwrites := modify_push_modify cleared (hsize ▸ hid)
      (fun n => { n with
        children := (doc.children id).filter (!doc.isText ·) })
      (fun n => { n with children := cleared.size :: n.children })
      ⟨.text value, some id, []⟩
    have hnew : (cleared.modify id fun n => { n with
        children := (doc.children id).filter (!doc.isText ·) }).size
        = cleared.size := size_modify _
    refine congrArg (Prod.mk (Except.ok ())) (Eq.trans ?_ hwrites)
    rw [← hnew]

open InPlace in
/-- Nothing is written before everything is checked: an edit in place is
the edit, or leaves the document as it is. -/
theorem on_inPlace (e : Edit) (doc : Document) :
    e.inPlace.on doc = settled doc (e.apply doc) := by
  cases e with
  | setText id value =>
      rw [Edit.inPlace, Edit.apply, setText_eq]
      refine on_check fun _ _ => ?_
      rw [on_get]
      refine on_check fun e he => ?_
      rw [on_get]
      exact on_rewriteText (lt_of_element? (elementOr_eq_ok_iff.mp he)) value
  | setAttribute id name value =>
      rw [Edit.inPlace, Edit.apply, setAttribute]
      refine on_check fun _ _ => on_check fun _ _ => ?_
      rw [on_get]
      exact on_check fun e _ => rfl
  | rename id name =>
      rw [Edit.inPlace, Edit.apply, rename_eq]
      refine on_check fun _ _ => ?_
      rw [on_get]
      refine on_check fun _ _ => ?_
      rw [on_get]
      refine on_check fun e _ => ?_
      rw [on_write_bind, on_write]
      exact congrArg (Prod.mk (Except.ok ())) (modify_modify _ _)
  | detach id =>
      rw [Edit.inPlace, Edit.apply, detach, on_get]
      by_cases hid : id = doc.root
      · rw [if_pos hid, if_pos (by simpa using hid)]
        rfl
      · rw [if_neg hid, if_neg (by simpa using hid), on_check_ok, on_get]
        cases doc.parent? id <;> rfl

-- ============================================================== frames

/-- Documents with the same root and the same nodes, but for some nodes. -/
structure SameBut (doc : Document) (touched : List Nat) (out : Document) :
    Prop where
  root : out.root = doc.root
  prolog : out.prolog = doc.prolog
  epilog : out.epilog = doc.epilog
  nodes : ∀ i < doc.size, i ∉ touched → out.nodes[i]? = doc.nodes[i]?

/-- What becomes of a document when the text of an element is replaced. -/
structure TextReplaced (doc : Document) (id : Nat) (value : String)
    (out : Document) : Prop where
  same : doc.SameBut (id :: (doc.children id).filter doc.isText) out
  text? : out.text? id = if value = "" then none else some value
  kind? : out.kind? id = doc.kind? id
  parent? : out.parent? id = doc.parent? id
  children : out.children id
    = (if value = "" then [] else [doc.size])
      ++ (doc.children id).filter (!doc.isText ·)
  others : (out.children id).filter (!out.isText ·)
    = (doc.children id).filter (!doc.isText ·)
  gone : ∀ t ∈ (doc.children id).filter doc.isText,
    out.isAttached t = false ∧ (∀ i, t ∉ out.children i)
      ∧ out.nodes[t]? = doc.nodes[t]?.map ({ · with parent := none })
  size : out.size = if value = "" then doc.size else doc.size + 1
  added : value ≠ "" →
    out.nodes[doc.size]? = some ⟨.text value, some id, []⟩

/-- What becomes of a document when one element is replaced by another. -/
structure ElementReplaced (doc : Document) (id : Nat) (e e' : Element)
    (out : Document) : Prop where
  same : doc.SameBut [id] out
  size : out.size = doc.size
  before : doc.element? id = some e
  node : out.nodes[id]?
    = doc.nodes[id]?.map ({ · with kind := .element e' })

/-- What becomes of attributes when one is written. -/
inductive AttributeWritten (name value : String) :
    List Attribute → List Attribute → Prop
  /-- The first one of that name has the value. -/
  | overwritten (before after : List Attribute) (a : Attribute)
      (hfirst : ∀ b ∈ before, b.name.qualified ≠ name)
      (hname : a.name.qualified = name) :
      AttributeWritten name value (before ++ a :: after)
        (before ++ { a with value := value } :: after)
  /-- There is none, and a new one comes last. -/
  | added (as : List Attribute)
      (hnone : ∀ a ∈ as, a.name.qualified ≠ name) :
      AttributeWritten name value as (as ++ [⟨QName.parse name, value⟩])

/-- What becomes of a document when a node is taken out. -/
structure TakenOut (doc : Document) (id : Nat) (out : Document) : Prop where
  same : doc.SameBut (id :: (doc.parent? id).toList) out
  size : out.size = doc.size
  node : out.nodes[id]? = doc.nodes[id]?.map ({ · with parent := none })
  parent : ∀ p, doc.parent? id = some p → ∃ before after,
    doc.children p = before ++ id :: after
      ∧ out.nodes[p]?
        = doc.nodes[p]?.map ({ · with children := before ++ after })
  unlisted : ∀ i, id ∉ out.children i
  detached : out.isAttached id = false
  apart : ∀ i, (doc.Reaches i id → i = id) →
    out.subtree i = doc.subtree i
  above : ∀ i, doc.Reaches i id → i ≠ id → ∃ before after,
    doc.subtree i = before ++ doc.subtree id ++ after
      ∧ out.subtree i = before ++ after

/-- What becomes of a document by an edit. -/
def Framed (doc out : Document) : Edit → Prop
  | .setText id value => doc.TextReplaced id value out
  | .setAttribute id name value => ∃ e as,
      doc.ElementReplaced id e { e with attributes := as } out
        ∧ AttributeWritten name value e.attributes as
        ∧ out.attribute? id name = some value
        ∧ ∀ other ≠ name, out.attribute? id other = doc.attribute? id other
  | .rename id name => ∃ e, doc.ElementReplaced id e { e with
      name := name
      uri := doc.lookupNamespace id name.nsPrefix } out
  | .detach id => doc.TakenOut id out

/-- A node is known from its kind, its parent and its children. -/
theorem getElem?_eq_some {kind : NodeKind}
    (hkind : out.kind? i = some kind) :
    out.nodes[i]? = some ⟨kind, out.parent? i, out.children i⟩ := by
  obtain ⟨⟨kind, parent, children⟩, hn, rfl⟩ :=
    Option.map_eq_some_iff.mp hkind
  rw [Document.parent?, Document.children, hn]
  rfl

/-- A node that was changed, known from its kind, parent and children. -/
theorem getElem?_of_modified {f : Node → Node}
    (hkind : out.kind? i = (doc.modify i f).kind? i)
    (hparent : out.parent? i = (doc.modify i f).parent? i)
    (hchildren : out.children i = (doc.modify i f).children i) :
    out.nodes[i]? = doc.nodes[i]?.map f := by
  rw [node_ext hkind hparent hchildren, getElem?_modify, if_pos rfl]

/-- A node that has lost its parent, and nothing else. -/
theorem getElem?_of_orphaned (hkind : out.kind? i = doc.kind? i)
    (hparent : out.parent? i = none)
    (hchildren : out.children i = doc.children i) :
    out.nodes[i]? = doc.nodes[i]?.map ({ · with parent := none }) := by
  refine getElem?_of_modified (hkind.trans (Eq.symm ?_))
    (hparent.trans (Eq.symm ?_)) (hchildren.trans (Eq.symm ?_))
  · exact kind?_modify (f := ({ · with parent := none })) fun _ => rfl
  · exact parent?_orphan.trans (if_pos rfl)
  · exact children_modify (f := ({ · with parent := none })) fun _ => rfl

/-- A node that has other children, and nothing else. -/
theorem getElem?_of_relisted {cs : List Nat} (hi : i < doc.size)
    (hkind : out.kind? i = doc.kind? i)
    (hparent : out.parent? i = doc.parent? i)
    (hchildren : out.children i = cs) :
    out.nodes[i]? = doc.nodes[i]?.map ({ · with children := cs }) := by
  refine getElem?_of_modified (hkind.trans (Eq.symm ?_))
    (hparent.trans (Eq.symm ?_)) (hchildren.trans (Eq.symm ?_))
  · exact kind?_modify (f := ({ · with children := cs })) fun _ => rfl
  · exact parent?_modify (f := ({ · with children := cs })) fun _ => rfl
  · exact children_modify_self hi

/-- A node without a parent is out of the tree, if it is not the root. -/
theorem detached_of_parent? (hparent : out.parent? i = none)
    (hne : i ≠ out.root) : out.isAttached i = false := by
  rw [Bool.eq_false_iff, ne_eq, isAttached_of_none hparent]
  exact hne

-- =============================================================== texts

/-- An element is no text. -/
theorem isText_of_isElement (h : doc.isElement i = true) :
    doc.isText i = false := by
  obtain ⟨e, he⟩ := Option.isSome_iff_exists.mp h
  rw [isText, element?_eq_some_iff.mp he]
  rfl

/-- Replacing a text touches the element and its texts. -/
theorem textReplaced_retext (hl : doc.Linked) (hs : doc.Sound)
    (hel : doc.isElement id = true) (value : String) :
    doc.TextReplaced id value (doc.retext id value) := by
  have hid := lt_of_isElement hel
  have hl' := linked_retext hl hs hel value
  obtain ⟨hroot, hprolog, hepilog⟩ := outside_retext doc id value
  have hkind : ∀ i < doc.size, (doc.retext id value).kind? i = doc.kind? i :=
    fun i hi => by
      rw [kind?_retext, if_neg fun hnew => Nat.ne_of_lt hi hnew.1]
  have htext : ∀ i < doc.size,
      (doc.retext id value).isText i = doc.isText i := fun i hi => by
    rw [isText, hkind i hi, isText]
  constructor
  case same =>
      refine ⟨hroot, hprolog, hepilog, fun i hi hkept => ?_⟩
      obtain ⟨hne, hkept⟩ := not_or.mp (List.mem_cons.not.mp hkept)
      refine node_ext (hkind i hi) ?_ ?_
      · rw [parent?_retext, if_neg fun hnew => Nat.ne_of_lt hi hnew.1,
          if_neg hkept]
      · rw [children_retext hid, if_neg hne]
  case text? => exact text?_retext_self hs hid value
  case kind? => exact hkind id hid
  case parent? =>
      exact parent?_retext_of_not_text hid (isText_of_isElement hel) value
  case children => rw [children_retext hid, if_pos rfl, retexted]
  case others =>
      have hnew : (if value = "" then [] else [doc.size]).filter
          (!(doc.retext id value).isText ·) = [] := by
        split
        case isTrue => rfl
        case isFalse hv =>
            have hkind : (doc.retext id value).kind? doc.size
                = some (.text value) := by
              rw [kind?_retext, if_pos ⟨rfl, hv⟩]
            simp [isText, hkind, NodeKind.isText]
      rw [children_retext hid, if_pos rfl, retexted, List.filter_append,
        hnew, List.nil_append, List.filter_filter]
      refine List.filter_congr fun c hc => ?_
      rw [htext c (hs.children id c hc), Bool.and_self]
  case gone =>
      intro t ht
      obtain ⟨hmem, hist⟩ := List.mem_filter.mp ht
      have hlt := hs.children id t hmem
      have hparent : (doc.retext id value).parent? t = none := by
        rw [parent?_retext, if_neg fun hnew => Nat.ne_of_lt hlt hnew.1,
          if_pos ht]
      have hnot : ∀ j, doc.isElement j = true → t ≠ j := by
        rintro j hj rfl
        rw [isText_of_isElement hj] at hist
        cases hist
      refine ⟨detached_of_parent? hparent (hroot ▸ hnot _ hs.root),
        fun i hi => ?_, getElem?_of_orphaned (hkind t hlt) hparent ?_⟩
      · rw [hl'.mem_children_iff, hparent] at hi
        cases hi
      · rw [children_retext hid, if_neg (hnot id hel)]
  case size => exact size_retext value
  case added =>
      intro hv
      have hnone : doc.children doc.size = [] := by
        rw [Document.children, size, Array.getElem?_eq_none (Nat.le_refl _)]
        rfl
      have hnew : (doc.retext id value).kind? doc.size
          = some (.text value) := by
        rw [kind?_retext, if_pos ⟨rfl, hv⟩]
      rw [getElem?_eq_some hnew, parent?_retext, if_pos ⟨rfl, hv⟩,
        children_retext hid, if_neg (Nat.ne_of_gt hid), hnone]

-- ========================================================== elements

/-- Replacing an element touches the element. -/
theorem elementReplaced_putElement {e e' : Element}
    (he : doc.element? id = some e) :
    doc.ElementReplaced id e e' (doc.putElement id e') := by
  refine ⟨⟨rfl, rfl, rfl, fun i _ hi => ?_⟩, size_modify _, he, ?_⟩
  · rw [putElement, getElem?_modify,
      if_neg fun h => hi (List.mem_singleton.mpr h.symm)]
  · rw [putElement, getElem?_modify, if_pos rfl]

/-- An attribute is written over the first one of its name, or at the end. -/
theorem attributeWritten_writeAttribute (name value : String)
    (as : List Attribute) :
    AttributeWritten name value as (writeAttribute name value as) := by
  induction as with
  | nil => exact .added [] (by simp)
  | cons a rest ih =>
      rw [writeAttribute]
      by_cases ha : a.name.qualified = name
      · rw [if_pos (by simpa using ha)]
        exact .overwritten [] rest a (by simp) ha
      · rw [if_neg (by simpa using ha)]
        generalize writeAttribute name value rest = written at ih
        cases ih with
        | overwritten before after b hfirst hname =>
            exact .overwritten (a :: before) after b
              (List.forall_mem_cons.mpr ⟨ha, hfirst⟩) hname
        | added _ hnone =>
            exact .added (a :: rest)
              (List.forall_mem_cons.mpr ⟨ha, hnone⟩)

-- =========================================================== taken out

/-- What is at or below a node is the node, and what is at or below its
children. -/
theorem Linked.subtree_eq (h : doc.Linked) (hs : doc.Sound) (i : Nat) :
    doc.subtree i = i :: (doc.children i).flatMap doc.subtree := by
  rw [subtree]
  refine congrArg (i :: ·) (List.flatMap_congr fun c hc => ?_)
  exact dif_pos ⟨(h.child i c hc).2, hs.children i c hc⟩

/-- A node that the one that was taken out is not below. -/
theorem subtree_of_apart (hl : doc.Linked) (hs : doc.Sound)
    (hout : doc.Without [id] out) :
    ∀ i, (doc.Reaches i id → i = id) → out.subtree i = doc.subtree i := by
  refine hl.down_induct hs fun i ih hi => ?_
  have hbelow : ∀ c ∈ doc.children i, ¬ doc.Reaches c id := by
    intro c hc hreach
    obtain rfl := hi (.head hc hreach)
    exact Nat.not_lt.mpr (hl.le_of_reaches hreach) (hl.child i c hc).2
  have hkept : out.children i = doc.children i := by
    rw [hout.children, filter_not_mem_singleton]
    exact fun hmem => hbelow id hmem .refl
  rw [(hout.linked hl).subtree_eq (hout.sound hs), hl.subtree_eq hs, hkept]
  exact congrArg (i :: ·) (List.flatMap_congr fun c hc =>
    ih c hc fun hreach => absurd hreach (hbelow c hc))

/-- Of the children of a node above another one, a single one has the other
one at or below it. -/
theorem Linked.split_children (h : doc.Linked) (hi : doc.Reaches i id)
    (hne : i ≠ id) :
    ∃ front c back, doc.children i = front ++ c :: back
      ∧ doc.Reaches c id ∧ ∀ d ∈ front ++ back, ¬ doc.Reaches d id := by
  obtain rfl | ⟨c, hc, hreach⟩ := hi.cases_head
  · exact absurd rfl hne
  obtain ⟨front, back, hsplit⟩ := List.append_of_mem hc
  have hnodup := h.nodup i
  rw [hsplit, List.nodup_middle, List.nodup_cons] at hnodup
  refine ⟨front, c, back, hsplit, hreach, fun d hd hdid => ?_⟩
  have hmem : d ∈ doc.children i := by
    rw [hsplit, List.mem_append, List.mem_cons]
    exact (List.mem_append.mp hd).imp_right .inr
  exact hnodup.1 (h.sibling_eq hmem hc hdid hreach ▸ hd)

/-- A node that is above the one that was taken out. -/
theorem subtree_of_above (hl : doc.Linked) (hs : doc.Sound)
    (hout : doc.Without [id] out) :
    ∀ i, doc.Reaches i id → i ≠ id → ∃ before after,
      doc.subtree i = before ++ doc.subtree id ++ after
        ∧ out.subtree i = before ++ after := by
  refine hl.down_induct hs fun i ih hi hne => ?_
  obtain ⟨front, c, back, hsplit, hreach, hapart⟩ :=
    hl.split_children hi hne
  -- what is below the other children stays
  have hsame : ∀ ds : List Nat, (∀ d ∈ ds, ¬ doc.Reaches d id) →
      ds.filter (· ∉ [id]) = ds
        ∧ ds.flatMap out.subtree = ds.flatMap doc.subtree := by
    intro ds hds
    exact ⟨filter_not_mem_singleton fun hmem => hds id hmem .refl,
      List.flatMap_congr fun d hd => subtree_of_apart hl hs hout d
        fun hdid => absurd hdid (hds d hd)⟩
  obtain ⟨hfront, hfrontsub⟩ := hsame front fun d hd =>
    hapart d (List.mem_append_left _ hd)
  obtain ⟨hback, hbacksub⟩ := hsame back fun d hd =>
    hapart d (List.mem_append_right _ hd)
  -- the node is cut out below `c`, or `c` is the node
  have hcut : ∃ before after,
      doc.subtree c = before ++ doc.subtree id ++ after
        ∧ ([c].filter (· ∉ [id])).flatMap out.subtree
          = before ++ after := by
    by_cases hcid : c = id
    · exact ⟨[], [], by simp [hcid], by simp [hcid]⟩
    · have hc : c ∈ doc.children i := by simp [hsplit]
      obtain ⟨before, after, hold, hnew⟩ := ih c hc hreach hcid
      exact ⟨before, after, hold, by simp [hcid, hnew]⟩
  obtain ⟨before, after, hold, hnew⟩ := hcut
  have hchildren : out.children i
      = front ++ [c].filter (· ∉ [id]) ++ back := by
    rw [hout.children, hsplit, List.append_cons, List.filter_append,
      List.filter_append, hfront, hback]
  refine ⟨i :: front.flatMap doc.subtree ++ before,
    after ++ back.flatMap doc.subtree, ?_, ?_⟩
  · rw [hl.subtree_eq hs, hsplit, List.flatMap_append, List.flatMap_cons,
      hold]
    simp only [List.cons_append, List.append_assoc]
  · rw [(hout.linked hl).subtree_eq (hout.sound hs), hchildren,
      List.flatMap_append, List.flatMap_append, hfrontsub, hnew, hbacksub]
    simp only [List.cons_append, List.append_assoc]

/-- Taking a node out touches the node and its parent. -/
theorem takenOut_detach (hl : doc.Linked) (hs : doc.Sound)
    (h : doc.detach id = .ok out) : doc.TakenOut id out := by
  have hout := without_detach hl h
  have hne : id ≠ doc.root := by
    rintro rfl
    rw [detach, if_pos (by simp)] at h
    cases h
  have hself : id ∉ doc.children id := fun hmem =>
    Nat.lt_irrefl id (hl.child id id hmem).2
  have hparent : out.parent? id = none := by
    rw [hout.parent?, if_pos (List.mem_singleton_self id)]
  constructor
  case same =>
      refine ⟨hout.root, hout.prolog, hout.epilog, fun i _ hi => ?_⟩
      obtain ⟨hne, hlist⟩ := not_or.mp (List.mem_cons.not.mp hi)
      refine node_ext (hout.kind? i) ?_ ?_
      · rw [hout.parent?, if_neg (by simpa using hne)]
      · rw [hout.children, filter_not_mem_singleton]
        intro hmem
        rw [(hl.child i id hmem).1] at hlist
        exact hlist (List.mem_singleton_self i)
  case size =>
      have hle := hout.lt_size_iff (i := out.size)
      have hge := hout.lt_size_iff (i := doc.size)
      omega
  case node =>
      refine getElem?_of_orphaned (hout.kind? id) hparent ?_
      rw [hout.children, filter_not_mem_singleton hself]
  case parent =>
      intro p hp
      have hmem := (hl.parent id p hp).1
      have hne : p ≠ id := Nat.ne_of_lt (hl.lt hp)
      obtain ⟨front, c, back, hsplit, -, hapart⟩ :=
        hl.split_children (.single hmem) hne
      have hnot : id ∉ front ++ back := fun h => hapart id h .refl
      obtain ⟨hfront, hback⟩ := not_or.mp (List.mem_append.not.mp hnot)
      obtain rfl : id = c := by
        rw [hsplit] at hmem
        simpa [hfront, hback] using hmem
      refine ⟨front, back, hsplit, getElem?_of_relisted
        (lt_of_mem_children hmem) (hout.kind? p) ?_ ?_⟩
      · rw [hout.parent?, if_neg (by simpa using hne)]
      · rw [hout.children, hsplit, List.filter_append,
          filter_not_mem_singleton hfront, List.filter_cons_of_neg (by simp),
          filter_not_mem_singleton hback]
  case unlisted =>
      intro i hmem
      rw [hout.children, List.mem_filter] at hmem
      simpa using hmem.2
  case detached => exact detached_of_parent? hparent (hout.root ▸ hne)
  case apart => exact subtree_of_apart hl hs hout
  case above => exact subtree_of_above hl hs hout

/-- What comes out of an edit is the old document, but for what the edit is
about. -/
theorem framed_apply {e : Edit} (hl : doc.Linked) (hs : doc.Sound)
    (h : e.apply doc = .ok out) : doc.Framed out e := by
  cases e with
  | setText id value =>
      obtain ⟨-, hel, rfl⟩ := setText_eq_ok_iff.mp h
      exact textReplaced_retext hl hs hel value
  | setAttribute id name value =>
      obtain ⟨-, -, e, he, hout⟩ := setAttribute_eq_ok_iff.mp h
      exact ⟨e, _, hout ▸ elementReplaced_putElement he,
        attributeWritten_writeAttribute name value e.attributes,
        attribute?_setAttribute_self h,
        fun _ hne => attribute?_setAttribute_of_ne h hne id⟩
  | rename id name =>
      obtain ⟨-, -, e, he, rfl⟩ := rename_eq_ok_iff.mp h
      exact ⟨e, elementReplaced_putElement he⟩
  | detach id => exact takenOut_detach hl hs h

-- =========================================================== any edits

/-- Whatever edits a document went through, the next one is all or
nothing, and touches what it is about. If it is refused, then in place it
has left the document as it is. If it is carried out, what is left in
place is what comes out of it, and that is the old document but for the
text of one element, one attribute, the name and the URI of one element,
or the link between one node and its parent. -/
theorem edit_is_framed (h : doc.IsNew) (edits : List Edit) (e : Edit) :
    let old := doc.edited edits
    (∃ why, e.apply old = .error why ∧ e.inPlace.on old = (.error why, old))
      ∨ ∃ out, e.apply old = .ok out ∧ e.inPlace.on old = (.ok (), out)
          ∧ old.Framed out e := by
  intro old
  obtain ⟨hl, hs⟩ := h.linked_edited edits
  rw [on_inPlace]
  cases he : e.apply old with
  | error why => exact .inl ⟨why, rfl, rfl⟩
  | ok out => exact .inr ⟨out, rfl, rfl, framed_apply hl hs he⟩

/-- The texts `t` and `s` make way for `u`, and a text with a control
character changes nothing. -/
theorem edit_is_framed_mixed :
    ∃ doc, parse "<a>t<b/>s</a>" = some doc ∧ doc.IsNew
      ∧ (let old := doc.edited [.setAttribute 2 "x" "1", .detach 0]
        (∃ out, (Edit.setText 0 "u").apply old = .ok out
          ∧ (Edit.setText 0 "u").inPlace.on old = (.ok (), out)
          ∧ old.TextReplaced 0 "u" out)
        ∧ ∃ why, (Edit.setText 0 "\x01").inPlace.on old
          = (.error why, old)) := by
  have hsome : (parse "<a>t<b/>s</a>").isSome = true := by
    decide +kernel
  have hout : let doc := (parse "<a>t<b/>s</a>").get hsome
      let old := doc.edited [.setAttribute 2 "x" "1", .detach 0]
      ((Edit.setText 0 "u").apply old).toOption.isSome = true
        ∧ ((Edit.setText 0 "\x01").apply old).toOption.isSome = false := by
    decide +kernel +revert
  obtain ⟨hreplaced, hrefused⟩ := hout
  have hnew : IsNew ((parse "<a>t<b/>s</a>").get hsome) :=
    .inl ⟨_, (Option.some_get hsome).symm⟩
  have hframed := edit_is_framed hnew [.setAttribute 2 "x" "1", .detach 0]
  refine ⟨_, (Option.some_get hsome).symm, hnew, ?_, ?_⟩
  · rcases hframed (.setText 0 "u") with ⟨why, he, -⟩ | hok
    · rw [he] at hreplaced
      cases hreplaced
    · exact hok
  · rcases hframed (.setText 0 "\x01") with ⟨why, -, hon⟩ | ⟨out, he, -⟩
    · exact ⟨why, hon⟩
    · rw [he] at hrefused
      cases hrefused

end Document

end Overlay.Xml
