/-
Namespaces after changes to a document.

# The URI of an element is kept

The URI of an element is found when the document is read, and again when
the element is renamed. Between these it is kept: an attribute that
declares a namespace can be written at any time, and changes no URI
(`redeclared_is_unresolved`). This is how documents are meant to work, so
what can be said of an element after some edits has to look at the
declarations that were written since (`writtenSince`).

# What edits leave alone

An edit gives no old node a new parent (`Follows`), so the way up from an
element that stays attached is the same all the time. Nor does it touch
the name, the URI or the declarations of an element, but for the two edits
that are about just these. So an element stays resolved until an attribute
is written, on its way up, that declares its prefix (`Settled.keep`), and
is resolved again when it is renamed (`isResolved_rename`). Both together
are what one edit does (`settled_apply`), and what any number of them do
(`isResolved_of_edits`).
-/
import Overlay.Proofs.Xml.Removing
import Overlay.Proofs.Xml.Scoping

namespace Overlay.Xml

open Document

/-- A request to change a document. -/
inductive Edit
  | setText (id : Nat) (value : String)
  | setAttribute (id : Nat) (name value : String)
  | rename (id : Nat) (name : QName)
  | detach (id : Nat)
  deriving DecidableEq, Repr

namespace Edit

/-- The changed document, unless the request is refused. -/
def apply (doc : Document) : Edit → Except Refusal Document
  | .setText id value => doc.setText id value
  | .setAttribute id name value => doc.setAttribute id name value
  | .rename id name => doc.rename id name
  | .detach id => doc.detach id

/-- The document after a request, which may be refused. -/
def carryOut (doc : Document) (e : Edit) : Document :=
  match e.apply doc with
  | .ok out => out
  | .error _ => doc

/-- The attributes that were written since an element was renamed, by
their elements and names, after one more edit. -/
def record (i : Nat) (written : List (Nat × String)) :
    Edit → List (Nat × String)
  | .setText _ _ => written
  | .setAttribute id name _ => written ++ [(id, name)]
  | .rename id _ => if id = i then [] else written
  | .detach _ => written

end Edit

namespace Document

variable {doc doc' : Document} {id i : Nat}

/-- A document after some edits. -/
def edited (doc : Document) (edits : List Edit) : Document :=
  edits.foldl Edit.carryOut doc

/-- The attributes that edits have written since they last renamed an
element, after those that were written before. -/
def writtenSince (i : Nat) (written : List (Nat × String))
    (doc : Document) : List Edit → List (Nat × String)
  | [] => written
  | e :: rest =>
    match e.apply doc with
    | .ok out => out.writtenSince i (e.record i written) rest
    | .error _ => doc.writtenSince i written rest

/-- Whether the declaration of an element's prefix is among some attributes
that were written, on the element or above it. -/
def Redeclared (doc : Document) (i : Nat) (written : List (Nat × String)) :
    Prop :=
  ∃ a ∈ doc.lineage i,
    (a, (QName.declaring (doc.nsPrefix? i)).qualified) ∈ written

instance (doc : Document) (i : Nat) (written : List (Nat × String)) :
    Decidable (doc.Redeclared i written) :=
  inferInstanceAs (Decidable (∃ a ∈ doc.lineage i, _))

-- ============================================== what edits leave alone

/-- What is known of a document after an edit: it is as sound as before,
has the same elements, and no old node has a new parent. -/
structure Follows (doc doc' : Document) : Prop where
  linked : doc'.Linked
  sound : doc'.Sound
  root : doc'.root = doc.root
  isElement : ∀ i, doc'.isElement i = doc.isElement i
  parents : ∀ i < doc.size, ∀ p, doc'.parent? i = some p →
    doc.parent? i = some p

/-- The way up from an element that stays attached is the same. -/
theorem Follows.lineage (h : doc.Follows doc') (hl : doc.Linked)
    (hel : doc'.isElement i = true) (hi : doc'.isAttached i = true) :
    doc.isAttached i = true ∧ doc'.lineage i = doc.lineage i :=
  hl.lineage_of_parents h.linked h.root h.parents
    (lt_of_isElement (h.isElement i ▸ hel)) hi

/-- The children of an element whose text was replaced are the new text and
those of its old children that are no texts. -/
theorem mem_children_retext (hid : id < doc.size) (value : String)
    {c : Nat} :
    c ∈ (doc.retext id value).children i
      ↔ (c = doc.size ∧ value ≠ "") ∧ i = id
        ∨ c ∈ doc.children i ∧ (i = id → doc.isText c = false) := by
  rw [children_retext hid]
  by_cases hi : i = id
  · subst hi
    by_cases hv : value = "" <;> simp [retexted, hv]
  · simp [hi]

/-- A new text is a child of its element, the old texts are not any more, and
no other link changes. -/
theorem parent?_retext_eq_some_iff (hl : doc.Linked) (value : String)
    {c : Nat} :
    (doc.retext id value).parent? c = some i
      ↔ (c = doc.size ∧ value ≠ "") ∧ i = id
        ∨ doc.parent? c = some i ∧ (i = id → doc.isText c = false) := by
  -- the texts that leave are those whose parent is `id`
  have htexts : c ∈ (doc.children id).filter doc.isText
      ↔ doc.parent? c = some id ∧ doc.isText c = true := by
    rw [List.mem_filter, hl.mem_children_iff]
  have hold : doc.parent? c = some i → c ≠ doc.size := fun hp =>
    Nat.ne_of_lt (lt_of_parent? hp)
  rw [parent?_retext]
  split
  case isTrue hnew =>
      rw [Option.some.injEq, and_iff_right hnew, eq_comm (a := id)]
      exact (or_iff_left fun h => hold h.1 hnew.1).symm
  case isFalse hnew =>
      rw [or_iff_right fun h => hnew h.1]
      split
      case isTrue hgone =>
          obtain ⟨hp, htext⟩ := htexts.mp hgone
          refine iff_of_false nofun fun ⟨hi, hkept⟩ => ?_
          rw [hkept (Option.some.inj (hi.symm.trans hp))] at htext
          cases htext
      case isFalse hkept =>
          refine (and_iff_left_of_imp fun hp hi => ?_).symm
          exact Bool.eq_false_iff.mpr fun htext =>
            hkept (htexts.mpr ⟨hi ▸ hp, htext⟩)

/-- Replacing a text leaves a document linked. -/
theorem linked_retext (hl : doc.Linked) (hs : doc.Sound)
    (hid : doc.isElement id = true) (value : String) :
    (doc.retext id value).Linked := by
  have hlt := lt_of_isElement hid
  have hshape := sameShape_retext hlt value
  have hsame : ∀ i c, c ∈ (doc.retext id value).children i
      ↔ (doc.retext id value).parent? c = some i := fun i c => by
    rw [mem_children_retext hlt, parent?_retext_eq_some_iff hl,
      hl.mem_children_iff]
  constructor
  case root =>
      rw [hshape.root, Option.eq_none_iff_forall_ne_some]
      intro i hp
      rcases (parent?_retext_eq_some_iff hl value).mp hp with
        ⟨⟨hroot, -⟩, -⟩ | ⟨hp, -⟩
      · exact Nat.ne_of_lt (lt_of_isElement hs.root) hroot
      · rw [hl.root] at hp
        cases hp
  case child =>
      intro i c hc
      refine ⟨(hsame i c).mp hc, ?_⟩
      rcases (mem_children_retext hlt value).mp hc with
        ⟨⟨rfl, -⟩, rfl⟩ | ⟨hc, -⟩
      · exact hlt
      · exact (hl.child i c hc).2
  case parent =>
      intro i p hp
      refine ⟨(hsame p i).mpr hp, ?_⟩
      rw [hshape.isElement]
      rcases (parent?_retext_eq_some_iff hl value).mp hp with
        ⟨-, rfl⟩ | ⟨hp, -⟩
      · exact hid
      · exact (hl.parent i p hp).2
  case nodup =>
      intro i
      rw [children_retext hlt]
      split
      case isFalse => exact hl.nodup i
      case isTrue =>
          have hothers := (hl.nodup id).filter (!doc.isText ·)
          rw [retexted]
          split
          · exact hothers
          · refine List.nodup_cons.mpr ⟨fun hmem => ?_, hothers⟩
            exact Nat.lt_irrefl _
              (hs.children id _ (List.mem_of_mem_filter hmem))

/-- So no element has other declarations around it than before. -/
theorem follows_retext (hl : doc.Linked) (hs : doc.Sound)
    (hid : doc.isElement id = true) (value : String) :
    doc.Follows (doc.retext id value) := by
  have hshape := sameShape_retext (lt_of_isElement hid) value
  refine ⟨linked_retext hl hs hid value, sound_retext hs
    (lt_of_isElement hid) value, hshape.root, hshape.isElement,
    fun i hi p hp => ?_⟩
  rw [parent?_retext, if_neg fun h => Nat.ne_of_lt hi h.1] at hp
  split at hp
  · cases hp
  · exact hp

/-- Replacing an element by any other one leaves a document linked. -/
theorem linked_putElement (hl : doc.Linked) {e e' : Element}
    (he : doc.element? id = some e) : (doc.putElement id e').Linked := by
  constructor
  case root => exact parent?_putElement.trans hl.root
  case child =>
      intro i c hc
      rw [children_putElement] at hc
      rw [parent?_putElement]
      exact hl.child i c hc
  case parent =>
      intro i p hp
      rw [parent?_putElement] at hp
      rw [children_putElement, isElement_putElement he]
      exact hl.parent i p hp
  case nodup =>
      intro i
      rw [children_putElement]
      exact hl.nodup i

theorem follows_putElement (hl : doc.Linked) (hs : doc.Sound) {e e' : Element}
    (he : doc.element? id = some e) : doc.Follows (doc.putElement id e') := by
  refine ⟨linked_putElement hl he, sound_putElement hs he, rfl,
    fun i => isElement_putElement he, fun i _ p hp => ?_⟩
  rw [parent?_putElement] at hp
  exact hp

theorem follows_detach (hl : doc.Linked) (hs : doc.Sound)
    (h : doc.detach id = .ok doc') : doc.Follows doc' := by
  have hwithout := without_detach hl h
  exact ⟨hwithout.linked hl, hwithout.sound hs, hwithout.root,
    hwithout.isElement, fun i _ p hp =>
      (hwithout.parent?_eq_some_iff.mp hp).2⟩

-- ====================================================== resolved again

/-- What a prefix stands for at a node depends on the way up from the node
and on the declarations of the prefix there. -/
theorem lookupNamespace_congr {p : Option String}
    (hup : doc'.lineage i = doc.lineage i)
    (hdecl : ∀ a ∈ doc.lineage i,
      doc'.declaration? p a = doc.declaration? p a) :
    doc'.lookupNamespace i p = doc.lookupNamespace i p := by
  have hfind : (doc.lineage i).findSome? (doc'.declaration? p)
      = (doc.lineage i).findSome? (doc.declaration? p) := by
    generalize doc.lineage i = up at hdecl
    induction up with
    | nil => rfl
    | cons a rest ih =>
        obtain ⟨ha, hrest⟩ := List.forall_mem_cons.mp hdecl
        rw [List.findSome?_cons, List.findSome?_cons, ha, ih hrest]
  rw [lookupNamespace, lookupNamespace, hup, hfind]

/-- A prefix never stands for an empty URI. -/
theorem filter_lookupNamespace (p : Option String) :
    (doc.lookupNamespace i p).filter (· != "") = doc.lookupNamespace i p := by
  rw [lookupNamespace]
  split
  · rfl
  · simp [Option.filter_filter]

/-- The one edit that writes declarations leaves all but the one of its
name as they are. -/
theorem declaration?_setAttribute {name value : String}
    (h : doc.setAttribute id name value = .ok doc') (p : Option String)
    (a : Nat) (hname : a = id → (QName.declaring p).qualified ≠ name) :
    doc'.declaration? p a = doc.declaration? p a := by
  obtain ⟨-, -, e, he, rfl⟩ := setAttribute_eq_ok_iff.mp h
  have hlt := lt_of_element? he
  rw [declaration?, declaration?, attributes, attributes,
    element?_putElement hlt]
  split
  case isTrue ha =>
      rw [ha, he]
      refine find?_writeAttribute (p := (· == QName.declaring p))
        (fun n hn => ?_) value e.attributes
      rw [eq_of_beq hn]
      exact hname ha
  case isFalse => rfl

/-- Renaming touches no attribute, and so no declaration. -/
theorem attributes_rename {name : QName}
    (h : doc.rename id name = .ok doc') (a : Nat) :
    doc'.attributes a = doc.attributes a := by
  obtain ⟨-, -, e, he, rfl⟩ := rename_eq_ok_iff.mp h
  have hlt := lt_of_element? he
  rw [attributes, attributes, element?_putElement hlt]
  split
  case isTrue ha => rw [ha, he]; rfl
  case isFalse => rfl

theorem declaration?_rename {name : QName}
    (h : doc.rename id name = .ok doc') (p : Option String) (a : Nat) :
    doc'.declaration? p a = doc.declaration? p a := by
  rw [declaration?, declaration?, attributes_rename h]

/-- Whether all is well with an element: it is resolved, or its prefix was
declared again. -/
def Settled (doc : Document) (i : Nat) (written : List (Nat × String)) :
    Prop :=
  doc.IsResolved i ∨ doc.Redeclared i written

/-- An element of the same name and URI, with the same way up, is settled
as before if no declaration of its prefix has changed there. -/
theorem Settled.keep {written written' : List (Nat × String)}
    (h : doc.Settled i written) (hup : doc'.lineage i = doc.lineage i)
    (hname : doc'.name? i = doc.name? i) (huri : doc'.uri? i = doc.uri? i)
    (hwritten : written ⊆ written')
    (hdecl : ∀ a ∈ doc.lineage i,
      doc'.declaration? (doc.nsPrefix? i) a
          = doc.declaration? (doc.nsPrefix? i) a
        ∨ (a, (QName.declaring (doc.nsPrefix? i)).qualified) ∈ written') :
    doc'.Settled i written' := by
  have hpre : doc'.nsPrefix? i = doc.nsPrefix? i := by
    rw [nsPrefix?, hname, nsPrefix?]
  by_cases hre : doc'.Redeclared i written'
  · exact .inr hre
  · rw [Redeclared, hup, hpre] at hre
    refine .inl ?_
    rcases h with h | ⟨a, ha, hmem⟩
    · rw [IsResolved, huri, hpre, h]
      refine (lookupNamespace_congr hup fun a ha => ?_).symm
      exact (hdecl a ha).resolve_right fun hmem => hre ⟨a, ha, hmem⟩
    · exact absurd ⟨a, ha, hwritten hmem⟩ hre

/-- Writing an attribute keeps an element settled, as it is recorded. -/
theorem Settled.setAttribute {written : List (Nat × String)}
    {name value : String} (hold : doc.Settled i written)
    (h : doc.setAttribute id name value = .ok doc')
    (hup : doc'.lineage i = doc.lineage i) :
    doc'.Settled i (written ++ [(id, name)]) := by
  obtain ⟨-, -, e, he, hdoc⟩ := setAttribute_eq_ok_iff.mp h
  have hput := element?_putElement (i := i) (e := { e with
    attributes := writeAttribute name value e.attributes })
    (lt_of_element? he)
  rw [← hdoc] at hput
  have hname : doc'.name? i = doc.name? i := by
    rw [name?, name?, hput]
    split
    case isTrue hi => rw [hi, he]; rfl
    case isFalse => rfl
  have huri : doc'.uri? i = doc.uri? i := by
    rw [uri?, uri?, hput]
    split
    case isTrue hi => rw [hi, he]; rfl
    case isFalse => rfl
  refine hold.keep hup hname huri (List.subset_append_left _ _) fun a _ => ?_
  by_cases hwritten : a = id
      ∧ (QName.declaring (doc.nsPrefix? i)).qualified = name
  · refine .inr (List.mem_append_right _ ?_)
    rw [hwritten.1, hwritten.2]
    exact List.mem_singleton_self _
  · exact .inl (declaration?_setAttribute h _ a
      fun ha hname => hwritten ⟨ha, hname⟩)

/-- Renaming one element keeps the others settled. -/
theorem Settled.rename_of_ne {written : List (Nat × String)}
    {name : QName} (hold : doc.Settled i written)
    (h : doc.rename id name = .ok doc')
    (hup : doc'.lineage i = doc.lineage i) (hne : i ≠ id) :
    doc'.Settled i written := by
  obtain ⟨-, -, e, he, hdoc⟩ := rename_eq_ok_iff.mp h
  have helement : doc'.element? i = doc.element? i := by
    rw [hdoc, element?_putElement (lt_of_element? he), if_neg hne]
  exact hold.keep hup (by rw [name?, helement, name?])
    (by rw [uri?, helement, uri?]) (List.Subset.refl _)
    fun a _ => .inl (declaration?_rename h _ a)

/-- An element that is renamed is resolved: its URI is looked up anew. -/
theorem isResolved_rename {name : QName}
    (h : doc.rename i name = .ok doc')
    (hup : doc'.lineage i = doc.lineage i) : doc'.IsResolved i := by
  obtain ⟨-, -, e, he, hdoc⟩ := rename_eq_ok_iff.mp h
  have helement : doc'.element? i = some { e with
      name := name, uri := doc.lookupNamespace i name.nsPrefix } := by
    rw [hdoc, element?_putElement (lt_of_element? he), if_pos rfl]
  have huri : doc'.uri? i = doc.lookupNamespace i name.nsPrefix := by
    rw [uri?, helement]
    rfl
  have hpre : doc'.nsPrefix? i = name.nsPrefix := by
    rw [nsPrefix?, name?, helement]
    rfl
  rw [IsResolved, huri, hpre, filter_lookupNamespace]
  exact (lookupNamespace_congr hup
    fun a _ => declaration?_rename h _ a).symm

end Document

namespace Edit

variable {doc doc' : Document} {i : Nat}

/-- What an edit makes of a document follows the document. -/
theorem follows {e : Edit} (hl : doc.Linked) (hs : doc.Sound)
    (h : e.apply doc = .ok doc') : doc.Follows doc' := by
  cases e with
  | setText id value =>
      obtain ⟨-, hel, rfl⟩ := setText_eq_ok_iff.mp h
      exact follows_retext hl hs hel value
  | setAttribute id name value =>
      obtain ⟨-, -, e, he, rfl⟩ := setAttribute_eq_ok_iff.mp h
      exact follows_putElement hl hs he
  | rename id name =>
      obtain ⟨-, -, e, he, rfl⟩ := rename_eq_ok_iff.mp h
      exact follows_putElement hl hs he
  | detach id => exact follows_detach hl hs h

/-- One edit keeps an element settled that stays attached. -/
theorem settled_apply {e : Edit} {written : List (Nat × String)}
    (hl : doc.Linked) (hs : doc.Sound) (h : e.apply doc = .ok doc')
    (hel : doc'.isElement i = true) (hi : doc'.isAttached i = true)
    (hold : doc.Settled i written) :
    doc'.Settled i (e.record i written) := by
  have hup := ((follows hl hs h).lineage hl hel hi).2
  -- edits that touch no element keep all that is asked for
  have hsame : (∀ j, doc'.element? j = doc.element? j) →
      doc'.Settled i written := fun helement =>
    hold.keep hup (by rw [name?, helement, name?])
      (by rw [uri?, helement, uri?]) (List.Subset.refl _) fun a _ =>
        .inl (by rw [declaration?, attributes, helement, declaration?,
          attributes])
  cases e with
  | setText id value =>
      obtain ⟨-, -, rfl⟩ := setText_eq_ok_iff.mp h
      exact hsame fun j => element?_retext value
  | setAttribute id name value => exact hold.setAttribute h hup
  | rename id name =>
      rw [record]
      split
      case isTrue hid => exact .inl (isResolved_rename (hid ▸ h) hup)
      case isFalse hid => exact hold.rename_of_ne h hup (Ne.symm hid)
  | detach id => exact hsame fun j => (without_detach hl h).element? j

end Edit

namespace Document

variable {doc : Document} {i : Nat}

/-- No edits leave an element unresolved that stays attached, unless they
write a declaration of its prefix. -/
theorem settled_edited {written : List (Nat × String)} {edits : List Edit}
    (hl : doc.Linked) (hs : doc.Sound)
    (hold : doc.isElement i = true → doc.isAttached i = true →
      doc.Settled i written)
    (hel : (doc.edited edits).isElement i = true)
    (hi : (doc.edited edits).isAttached i = true) :
    (doc.edited edits).Settled i (doc.writtenSince i written edits) := by
  induction edits generalizing doc written with
  | nil => exact hold hel hi
  | cons e rest ih =>
      cases he : e.apply doc with
      | error r =>
          -- a refused edit changes nothing
          have hrefused : e.carryOut doc = doc := by rw [Edit.carryOut, he]
          rw [edited, List.foldl_cons, hrefused] at hel hi ⊢
          rw [writtenSince, he]
          exact ih hl hs hold hel hi
      | ok out =>
          have hdone : e.carryOut doc = out := by rw [Edit.carryOut, he]
          have hfollows := e.follows hl hs he
          rw [edited, List.foldl_cons, hdone] at hel hi ⊢
          rw [writtenSince, he]
          refine ih hfollows.linked hfollows.sound (fun hel hi => ?_) hel hi
          have hbefore := hfollows.lineage hl hel hi
          exact e.settled_apply hl hs he hel hi
            (hold (hfollows.isElement i ▸ hel) hbefore.1)

/-- However a document that was read is edited, an attached element is
resolved, unless the declaration of its prefix was written, on it or above
it, since it was renamed. -/
theorem isResolved_of_edits {text : String} (hdoc : parse text = some doc)
    (htext : DeclaresOnce text) (edits : List Edit)
    (hel : (doc.edited edits).isElement i = true)
    (hi : (doc.edited edits).isAttached i = true) :
    (doc.edited edits).IsResolved i
      ∨ (doc.edited edits).Redeclared i (doc.writtenSince i [] edits) :=
  settled_edited (linked_of_parse hdoc) (sound_of_parse hdoc)
    (fun hel hi => .inl (isResolved_of_parse hdoc htext hel hi)) hel hi

/-- The prefix is declared again, and then an element gets it: what was
written before does not count for this element. -/
theorem isResolved_of_edits_renamed :
    DeclaresOnce "<a xmlns:p=\"u\"><b/><c/></a>"
      ∧ ∃ doc, parse "<a xmlns:p=\"u\"><b/><c/></a>" = some doc
        ∧ (let out := doc.edited [.setAttribute 0 "xmlns:p" "v",
            .rename 1 ⟨some "p", "b"⟩, .setText 0 "t", .detach 2]
          out.isElement 1 = true ∧ out.isAttached 1 = true
            ∧ out.uri? 1 = some "v" ∧ out.IsResolved 1) := by
  have htext : DeclaresOnce "<a xmlns:p=\"u\"><b/><c/></a>" := by
    decide +kernel
  have hsome : (parse "<a xmlns:p=\"u\"><b/><c/></a>").isSome = true := by
    decide +kernel
  have hout : let doc := (parse "<a xmlns:p=\"u\"><b/><c/></a>").get hsome
      let edits := [Edit.setAttribute 0 "xmlns:p" "v",
        .rename 1 ⟨some "p", "b"⟩, .setText 0 "t", .detach 2]
      (doc.edited edits).isElement 1 = true
        ∧ (doc.edited edits).isAttached 1 = true
        ∧ (doc.edited edits).uri? 1 = some "v"
        ∧ doc.writtenSince 1 [] edits = [] := by
    decide +kernel +revert
  obtain ⟨hel, hi, huri, hnone⟩ := hout
  have hdoc := (Option.some_get hsome).symm
  refine ⟨htext, _, hdoc, hel, hi, huri, ?_⟩
  refine (isResolved_of_edits hdoc htext _ hel hi).resolve_right ?_
  rintro ⟨a, -, hmem⟩
  rw [hnone] at hmem
  cases hmem

/-- A default namespace that is declared later on is not the namespace of
elements that were there before. -/
theorem redeclared_is_unresolved :
    ∃ doc, parse "<a/>" = some doc
      ∧ (let out := doc.edited [.setAttribute 0 "xmlns" "u"]
        out.isElement 0 = true ∧ out.isAttached 0 = true
          ∧ out.uri? 0 = none
          ∧ out.lookupNamespace 0 (out.nsPrefix? 0) = some "u") := by
  have hsome : (parse "<a/>").isSome = true := by decide +kernel
  refine ⟨_, (Option.some_get hsome).symm, ?_⟩
  decide +kernel +revert

end Document

end Overlay.Xml
