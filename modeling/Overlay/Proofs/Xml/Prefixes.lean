/-
What a prefix stands for at an element.

# Names of attributes

A declaration is found by its name, and an attribute is written by the
way its name is spelled. Both go together where every attribute has the
name that its spelling is read as (`Canonical`). Documents that were read
are like this, and changes leave them so. Then what is written under the
spelling of a declaration is what declares the prefix
(`Canonical.declaration?_eq`), and nothing declares the empty prefix.

# The way up

Neither texts nor attributes nor prefixes change the way up from an
element (`SameOutline.lineage`), and new names leave all declarations as
they are, so that every prefix keeps what it stands for
(`lookupNamespace_rename`). If only one element on the way up declares a
prefix, its declaration is the one that counts
(`lookupNamespace_of_only`).
-/
import Overlay.Proofs.Xml.Outlining
import Overlay.Proofs.Xml.Patching
import Overlay.Proofs.Xml.Redeclaring

namespace Overlay.Xml

open Text

-- =============================================================== names

/-- A name with a prefix is read back if there is something on both sides
of its first colon. -/
theorem QName.parse_prefixed {p l : String} (hp : p ≠ "") (hl : l ≠ "")
    (hcolon : ':' ∉ p.toList) :
    QName.parse (QName.qualified ⟨some p, l⟩) = ⟨some p, l⟩ := by
  have hsplit : splitFirst? ':' (QName.qualified ⟨some p, l⟩).toList
      = some (p.toList, l.toList) := by
    refine splitFirst?_eq_some_iff.mpr ⟨?_, hcolon⟩
    have hmark : ":".toList = [':'] := rfl
    simp [QName.qualified, hmark]
  have hparts : (p.toList.isEmpty || l.toList.isEmpty) = false := by
    simp [hp, hl]
  simp only [QName.parse, hsplit, hparts, Bool.false_eq_true, ↓reduceIte,
    String.ofList_toList]

/-- A name that could have been read is read back. -/
theorem QName.Spelled.parse_qualified {n : QName} (h : n.Spelled) :
    QName.parse n.qualified = n := by
  obtain ⟨nsPrefix, l⟩ := n
  have hl : l ≠ "" := by
    rintro rfl
    cases h.localPart.starts
  cases nsPrefix with
  | none =>
      rw [QName.qualified, QName.parse,
        splitFirst?_eq_none_iff.mpr h.localPart.noColon]
  | some p =>
      have hpart := h.prefixPart p rfl
      refine parse_prefixed ?_ hl hpart.noColon
      rintro rfl
      cases hpart.starts

/-- So is the name of a declaration, unless the prefix is empty. -/
theorem QName.parse_declaring {p : String} (hp : p ≠ "") :
    QName.parse (QName.declaring (some p)).qualified
      = QName.declaring (some p) :=
  parse_prefixed (by decide) hp (by decide)

/-- No name that is parsed declares the empty prefix: a name that ends with a
colon has no local name to split off. -/
theorem QName.parse_ne_declaring_empty (name : String) :
    QName.parse name ≠ QName.declaring (some "") := by
  intro h
  rw [QName.parse] at h
  split at h
  case h_1 p l hsplit =>
      split at h
      case isTrue => cases h
      case isFalse hparts =>
          have hl : String.ofList l = "" := congrArg QName.localName h
          rw [String.ofList_eq_empty_iff] at hl
          simp [hl] at hparts
  case h_2 => cases h

namespace Document

variable {doc doc' : Document} {id i : Nat} {name value : String}

/-- Whether every attribute has the name that its spelling is read as. -/
def Canonical (doc : Document) : Prop :=
  ∀ i, ∀ a ∈ doc.attributes i, QName.parse a.name.qualified = a.name

/-- The names of a document that was read are those of its text. -/
theorem canonical_of_parse {s : String} (h : parse s = some doc) :
    doc.Canonical := by
  intro i a ha
  rw [attributes] at ha
  cases he : doc.element? i with
  | none =>
      rw [he] at ha
      cases ha
  | some e =>
      rw [he] at ha
      have hspelled := kind_of_parse h (element?_eq_some_iff.mp he)
      exact (hspelled.2 a ha).parse_qualified

namespace Canonical

theorem setText (h : doc.Canonical) (hset : doc.setText id value = .ok doc') :
    doc'.Canonical := by
  obtain ⟨-, -, rfl⟩ := setText_eq_ok_iff.mp hset
  intro i
  rw [attributes, element?_retext]
  exact h i

/-- To write an attribute keeps a document canonical. -/
theorem setAttribute (h : doc.Canonical)
    (hset : doc.setAttribute id name value = .ok doc') :
    doc'.Canonical := by
  obtain ⟨-, -, e, he, rfl⟩ := setAttribute_eq_ok_iff.mp hset
  intro i a ha
  rw [attributes, element?_putElement (lt_of_element? he)] at ha
  split at ha
  case isTrue =>
      rcases name_of_mem_writeAttribute ha with hname | ⟨b, hb, hname⟩
      · rw [hname, qualified_parse]
      · have hold : b ∈ doc.attributes id := by
          rw [attributes, he]
          exact hb
        rw [hname]
        exact h id b hold
  case isFalse => exact h i a ha

theorem rename (h : doc.Canonical) {qname : QName}
    (hrename : doc.rename id qname = .ok doc') : doc'.Canonical := by
  intro i
  rw [attributes_rename hrename]
  exact h i

/-- What is written under the spelling of a declaration is the
declaration. -/
theorem declaration?_eq (h : doc.Canonical) {p : String} (hp : p ≠ "")
    (i : Nat) :
    doc.declaration? (some p) i
      = doc.attribute? i (QName.declaring (some p)).qualified := by
  rw [declaration?, attribute?]
  refine congrArg (Option.map _) (List.find?_congr fun a ha => ?_)
  rw [Bool.eq_iff_iff, beq_iff_eq, beq_iff_eq]
  refine ⟨fun hname => hname ▸ rfl, fun hname => ?_⟩
  rw [← h i a ha, hname, QName.parse_declaring hp]

/-- Nothing declares the empty prefix. -/
theorem declaration?_empty (h : doc.Canonical) (i : Nat) :
    doc.declaration? (some "") i = none := by
  rw [declaration?, Option.map_eq_none_iff, List.find?_eq_none]
  intro a ha hname
  rw [beq_iff_eq, ← h i a ha] at hname
  exact QName.parse_ne_declaring_empty _ hname

/-- So it stands for nothing. -/
theorem lookupNamespace_empty (h : doc.Canonical) (i : Nat) :
    doc.lookupNamespace i (some "") = none := by
  have hfind : (doc.lineage i).findSome? (doc.declaration? (some "")) = none :=
    List.findSome?_eq_none_iff.mpr fun a _ => h.declaration?_empty a
  rw [lookupNamespace, hfind]
  rfl

end Canonical

-- ========================================================== the way up

/-- In documents of the same outline the ways up from elements are the
same. -/
theorem SameOutline.lineage (h : doc.SameOutline doc') (hl : doc.Linked)
    (hi : doc.isElement i = true) : doc'.lineage i = doc.lineage i := by
  induction i using Nat.strong_induction_on with
  | _ i ih =>
      have houtline : (doc.outline? i).isSome = true := by
        rw [isElement_eq_outline] at hi
        exact Option.isSome_of_isSome_bind hi
      have hparent := h.parent? i houtline
      cases hp : doc.parent? i with
      | none => rw [lineage_of_none hp, lineage_of_none (hparent.trans hp)]
      | some p =>
          rw [hl.lineage_of_parent hp, Document.lineage, hparent, hp]
          simp only [dif_pos (hl.lt hp), ih p (hl.lt hp) (hl.parent i p hp).2]

/-- So are their paths. -/
theorem SameOutline.pathOf (h : doc.SameOutline doc') (hl : doc.Linked)
    (hi : doc.isElement i = true) : doc'.pathOf i = doc.pathOf i := by
  have hnames : doc'.localName = doc.localName := funext h.localName
  rw [Document.pathOf, h.lineage hl hi, hnames, Document.pathOf]

/-- Lineages depend on parents only. -/
theorem lineage_congr (h : ∀ i, doc'.parent? i = doc.parent? i) (i : Nat) :
    doc'.lineage i = doc.lineage i := by
  induction i using Nat.strong_induction_on with
  | _ i ih =>
      rw [lineage, lineage, h]
      split
      case h_1 p _ =>
          split
          case isTrue hlt => rw [ih p hlt]
          case isFalse => rfl
      case h_2 => rfl

/-- A new name leaves what prefixes stand for as it is. -/
theorem lookupNamespace_rename {qname : QName}
    (h : doc.rename id qname = .ok doc') (p : Option String) (i : Nat) :
    doc'.lookupNamespace i p = doc.lookupNamespace i p := by
  refine lookupNamespace_congr ?_ fun a _ => declaration?_rename h p a
  obtain ⟨-, -, e, he, rfl⟩ := rename_eq_ok_iff.mp h
  exact lineage_congr (fun _ => parent?_putElement) i

/-- If one element only on the way up declares a prefix, the prefix stands
for what is declared there. -/
theorem lookupNamespace_of_only {p uri : String} (hp : p ≠ "xml")
    (hid : id ∈ doc.lineage i) (hdecl : doc.declaration? (some p) id = some uri)
    (honly : ∀ a ∈ doc.lineage i, doc.declaration? (some p) a ≠ none →
      a = id) :
    doc.lookupNamespace i (some p) = (some uri).filter (· != "") := by
  have hfind : (doc.lineage i).findSome? (doc.declaration? (some p))
      = some uri := by
    have hsome : ((doc.lineage i).findSome?
        (doc.declaration? (some p))).isSome = true := by
      rw [List.findSome?_isSome_iff]
      exact ⟨id, hid, by rw [hdecl]; rfl⟩
    obtain ⟨found, hfound⟩ := Option.isSome_iff_exists.mp hsome
    obtain ⟨a, ha, hdecla⟩ := List.exists_of_findSome?_eq_some hfound
    have hsame := honly a ha (by rw [hdecla]; exact Option.some_ne_none _)
    rw [hfound, ← hdecla, hsame, hdecl]
  have hxml : ((some p : Option String) == some "xml") = false := by
    simpa using hp
  rw [lookupNamespace, hxml, hfind]
  rfl

end Document

end Overlay.Xml
