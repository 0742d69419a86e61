/-
What is read where a tree was written.

# The tree that is read

`Tree.read?` says what is read in the place of a tree, or that nothing
is. It goes along the tree, as the writer does, and not along a text: a
name is the name that is found where it is written, a value and a text
are what is read in their place, an element is what its name and its
attributes stand for in the scope around it, and of the children the
blank texts are left out.

# Reading and placing

`Assembly.read` scans content and puts it together at once.
`read_tree` and `read_forest` say that reading the text of a tree comes
down to *placing* the tree that `Tree.read?` gives. The induction is on
the tree; what carries it is that a line is broken exactly where no text
stands last, for the writer as for the reader, so that the text of the
break is never joined with another one.

The breaks are blank texts, and closing an element leaves these out.
-/
import Overlay.Proofs.Xml.Scanning

namespace Overlay.Xml

open Text

-- ================================================= elements read again

/-- The name and the value that are read where an attribute is
written. -/
def Attribute.read? (a : Attribute) : Option (QName × String) :=
  (nameOf? a.name.qualified.toList).bind fun name =>
    if a.value.toList.all isXmlChar then
      some (name, String.ofList (readValue a.value.toList))
    else none

/-- What is read where the tag of an element is written: the element
that its name and its attributes stand for in a scope, and the scope
inside. -/
def Element.read? (scope : Scope) (e : Element) :
    Option (Element × Scope) :=
  (nameOf? e.name.qualified.toList).bind fun name =>
    (e.attributes.mapM Attribute.read?).bind fun attributes =>
      if name.nsPrefix == some "xmlns" then none
      else resolveElement scope name attributes

/-- A written attribute is expanded to what is read in its place. -/
theorem run_expandAttributes_cons (expander : Expander) (name : QName)
    (value : String) (raw : List RawAttribute) (n : Nat) :
    (expandAttributes .document expander (⟨name, escape value⟩ :: raw)).run n
      = ((expandAttributes .document expander raw).run n).map fun rest =>
          ((name, String.ofList (readValue value.toList)) :: rest.1,
            rest.2) := by
  have hvalue := run_expandValue expander.value value.toList n
  have hpieces : ((chunks (escape value) : Option (List Chunk)) :
      Expansion (List Chunk)).run n
      = some (value.toList.map chunkOf, n) := by
    rw [chunks_escape]
    rfl
  rw [expandAttributes, List.mapM_cons, ← expandAttributes]
  simp only [StateT.run_bind, hpieces, hvalue, Option.bind_eq_bind,
    Option.bind_some, StateT.run_pure, Option.pure_def]
  cases (expandAttributes .document expander raw).run n <;> rfl

/-- Written attributes are expanded to what is read in their place. -/
theorem run_expandAttributes (expander : Expander) (as : List Attribute)
    (n : Nat) :
    ((as.mapM Attribute.raw?).bind fun raw =>
        (expandAttributes .document expander raw).run n)
      = (as.mapM Attribute.read?).map (·, n) := by
  induction as with
  | nil => rfl
  | cons a as ih =>
      rw [List.mapM_cons, List.mapM_cons, Attribute.raw?, Attribute.read?]
      cases nameOf? a.name.qualified.toList with
      | none => rfl
      | some name =>
          simp only [Option.bind_some]
          by_cases hchars : a.value.toList.all isXmlChar = true
          · rw [if_pos hchars, if_pos hchars]
            simp only [Option.bind_eq_bind, Option.bind_some,
              Option.pure_def]
            cases hraw : as.mapM Attribute.raw? with
            | none =>
                rw [hraw] at ih
                cases hread : as.mapM Attribute.read? with
                | none => rfl
                | some read =>
                    rw [hread] at ih
                    cases ih
            | some raw =>
                rw [hraw, Option.bind_some] at ih
                simp only [Option.bind_some]
                rw [run_expandAttributes_cons, ih]
                cases as.mapM Attribute.read? <;> rfl
          · rw [if_neg hchars, if_neg hchars]
            rfl

namespace Assembly

-- ================================================ reading and scanning

variable {expander : Expander} {a b : Assembly} {depth : Nat}

/-- Reads content, up to the tag that closes the element around it, and
answers what stands behind that tag. -/
def read (expander : Expander) (a : Assembly) (depth : Nat)
    (cs : List Char) : Option (Assembly × List Char) :=
  (Scan.contentWithin cs.length depth cs).bind fun found =>
    ((a.steps .document expander found.1).run 0).map fun done =>
      (done.1, found.2)

/-- Content is read token by token. -/
theorem read_of_token {c : Char} {cs rest : List Char} {t : Token}
    (ht : Scan.token (c :: cs) = some (t, rest)) (next : Option Assembly)
    (hnext : (a.step .document expander t).run 0 = next.map (·, 0)) :
    a.read expander depth (c :: cs)
      = next.bind fun b =>
          match Scan.depthBehind depth t with
          | none => some (b, rest)
          | some d => b.read expander d rest := by
  rw [read, List.length_cons, Scan.contentWithin_succ, ht,
    Option.bind_some]
  have hlen := Scan.length_of_token ht
  cases hd : Scan.depthBehind depth t with
  | none =>
      simp only [Option.bind_some, steps, List.foldlM_cons,
        List.foldlM_nil, StateT.run_bind, hnext]
      cases next <;> rfl
  | some d =>
      simp only [Scan.contentWithin_eq hlen]
      cases next with
      | none =>
          cases Scan.contentWithin rest.length d rest with
          | none => rfl
          | some more =>
              simp only [Option.map_some, Option.bind_some, steps,
                List.foldlM_cons, StateT.run_bind, hnext]
              rfl
      | some b =>
          rw [Option.bind_some, read]
          cases Scan.contentWithin rest.length d rest with
          | none => rfl
          | some more =>
              simp only [Option.map_some, Option.bind_some, steps,
                List.foldlM_cons, StateT.run_bind, hnext]
              rfl

/-- Where no token is found nothing is read. -/
theorem read_of_none {c : Char} {cs : List Char}
    (ht : Scan.token (c :: cs) = none) :
    a.read expander depth (c :: cs) = none := by
  rw [read, List.length_cons, Scan.contentWithin_succ, ht]
  rfl

/-- Goes on behind a closing tag: in the content around the element, or
not at all, if the tag has ended the content that is read. -/
def resume (expander : Expander) (a : Assembly) :
    Nat → List Char → Option (Assembly × List Char)
  | 0, rest => some (a, rest)
  | depth + 1, rest => a.read expander depth rest

-- ================================================================ tags

/-- An assembly with one more element open. -/
def opened (a : Assembly) (name : QName) (e : Element) (inner : Scope) :
    Assembly :=
  { a with
    frames := ⟨name, e, inner, []⟩ :: a.frames
    inText := false
    sawTag := true }

/-- An assembly with one more element, which is closed. -/
def grown (a : Assembly) (e : Element) (children : List Tree) : Assembly :=
  { a.add (.element e children) with sawTag := true }

/-- Where nothing is pending an element is opened with what its names and
attributes stand for in the scope around it, or it is refused. -/
theorem openElement_eq (ha : a.pending = []) (name : QName)
    (attributes : List (QName × String)) :
    a.openElement name attributes
      = if name.nsPrefix == some "xmlns" then none
        else (resolveElement a.scope name attributes).map fun r =>
          a.opened name r.1 r.2 := by
  rw [openElement, beginTag]
  split
  · rfl
  · simp only [Option.bind_eq_bind, Option.bind_some, element, scope, ha,
      List.nil_append]
    cases resolveElement ((a.frames.head?.map (·.scope)).getD []) name
      attributes with
    | none => rfl
    | some r =>
        simp only [Option.bind_some, Option.map_some, opened, ha]
        rfl

/-- And an element without content is added with the same. -/
theorem addElement_eq (ha : a.pending = []) (name : QName)
    (attributes : List (QName × String)) :
    a.addElement name attributes
      = if name.nsPrefix == some "xmlns" then none
        else (resolveElement a.scope name attributes).map fun r =>
          a.grown r.1 [] := by
  rw [addElement, beginTag]
  split
  · rfl
  · simp only [Option.bind_eq_bind, Option.bind_some, element, scope, ha,
      List.nil_append]
    cases resolveElement ((a.frames.head?.map (·.scope)).getD []) name
      attributes with
    | none => rfl
    | some r =>
        simp only [Option.bind_some, Option.map_some, grown, add,
          modifyHere]
        cases a.frames <;> simp [ha]

/-- A reader that goes on behind a tag, where a tag is written: the tag
has the name and the attributes that are read there. `take` is what the
tag does, `go` what the reader does next. -/
theorem of_tag {β : Type} {result : Option β} {e : Element} (he : e.Plain)
    {tail rest : List Char} (tagEnd : Scan.TagEnd)
    (htail : ∀ fuel,
      Scan.attributes (fuel + 1) tail = some ([], tagEnd, rest))
    (hstop : ∀ c ∈ tail.head?, isNameChar c = false)
    (take : QName → List (QName × String) → Option Assembly)
    (htake : ∀ name raw, a.step .document expander (tagEnd.token name raw)
      = (do
          let attributes ← expandAttributes .document expander raw
          (take name attributes : Option Assembly)))
    (go : Assembly → Option β)
    (hnone : Scan.tag (e.name.qualified.toList
      ++ (attributesText e.attributes ++ tail)) = none → result = none)
    (hsome : ∀ name raw, ∀ next : Option Assembly,
      Scan.tag (e.name.qualified.toList
        ++ (attributesText e.attributes ++ tail))
          = some (tagEnd.token name raw, rest) →
      (a.step .document expander (tagEnd.token name raw)).run 0
        = next.map (·, 0) → result = next.bind go) :
    result = (nameOf? e.name.qualified.toList).bind fun name =>
      (e.attributes.mapM Attribute.read?).bind fun attributes =>
        (take name attributes).bind go := by
  have htag := Scan.tag_written htail hstop he
  have hvalues := run_expandAttributes expander e.attributes 0
  cases hname : nameOf? e.name.qualified.toList with
  | none =>
      rw [hname] at htag
      exact hnone htag
  | some name =>
      cases hraw : e.attributes.mapM Attribute.raw? with
      | none =>
          rw [hname, hraw] at htag
          rw [hraw] at hvalues
          rw [hnone htag]
          cases hread : e.attributes.mapM Attribute.read? with
          | none => rfl
          | some values =>
              rw [hread] at hvalues
              cases hvalues
      | some raw =>
          rw [hname, hraw] at htag
          rw [hraw, Option.bind_some] at hvalues
          rw [hsome name raw
            ((e.attributes.mapM Attribute.read?).bind (take name)) htag,
            Option.bind_assoc]
          · rfl
          · rw [htake, StateT.run_bind, hvalues]
            cases e.attributes.mapM Attribute.read? with
            | none => rfl
            | some values => exact Expansion.run_lift (take name values) 0

/-- A reader that goes on behind a written tag that opens an element. -/
theorem of_opening {β : Type} {result : Option β}
    (expander : Expander) {e : Element} (he : e.Plain)
    (ha : a.pending = []) (rest : List Char)
    (go : Assembly → Option β)
    (hnone : Scan.tag (e.name.qualified.toList
      ++ (attributesText e.attributes ++ '>' :: rest)) = none →
        result = none)
    (hsome : ∀ name raw, ∀ next : Option Assembly,
      Scan.tag (e.name.qualified.toList
        ++ (attributesText e.attributes ++ '>' :: rest))
          = some (.opening name raw, rest) →
      (a.step .document expander (.opening name raw)).run 0
        = next.map (·, 0) → result = next.bind go) :
    result = (nameOf? e.name.qualified.toList).bind fun name =>
      (e.read? a.scope).bind fun r => go (a.opened name r.1 r.2) := by
  rw [of_tag he .opens (fun _ => rfl) ?_
    (fun name attributes => a.openElement name attributes)
    (fun _ _ => rfl) go hnone hsome, Element.read?]
  · cases nameOf? e.name.qualified.toList with
    | none => rfl
    | some name =>
        simp only [Option.bind_some]
        cases e.attributes.mapM Attribute.read? with
        | none => rfl
        | some attributes =>
            simp only [Option.bind_some, openElement_eq ha]
            split
            · rfl
            · cases resolveElement a.scope name attributes <;> rfl
  · rintro c hc
    cases hc
    rfl

/-- A reader that goes on behind a written tag that closes its element at
once. -/
theorem of_single {β : Type} {result : Option β}
    (expander : Expander) {e : Element} (he : e.Plain)
    (ha : a.pending = []) (rest : List Char)
    (go : Assembly → Option β)
    (hnone : Scan.tag (e.name.qualified.toList
      ++ (attributesText e.attributes ++ '/' :: '>' :: rest)) = none →
        result = none)
    (hsome : ∀ name raw, ∀ next : Option Assembly,
      Scan.tag (e.name.qualified.toList
        ++ (attributesText e.attributes ++ '/' :: '>' :: rest))
          = some (.single name raw, rest) →
      (a.step .document expander (.single name raw)).run 0
        = next.map (·, 0) → result = next.bind go) :
    result = (e.read? a.scope).bind fun r => go (a.grown r.1 []) := by
  rw [of_tag he .closes (fun _ => rfl) ?_
    (fun name attributes => a.addElement name attributes)
    (fun _ _ => rfl) go hnone hsome, Element.read?]
  · cases nameOf? e.name.qualified.toList with
    | none => rfl
    | some name =>
        simp only [Option.bind_some]
        cases e.attributes.mapM Attribute.read? with
        | none => rfl
        | some attributes =>
            simp only [Option.bind_some, addElement_eq ha]
            split
            · rfl
            · cases resolveElement a.scope name attributes <;> rfl
  · rintro c hc
    cases hc
    rfl

/-- The text of a tag in its parts, for the scan. -/
theorem tagText_append (e : Element) (tail : List Char) :
    tagText e ++ tail = '<' :: (e.name.qualified.toList
      ++ (attributesText e.attributes ++ tail)) := by
  simp [tagText]

/-- A written tag that opens an element. -/
theorem read_opening {e : Element} (he : e.Plain) (ha : a.pending = [])
    (rest : List Char) :
    a.read expander depth (tagText e ++ '>' :: rest)
      = (nameOf? e.name.qualified.toList).bind fun name =>
          (e.read? a.scope).bind fun r =>
            (a.opened name r.1 r.2).read expander (depth + 1) rest := by
  rw [tagText_append]
  have htoken := Scan.token_tag he.name
    (attributesText e.attributes ++ '>' :: rest)
  refine of_opening expander he ha rest
    (fun b => b.read expander (depth + 1) rest) (fun h => ?_)
    fun name raw next h hnext => ?_
  · exact read_of_none (htoken.trans h)
  · exact read_of_token (htoken.trans h) next hnext

/-- A written tag that closes its element at once. -/
theorem read_single {e : Element} (he : e.Plain) (ha : a.pending = [])
    (rest : List Char) :
    a.read expander depth (tagText e ++ '/' :: '>' :: rest)
      = (e.read? a.scope).bind fun r =>
          (a.grown r.1 []).read expander depth rest := by
  rw [tagText_append]
  have htoken := Scan.token_tag he.name
    (attributesText e.attributes ++ '/' :: '>' :: rest)
  refine of_single expander he ha rest
    (fun b => b.read expander depth rest)
    (fun h => ?_) fun name raw next h hnext => ?_
  · exact read_of_none (htoken.trans h)
  · exact read_of_token (htoken.trans h) next hnext

/-- A written tag that closes the innermost element. -/
theorem read_closing {written : List Char} (hw : IsPlain written)
    {name : QName} (hname : nameOf? written = some name) {e : Element}
    {inner : Scope} {inside : List Tree} {frames : List Frame}
    (hframes : a.frames = ⟨name, e, inner, inside⟩ :: frames)
    (hp : a.pending = []) (hs : a.sawTag = true) (rest : List Char) :
    a.read expander depth ('<' :: '/' :: (written ++ '>' :: rest))
      = resume expander
          (grown { a with frames := frames } e (settled inside)) depth
          rest := by
  have htoken := Scan.token_closing hw rest
  rw [hname] at htoken
  have hclose : a.closeElement name
      = some (grown { a with frames := frames } e (settled inside)) := by
    have hresolve : ∀ scope : Scope,
        resolveAttributes scope [] = some ([], scope) := fun _ => rfl
    simp only [closeElement, hs, guard_true, hp, hresolve, hframes,
      Option.bind_eq_bind, Option.bind_some, Option.pure_def,
      beq_self_eq_true, grown, add, modifyHere]
    cases frames <;> simp
  rw [read_of_token htoken (a.closeElement name)
    (Expansion.run_lift _ 0), hclose]
  cases depth <;> rfl

-- =================================================== texts and remarks

/-- A written text, up to the next markup. -/
theorem read_text {s : String} (hs : s ≠ "") (a : Assembly)
    (depth : Nat) (rest : List Char) :
    a.read expander depth (escape s ++ '<' :: rest)
      = if s.toList.all isXmlChar then
          (a.addText (readText s)).read expander depth ('<' :: rest)
        else none := by
  have htoken := Scan.token_text (escape_ne_nil hs)
    (not_mem_escape s (.inl rfl)) (not_mem_escape s (.inr (.inl rfl))) rest
  rw [all_isXmlChar_escape] at htoken
  obtain ⟨c, cs, hc⟩ := List.exists_cons_of_ne_nil (escape_ne_nil hs)
  rw [hc, List.cons_append] at htoken ⊢
  split
  case isTrue hchars =>
      rw [if_pos hchars] at htoken
      rw [read_of_token htoken (some (a.addText (readText s)))]
      · rfl
      · rw [step, StateT.run_bind, Expansion.run_lift, ← hc,
          chunks_escape]
        exact run_addChunks expander s.toList .empty
          (fun h => by cases h) a 0
  case isFalse hchars =>
      rw [if_neg hchars] at htoken
      exact read_of_none htoken

/-- A written comment is read again, and the reading goes on behind it. -/
theorem read_comment {s : String} (h : IsComment s.toList)
    (rest : List Char) :
    a.read expander depth
        ("<!--".toList ++ s.toList ++ "-->".toList ++ rest)
      = (a.add (.comment s)).read expander depth rest := by
  have htext : "<!--".toList ++ s.toList ++ "-->".toList ++ rest
      = '<' :: '!' :: '-' :: '-'
        :: (s.toList ++ '-' :: '-' :: '>' :: rest) := by
    simp
  rw [htext, read_of_token (Scan.token_comment h rest)
    (some (a.add (.comment s))) rfl]
  rfl

/-- A written instruction is read again unless it looks like the declaration of
a document, which is refused inside of one. -/
theorem read_instruction {t : String} {d : Option String}
    (ht : IsTarget t.toList) (hd : ∀ s, d = some s → IsData s.toList)
    (rest : List Char) :
    a.read expander depth
        ('<' :: '?' :: (instructionText t d ++ '?' :: '>' :: rest))
      = if isDeclaration t d then none
        else (a.add (.instruction t d)).read expander depth rest := by
  have htoken := Scan.token_instruction ht hd rest
  split
  case isTrue hx =>
      rw [if_pos hx] at htoken
      exact read_of_none htoken
  case isFalse hx =>
      rw [if_neg hx] at htoken
      rw [read_of_token htoken
        (some (a.add (.instruction t d))) rfl]
      rfl

end Assembly

-- ==================================================== trees read again

/-- Whether a tree is anything but a blank text. -/
def Tree.isVisible : Tree → Bool
  | .text s => !isBlankText s
  | _ => true

mutual

/-- What is read where a tree is written in a scope. -/
def Tree.read? (scope : Scope) : Tree → Option Tree
  | .element e children =>
    (e.read? scope).bind fun r =>
      (readAll? r.2 children).map fun read =>
        .element r.1 (read.filter Tree.isVisible)
  | .text s =>
    if s.toList.all isXmlChar then some (.text (readText s)) else none
  | .comment s => some (.comment s)
  | .instruction t d =>
    if isDeclaration t d then none else some (.instruction t d)

/-- What is read where trees are written one after the other. -/
def readAll? (scope : Scope) : List Tree → Option (List Tree)
  | [] => some []
  | t :: rest =>
    (t.read? scope).bind fun read =>
      (readAll? scope rest).map fun more => read :: more

end

/-- A node that can be written, as far as its names go. -/
def NodeKind.Plain : NodeKind → Prop
  | .element e => e.Plain
  | .text s => s ≠ ""
  | .comment s => IsComment s.toList
  | .instruction t d => IsTarget t.toList ∧ ∀ s, d = some s → IsData s.toList

/-- Whether a tree is a text. -/
def Tree.isText : Tree → Bool
  | .text _ => true
  | _ => false

mutual

/-- Whether no two texts stand next to each other below a tree. -/
def Tree.Merged : Tree → Prop
  | .element _ children => MergedAll children
  | _ => True

/-- Whether no two texts stand next to each other in trees and below
them. -/
def MergedAll : List Tree → Prop
  | [] => True
  | t :: rest =>
    t.Merged ∧ (t.isText = true → ∀ u ∈ rest.head?, u.isText = false)
      ∧ MergedAll rest

end

namespace Assembly

variable {expander : Expander} {a b : Assembly} {depth : Nat}

/-- Adds a text of its own. -/
def push (a : Assembly) (s : String) : Assembly :=
  { a.modifyHere (.text s :: ·) with inText := true }

/-- Breaks the line, unless a text stands last. -/
def breakLine (indent level : Nat) (a : Assembly) : Assembly :=
  if !a.inText && indent > 0 then
    a.push (String.ofList ('\n' :: List.replicate (level * indent) ' '))
  else a

/-- Adds a tree as it is added where it is written. -/
def place (indent level : Nat) (a : Assembly) : Tree → Assembly
  | .text s => a.push s
  | t => (a.breakLine indent level).add t

/-- A text that is not empty is pushed where no text stands last. -/
theorem addText_eq (ha : a.inText = false) {s : String} (hs : s ≠ "") :
    a.addText s = a.push s := by
  have htext : withText false s = (.text s :: ·) := by
    funext read
    unfold withText
    split <;> rfl
  rw [addText, if_neg (by simpa using hs), ha, htext, push]

/-- A line that is broken where markup follows. -/
theorem read_markup (indent level : Nat) (text : List Char)
    (ps : List Piece) :
    a.read expander depth
        (layout indent (!a.inText) (.markup level ('<' :: text) :: ps))
      = (a.breakLine indent level).read expander depth
          ('<' :: (text ++ layout indent true ps)) := by
  rw [layout, breakLine, List.append_assoc, List.cons_append]
  generalize text ++ layout indent true ps = rest
  split
  case isFalse => rfl
  case isTrue h =>
      have hmem : ∀ c ∈ '\n' :: List.replicate (level * indent) ' ',
          c = '\n' ∨ c = ' ' := by
        intro c hc
        rw [List.mem_cons, List.mem_replicate] at hc
        exact hc.imp_right (·.2)
      have hin : a.inText = false := by
        simp only [Bool.and_eq_true, Bool.not_eq_true'] at h
        exact h.1
      have hread : a.read expander depth _ = _ := read_text
        (s := String.ofList ('\n' :: List.replicate (level * indent) ' '))
        (by simp) a depth rest
      rw [escape_of_not_escaped, String.toList_ofList, if_pos,
        readText_eq_self_iff.mpr (returnsKept_of_not_mem ?_ _),
        addText_eq hin (by simp)] at hread
      · exact hread
      · rw [String.toList_ofList]
        intro hc
        rcases hmem _ hc with hc | hc <;> cases hc
      · rw [List.all_eq_true]
        intro c hc
        rcases hmem c hc with rfl | rfl <;> rfl
      · intro c hc
        rcases hmem c hc with rfl | rfl <;> rfl

-- ================================================ what placing changes

@[simp] theorem scope_modifyHere (f : List Tree → List Tree) :
    (a.modifyHere f).scope = a.scope := by
  rw [modifyHere, scope, scope]
  cases a.frames <;> rfl

@[simp] theorem pending_modifyHere (f : List Tree → List Tree) :
    (a.modifyHere f).pending = a.pending := by
  rw [modifyHere]
  cases a.frames <;> rfl

@[simp] theorem sawTag_modifyHere (f : List Tree → List Tree) :
    (a.modifyHere f).sawTag = a.sawTag := by
  rw [modifyHere]
  cases a.frames <;> rfl

/-- Two changes in one place are one. -/
theorem modifyHere_modifyHere (f g : List Tree → List Tree) (j : Bool) :
    ({ a.modifyHere f with inText := j } : Assembly).modifyHere g
      = { a.modifyHere (fun read => g (f read)) with inText := j } := by
  rw [modifyHere, modifyHere, modifyHere]
  cases a.frames <;> rfl

/-- Where content is read: inside an element, with no tag left without
its end. -/
structure Ready (a : Assembly) : Prop where
  pending : a.pending = []
  sawTag : a.sawTag = true

/-- Of what was read in one place, the blank texts are left out one by one. -/
theorem settled_cons (t : Tree) (read : List Tree) :
    settled (t :: read) = settled read ++ [t].filter Tree.isVisible := by
  rw [settled, settled, List.reverse_cons, List.filter_append]
  congr 1

/-- The break of a line is blank. -/
theorem breakLine_eq (indent level : Nat) (a : Assembly) :
    ∃ f, a.breakLine indent level
        = { a.modifyHere f with inText := (a.breakLine indent level).inText }
      ∧ ∀ read, settled (f read) = settled read := by
  rw [breakLine]
  split
  case isFalse =>
      refine ⟨id, ?_, fun _ => rfl⟩
      rw [modifyHere]
      cases hf : a.frames <;> simp [← hf]
  case isTrue =>
      have hblank : Tree.isVisible (.text (String.ofList
          ('\n' :: List.replicate (level * indent) ' '))) = false := by
        have hall : ∀ k, (List.replicate k ' ').all isBlank = true := by
          intro k
          rw [List.all_replicate]
          cases k <;> rfl
        have hbreak : isBlank '\n' = true := rfl
        simp only [Tree.isVisible, isBlankText, String.toList_ofList,
          List.all_cons, hbreak, hall, Bool.and_self, Bool.not_true]
      refine ⟨_, rfl, fun read => ?_⟩
      rw [settled_cons, List.filter_cons_of_neg (by rw [hblank]; simp),
        List.filter_nil, List.append_nil]

/-- What changes where a tree is placed is what was read, and whether a
text stands last. -/
theorem place_eq (indent level : Nat) (a : Assembly) (t : Tree) :
    ∃ f, a.place indent level t
        = { a.modifyHere f with inText := t.isText }
      ∧ ∀ read, settled (f read)
          = settled read ++ [t].filter Tree.isVisible := by
  have hadd : ∃ f, (a.breakLine indent level).add t
      = { a.modifyHere f with inText := false }
      ∧ ∀ read, settled (f read)
          = settled read ++ [t].filter Tree.isVisible := by
    obtain ⟨f, hf, hread⟩ := breakLine_eq indent level a
    refine ⟨fun read => t :: f read, ?_, fun read => ?_⟩
    · rw [hf, add, modifyHere_modifyHere]
    · rw [settled_cons, hread]
  cases t with
  | text s => exact ⟨(.text s :: ·), rfl, settled_cons (.text s)⟩
  | _ => exact hadd

/-- Adds trees as they are added where they are written. -/
def placeAll (indent level : Nat) (a : Assembly) (ts : List Tree) :
    Assembly :=
  ts.foldl (place indent level) a

/-- Trees that are placed in a row change the place that they are put in and
nothing else. The induction is on the trees, with the place as it is after
each. -/
theorem placeAll_eq (indent level : Nat) (a : Assembly)
    (ts : List Tree) :
    ∃ f j, a.placeAll indent level ts = { a.modifyHere f with inText := j }
      ∧ ∀ read, settled (f read)
          = settled read ++ ts.filter Tree.isVisible := by
  induction ts generalizing a with
  | nil =>
      refine ⟨id, a.inText, ?_, by simp⟩
      rw [placeAll, List.foldl_nil, modifyHere]
      cases hf : a.frames <;> simp [← hf]
  | cons t ts ih =>
      obtain ⟨f, hf, hread⟩ := place_eq indent level a t
      obtain ⟨g, j, hg, hmore⟩ := ih (a.place indent level t)
      refine ⟨fun read => g (f read), j, ?_, fun read => ?_⟩
      · rw [placeAll, List.foldl_cons, ← placeAll, hg, hf,
          modifyHere_modifyHere]
      · rw [hmore, hread, List.append_assoc, ← List.filter_append,
          List.singleton_append]

/-- Whether a text stands last depends on the tree that was placed last. -/
theorem inText_place (indent level : Nat) (a : Assembly) (t : Tree) :
    (a.place indent level t).inText = t.isText := by
  obtain ⟨f, hf, -⟩ := place_eq indent level a t
  rw [hf]

theorem scope_place (indent level : Nat) (a : Assembly) (t : Tree) :
    (a.place indent level t).scope = a.scope := by
  obtain ⟨f, hf, -⟩ := place_eq indent level a t
  rw [hf]
  exact scope_modifyHere f

/-- Placing a tree leaves nothing pending. -/
theorem Ready.place (ha : a.Ready) (indent level : Nat) (t : Tree) :
    (a.place indent level t).Ready := by
  obtain ⟨f, hf, -⟩ := place_eq indent level a t
  rw [hf]
  exact ⟨(pending_modifyHere f).trans ha.pending,
    (sawTag_modifyHere f).trans ha.sawTag⟩

theorem scope_breakLine (indent level : Nat) (a : Assembly) :
    (a.breakLine indent level).scope = a.scope := by
  rw [breakLine]
  split
  · exact scope_modifyHere _
  · rfl

/-- The break of a line leaves nothing pending. -/
theorem Ready.breakLine (ha : a.Ready) (indent level : Nat) :
    (a.breakLine indent level).Ready := by
  rw [Assembly.breakLine]
  split
  · exact ⟨(pending_modifyHere _).trans ha.pending,
      (sawTag_modifyHere _).trans ha.sawTag⟩
  · exact ha

end Assembly

-- ======================================================= reading trees

/-- Pieces that begin with markup. -/
def StartsMarkup (ps : List Piece) : Prop :=
  ∃ level text rest, ps = .markup level ('<' :: text) :: rest

/-- A tree that is no text begins with markup, in front of which no break is
joined with a text. -/
theorem startsMarkup_pieces {t : Tree} (ht : t.isText = false)
    (level : Nat) (ps : List Piece) :
    StartsMarkup (t.pieces level ++ ps) := by
  cases t with
  | element e children =>
      cases children with
      | nil => exact ⟨level, _, _, rfl⟩
      | cons c cs => exact ⟨level, _, _, rfl⟩
  | text s => cases ht
  | comment s => exact ⟨level, _, _, rfl⟩
  | instruction t d => exact ⟨level, _, _, rfl⟩

/-- What is read where a text is written is a text, and where something
else is written, something else. -/
theorem isText_of_read? {scope : Scope} {t read : Tree}
    (h : t.read? scope = some read) : read.isText = t.isText := by
  cases t with
  | element e children =>
      rw [Tree.read?, Option.bind_eq_some_iff] at h
      obtain ⟨r, -, h⟩ := h
      obtain ⟨_, -, rfl⟩ := Option.map_eq_some_iff.mp h
      rfl
  | text s =>
      rw [Tree.read?] at h
      split at h
      · cases h
        rfl
      · cases h
  | comment s =>
      cases h
      rfl
  | instruction t d =>
      rw [Tree.read?] at h
      split at h
      · cases h
      · cases h
        rfl

/-- The tag that closes an element. -/
def closingTag (e : Element) : List Char :=
  '<' :: '/' :: e.name.qualified.toList ++ ['>']

namespace Assembly

/-- Once a tag has been seen, an element that grows is added like any other
tree. -/
theorem grown_eq {a : Assembly} (ha : a.sawTag = true) (e : Element)
    (children : List Tree) :
    a.grown e children = a.add (.element e children) := by
  rw [grown, add, modifyHere]
  cases a.frames <;> rw [ha]

/-- Reading the content of an element up to its closing tag, given what
reading its children comes down to. -/
theorem read_inside (expander : Expander) (indent level : Nat)
    {a : Assembly} (ha : a.pending = []) {e : Element} (he : e.Plain)
    {name : QName} (hname : nameOf? e.name.qualified.toList = some name)
    (e' : Element) (inner : Scope) (read : List Tree) (depth : Nat)
    (ps : List Piece) :
    let b := (a.opened name e' inner).placeAll indent (level + 1) read
    b.read expander depth
        (layout indent (!b.inText) (.markup level (closingTag e) :: ps))
      = resume expander (a.grown e' (read.filter Tree.isVisible)) depth
          (layout indent true ps) := by
  obtain ⟨f, j, hb, hread⟩ := placeAll_eq indent (level + 1)
    (a.opened name e' inner) read
  intro b
  obtain ⟨g, hc, hblank⟩ := breakLine_eq indent level b
  have hsettled : settled (g (f [])) = read.filter Tree.isVisible := by
    rw [hblank, hread]
    rfl
  -- only the innermost element has changed since it was opened
  obtain ⟨k, hc⟩ : ∃ k, b.breakLine indent level
      = { a with
          frames := ⟨name, e', inner, g (f [])⟩ :: a.frames
          inText := k
          sawTag := true } := by
    refine ⟨(b.breakLine indent level).inText, hc.trans ?_⟩
    have hb : b = { (a.opened name e' inner).modifyHere f with
        inText := j } := hb
    rw [hb]
    rfl
  have htext : '/' :: e.name.qualified.toList ++ ['>']
      ++ layout indent true ps
      = '/' :: (e.name.qualified.toList ++ '>' :: layout indent true ps) := by
    simp
  have hgrown : grown { b.breakLine indent level with frames := a.frames }
      e' (settled (g (f []))) = a.grown e' (read.filter Tree.isVisible) := by
    rw [hsettled, hc, grown, grown, add, add, modifyHere, modifyHere]
    cases a.frames <;> rfl
  rw [closingTag, List.cons_append, read_markup, htext,
    read_closing he.name hname (by rw [hc]) (by rw [hc, ha])
      (by rw [hc])]
  rw [hgrown]

/-- Reading an element behind its opening tag, given what reading its
children comes down to. -/
theorem read_element (expander : Expander) (indent level : Nat)
    {a : Assembly} (ha : a.pending = []) {e : Element} (he : e.Plain)
    {children : List Tree} (depth : Nat) (ps : List Piece)
    (hchildren : ∀ b : Assembly, b.Ready → b.inText = false →
      b.read expander depth (layout indent (!b.inText)
          (piecesOfAll (level + 1) children
            ++ .markup level (closingTag e) :: ps))
        = (readAll? b.scope children).bind fun read =>
            let c := b.placeAll indent (level + 1) read
            c.read expander depth
              (layout indent (!c.inText)
                (.markup level (closingTag e) :: ps))) :
    ((nameOf? e.name.qualified.toList).bind fun name =>
        (e.read? a.scope).bind fun r =>
          (a.opened name r.1 r.2).read expander depth
            (layout indent true (piecesOfAll (level + 1) children
              ++ .markup level (closingTag e) :: ps)))
      = (e.read? a.scope).bind fun r =>
          (readAll? r.2 children).bind fun read =>
            resume expander (a.grown r.1 (read.filter Tree.isVisible))
              depth (layout indent true ps) := by
  cases hname : nameOf? e.name.qualified.toList with
  | none =>
      rw [Element.read?, hname]
      rfl
  | some name =>
      rw [Option.bind_some]
      cases e.read? a.scope with
      | none => rfl
      | some r =>
          have hinner : (a.opened name r.1 r.2).scope = r.2 := rfl
          rw [Option.bind_some, Option.bind_some]
          refine (hchildren (a.opened name r.1 r.2) ⟨ha, rfl⟩ rfl).trans ?_
          rw [hinner]
          cases readAll? r.2 children with
          | none => rfl
          | some read =>
              exact read_inside expander indent level ha he hname r.1 r.2
                read depth ps

end Assembly

mutual

/-- Reading a written tree comes down to placing what is read there. -/
theorem read_tree {expander : Expander} (indent level : Nat) (t : Tree)
    (ht : t.All NodeKind.Plain) (hm : t.Merged) {a : Assembly}
    (ha : a.Ready) {ps : List Piece}
    (htext : t.isText = true → a.inText = false ∧ StartsMarkup ps)
    (depth : Nat) :
    a.read expander depth (layout indent (!a.inText) (t.pieces level ++ ps))
      = (t.read? a.scope).bind fun read =>
          (a.place indent level read).read expander depth
            (layout indent (!t.isText) ps) := by
  have hbreak := ha.breakLine indent level
  have hscope := Assembly.scope_breakLine indent level a
  cases t with
  | text s =>
      -- no line is broken before a text or behind it
      obtain ⟨hin, _, text, rest, rfl⟩ := htext rfl
      rw [Tree.pieces, List.singleton_append, layout, layout,
        Bool.false_and, if_neg (by simp), List.nil_append,
        List.cons_append, Assembly.read_text ht, Tree.read?]
      split
      · rw [Assembly.addText_eq hin (readText_ne_empty ht)]
        rfl
      · rfl
  | comment s =>
      have hread : (a.breakLine indent level).read expander depth _ = _ :=
        Assembly.read_comment ht (layout indent true ps)
      have hmark : "<!--".toList ++ s.toList ++ "-->".toList
          = '<' :: ('!' :: '-' :: '-' :: s.toList ++ "-->".toList) := rfl
      rw [hmark, List.cons_append] at hread
      rw [Tree.pieces, List.singleton_append, hmark, Assembly.read_markup,
        hread]
      rfl
  | instruction t d =>
      have hread : (a.breakLine indent level).read expander depth _ = _ :=
        Assembly.read_instruction ht.1 ht.2 (layout indent true ps)
      have htext : '?' :: instructionText t d ++ ['?', '>']
          ++ layout indent true ps
          = '?' :: (instructionText t d ++ '?' :: '>'
            :: layout indent true ps) := by simp
      rw [Tree.pieces, List.singleton_append, List.cons_append,
        Assembly.read_markup, htext, hread, Tree.read?]
      split <;> rfl
  | element e children =>
      -- the tag, with its bracket in front as `read_markup` wants it
      have htag := fun tail => (Assembly.tagText_append e tail).trans
        (congrArg _ (List.append_assoc ..).symm)
      cases children with
      | nil =>
          have hread : (a.breakLine indent level).read expander depth _
              = _ := Assembly.read_single ht.1 hbreak.pending
                (layout indent true ps)
          rw [htag, hscope] at hread
          rw [Tree.pieces, List.singleton_append, htag,
            Assembly.read_markup, List.append_assoc, List.cons_append,
            List.singleton_append, hread, Tree.read?]
          cases e.read? a.scope with
          | none => rfl
          | some r =>
              simp only [Option.bind_some,
                Assembly.grown_eq hbreak.sawTag]
              rfl
      | cons c cs =>
          have hread : (a.breakLine indent level).read expander depth _
              = _ := Assembly.read_opening ht.1 hbreak.pending
                (layout indent true (piecesOfAll (level + 1) (c :: cs)
                  ++ .markup level (closingTag e) :: ps))
          have hpieces : (Tree.element e (c :: cs)).pieces level ++ ps
              = .markup level (tagText e ++ ['>'])
                :: (piecesOfAll (level + 1) (c :: cs)
                  ++ .markup level (closingTag e) :: ps) := by
            rw [Tree.pieces, closingTag]
            · simp
            · simp
          rw [htag, hscope] at hread
          have hclosing : StartsMarkup
              (.markup level (closingTag e) :: ps) := ⟨level, _, _, rfl⟩
          rw [hpieces, htag, Assembly.read_markup, List.append_assoc,
            List.singleton_append, hread, ← hscope,
            Assembly.read_element expander indent level hbreak.pending ht.1
              (depth + 1) ps fun b hb hin =>
                read_forest indent (level + 1) (c :: cs) ht.2 hm hb
                  hclosing (fun _ _ _ => hin) (depth + 1), hscope,
            Tree.read?]
          cases e.read? a.scope with
          | none => rfl
          | some r =>
              simp only [Option.bind_some,
                Assembly.grown_eq hbreak.sawTag]
              cases readAll? r.2 (c :: cs) <;> rfl

/-- Reading written trees comes down to placing what is read there. -/
theorem read_forest {expander : Expander} (indent level : Nat)
    (ts : List Tree) (ht : AllOf NodeKind.Plain ts) (hm : MergedAll ts)
    {a : Assembly} (ha : a.Ready) {ps : List Piece}
    (hps : StartsMarkup ps)
    (htext : ∀ t ∈ ts.head?, t.isText = true → a.inText = false)
    (depth : Nat) :
    a.read expander depth
        (layout indent (!a.inText) (piecesOfAll level ts ++ ps))
      = (readAll? a.scope ts).bind fun read =>
          let b := a.placeAll indent level read
          b.read expander depth (layout indent (!b.inText) ps) := by
  cases ts with
  | nil => rfl
  | cons t rest =>
      have hbehind : t.isText = true →
          StartsMarkup (piecesOfAll level rest ++ ps) := by
        intro hisText
        cases rest with
        | nil => exact hps
        | cons u rest =>
            rw [piecesOfAll, List.append_assoc]
            exact startsMarkup_pieces (hm.2.1 hisText u rfl) level _
      rw [piecesOfAll, List.append_assoc, read_tree indent level t ht.1
        hm.1 ha (fun hi => ⟨htext t rfl hi, hbehind hi⟩) depth, readAll?]
      cases hread : t.read? a.scope with
      | none => rfl
      | some read =>
          have hkind := isText_of_read? hread
          have hin := Assembly.inText_place indent level a read
          have hscope := Assembly.scope_place indent level a read
          rw [Option.bind_some, ← hkind, ← hin,
            read_forest indent level rest ht.2 hm.2.2
              (ha.place indent level read) hps ?_ depth, hscope]
          · cases readAll? a.scope rest <;> rfl
          · intro u hu hisText
            cases hti : t.isText with
            | false => rw [hin, hkind, hti]
            | true =>
                rw [hm.2.1 hti u hu] at hisText
                cases hisText

end

-- ==================================================== reading the root

namespace Assembly

variable {expander : Expander} {a : Assembly}

/-- Reads the element at the start of a text, and answers what stands
behind it. -/
def readElement (expander : Expander) (a : Assembly) (cs : List Char) :
    Option (Assembly × List Char) :=
  (Scan.element cs).bind fun found =>
    ((a.steps .document expander found.1).run 0).map fun done =>
      (done.1, found.2)

/-- Without a tag at its beginning no element is read. -/
theorem readElement_of_none {cs : List Char} (h : Scan.tag cs = none) :
    a.readElement expander ('<' :: cs) = none := by
  rw [readElement, Scan.element, h]
  rfl

/-- Behind an opening tag the content is read up to the tag that closes it. -/
theorem readElement_of_opening {cs rest : List Char} {name : QName}
    {raw : List RawAttribute}
    (h : Scan.tag cs = some (.opening name raw, rest))
    (next : Option Assembly)
    (hnext : (a.step .document expander (.opening name raw)).run 0
      = next.map (·, 0)) :
    a.readElement expander ('<' :: cs)
      = next.bind fun b => b.read expander 0 rest := by
  rw [readElement, Scan.element, h]
  simp only [Option.bind_eq_bind, Option.bind_some, Scan.content]
  cases next with
  | none =>
      cases Scan.contentWithin rest.length 0 rest with
      | none => rfl
      | some more =>
          simp only [Option.bind_some, Option.pure_def, steps,
            List.foldlM_cons, StateT.run_bind, hnext]
          rfl
  | some b =>
      rw [Option.bind_some, read]
      cases Scan.contentWithin rest.length 0 rest with
      | none => rfl
      | some more =>
          simp only [Option.bind_some, Option.pure_def, steps,
            List.foldlM_cons, StateT.run_bind, hnext]
          rfl

/-- Behind a tag that stands alone there is no content to read. -/
theorem readElement_of_single {cs rest : List Char} {name : QName}
    {raw : List RawAttribute}
    (h : Scan.tag cs = some (.single name raw, rest))
    (next : Option Assembly)
    (hnext : (a.step .document expander (.single name raw)).run 0
      = next.map (·, 0)) :
    a.readElement expander ('<' :: cs)
      = next.bind fun b => some (b, rest) := by
  rw [readElement, Scan.element, h]
  simp only [Option.bind_eq_bind, Option.bind_some, Option.pure_def, steps,
    List.foldlM_cons, List.foldlM_nil, StateT.run_bind, hnext]
  cases next <;> rfl

/-- Reading a written element at the start of a text. -/
theorem readElement_written (expander : Expander) (indent level : Nat)
    (ha : a.pending = []) {e : Element} (he : e.Plain)
    {children : List Tree} (hc : AllOf NodeKind.Plain children)
    (hm : MergedAll children) (ps : List Piece) :
    a.readElement expander (layout indent false
        ((Tree.element e children).pieces level ++ ps))
      = (e.read? a.scope).bind fun r =>
          (readAll? r.2 children).map fun read =>
            (a.grown r.1 (read.filter Tree.isVisible),
              layout indent true ps) := by
  cases children with
  | nil =>
      have htext : layout indent false
          ((Tree.element e []).pieces level ++ ps)
          = '<' :: (e.name.qualified.toList ++ (attributesText e.attributes
            ++ '/' :: '>' :: layout indent true ps)) := by
        simp [Tree.pieces, layout, tagText]
      rw [htext]
      refine of_single expander he ha (layout indent true ps)
        (fun b => some (b, layout indent true ps)) (fun h => ?_)
        fun name raw next h hnext => ?_
      · exact readElement_of_none h
      · exact readElement_of_single h next hnext
  | cons c cs =>
      have htext : layout indent false
          ((Tree.element e (c :: cs)).pieces level ++ ps)
          = '<' :: (e.name.qualified.toList ++ (attributesText e.attributes
            ++ '>' :: layout indent true (piecesOfAll (level + 1) (c :: cs)
              ++ .markup level (closingTag e) :: ps))) := by
        simp [Tree.pieces, layout, tagText, closingTag]
      have htag := of_opening expander he ha _
        (fun b => b.read expander 0 (layout indent true
          (piecesOfAll (level + 1) (c :: cs)
            ++ .markup level (closingTag e) :: ps)))
        (fun h => readElement_of_none h)
        (fun name raw next h hnext => readElement_of_opening h next hnext)
      have hclosing : StartsMarkup
          (.markup level (closingTag e) :: ps) := ⟨level, _, _, rfl⟩
      rw [htext, htag, read_element expander indent level ha he 0 ps
        fun b hb hin => read_forest indent (level + 1) (c :: cs) hc hm hb
          hclosing (fun _ _ _ => hin) 0]
      cases e.read? a.scope with
      | none => rfl
      | some r =>
          rw [Option.bind_some, Option.bind_some]
          cases readAll? r.2 (c :: cs) <;> rfl

end Assembly

end Overlay.Xml
