/-
Documents that are written and read again.

# What comes back

The names of a document that was read can be written and found again
(`nameOf?_qualified`). Everything else may change on the way:

- White space in a value is read as spaces, and a CR in a text as a line
  end, unless a special character protects it.
- The prefix of a name is looked up by its URI when it is read, so what
  is written may stand for another name, or for none.
- Declarations that hold outside are not kept, and with them goes the
  order in which prefixes are searched.
- An instruction that looks like a declaration cannot be written.

A *stable* document has none of this. `parse_write_iff` says that the
stable documents are the ones that come back, however they are written.

# How it is shown

`read?_eq_some_self_iff` looks at one tree. The induction is on the
tree, in its scope; that children are not lost follows by counting them.
What is read in the place of a value holds no white space but spaces, so
an element that comes back has only such values itself.
-/
import Overlay.Proofs.Xml.Documents

namespace Overlay.Xml

open Text

-- =============================================================== names

theorem toList_qualified (p l : String) :
    (QName.qualified ⟨some p, l⟩).toList = p.toList ++ ':' :: l.toList := by
  simp [QName.qualified]

theorem IsPart.ne_nil {part : List Char} (h : IsPart part) : part ≠ [] := by
  rintro rfl
  cases h.starts

namespace QName.Spelled

variable {name : QName}

/-- A spelled name is written in characters of names. -/
theorem chars (h : name.Spelled) :
    ∀ c ∈ name.qualified.toList, isNameChar c = true := by
  obtain ⟨p, l⟩ := name
  cases p with
  | none => exact h.localPart.chars
  | some p =>
      have hp := h.prefixPart p rfl
      intro c hc
      rw [toList_qualified, List.mem_append, List.mem_cons] at hc
      rcases hc with hc | rfl | hc
      · exact hp.chars c hc
      · rfl
      · exact h.localPart.chars c hc

theorem isPlain (h : name.Spelled) : IsPlain name.qualified.toList := by
  refine ⟨?_, fun c hc => .inl (h.chars c hc)⟩
  obtain ⟨p, l⟩ := name
  cases p with
  | none => exact h.localPart.ne_nil
  | some p =>
      rw [toList_qualified]
      simp

/-- A spelled name is found where it is written. -/
theorem nameOf?_qualified (h : name.Spelled) :
    nameOf? name.qualified.toList = some name := by
  have hchars := h.chars
  have htake : name.qualified.toList.takeWhile isNameChar
      = name.qualified.toList := by
    rw [List.takeWhile_eq_self_iff]
    exact hchars
  rw [nameOf?, if_pos (List.all_eq_true.mpr hchars), Scan.qname, htake]
  obtain ⟨p, l⟩ := name
  have hl := h.localPart
  cases p with
  | none =>
      have hsplit : splitOn ':' (QName.qualified ⟨none, l⟩).toList
          = [l.toList] := splitOn_of_not_mem hl.noColon
      rw [hsplit]
      simp only [hl.starts, if_true]
      simp
  | some p =>
      have hp := h.prefixPart p rfl
      have hsplit : splitOn ':' (QName.qualified ⟨some p, l⟩).toList
          = [p.toList, l.toList] := by
        rw [toList_qualified, splitOn_append hp.noColon,
          splitOn_of_not_mem hl.noColon]
      have hne : p.toList.isEmpty = false := by
        rw [List.isEmpty_eq_false_iff]
        exact hp.ne_nil
      rw [hsplit]
      simp only [hl.starts, hp.starts, hne, Bool.not_true]
      simp

end QName.Spelled

/-- What was read can be written. -/
theorem NodeKind.Spelled.plain {kind : NodeKind} (h : kind.Spelled) :
    kind.Plain := by
  cases kind with
  | element e => exact ⟨h.1.isPlain, fun a ha => (h.2 a ha).isPlain⟩
  | _ => exact h

/-- A document that was read can be written. -/
theorem Content.Spelled.plain {c : Content} (h : c.Spelled) : c.Plain where
  isElement := h.isElement
  root := h.root.imp fun _ => NodeKind.Spelled.plain
  prolog t ht := (h.prolog t ht).imp_right (·.imp fun _ =>
    NodeKind.Spelled.plain)
  epilog t ht := (h.epilog t ht).imp_right (·.imp fun _ =>
    NodeKind.Spelled.plain)
  epilogText := h.epilogText

-- ============================================================ elements

/-- Whether a value is read back as it is. -/
def StableValue (value : String) : Prop :=
  value.toList.all isXmlChar = true
    ∧ ∀ c ∈ value.toList, c ≠ '\t' ∧ c ≠ '\n' ∧ c ≠ '\r'

/-- Whether a tag that is written in a scope stands for the element that
it was written for; `inner` is the scope inside. -/
structure Element.Stable (e : Element) (scope inner : Scope) : Prop where
  values : ∀ a ∈ e.attributes, StableValue a.value
  noDeclaration : e.name.nsPrefix ≠ some "xmlns"
  resolved : resolveElement scope e.name
    (e.attributes.map fun a => (a.name, a.value)) = some (e, inner)

/-- What is read where an attribute with a spelled name is written. -/
theorem Attribute.read?_of_spelled {a : Attribute} (h : a.name.Spelled) :
    a.read? = if a.value.toList.all isXmlChar then
        some (a.name, String.ofList (readValue a.value.toList))
      else none := by
  rw [read?, h.nameOf?_qualified, Option.bind_some]

/-- Spelled attributes are read again with their names, provided that documents
can hold their values. -/
theorem mapM_read? {as : List Attribute}
    (hs : ∀ a ∈ as, a.name.Spelled) :
    as.mapM Attribute.read?
      = if as.all (fun a => a.value.toList.all isXmlChar) then
          some (as.map fun a =>
            (a.name, String.ofList (readValue a.value.toList)))
        else none := by
  induction as with
  | nil => rfl
  | cons a as ih =>
      rw [List.mapM_cons, ih fun b hb => hs b (List.mem_cons_of_mem a hb),
        Attribute.read?_of_spelled (hs a (List.mem_cons_self ..)),
        List.all_cons]
      cases a.value.toList.all isXmlChar with
      | false => rfl
      | true =>
          rw [Bool.true_and, if_pos rfl]
          split <;> rfl

/-- A declaration is about the value of the attribute that makes it. -/
theorem snd_of_bindingOf {before : Scope} {name : QName} {value : String}
    {b : Binding} (h : bindingOf before name value = some (some b)) :
    b.2 = value := by
  simp only [bindingOf] at h
  split at h
  · split at h
    · cases h
    · split at h
      · cases h
      · cases h
        rfl
  · split at h
    · split at h
      · cases h
      · cases h
        rfl
    · cases h

/-- What an element stands for has no values but those of its
attributes. -/
theorem value_of_resolveElement {scope inner : Scope} {name : QName}
    {attributes : List (QName × String)} {e : Element}
    (h : resolveElement scope name attributes = some (e, inner)) :
    ∀ a ∈ e.attributes, ∃ x ∈ attributes, x.2 = a.value := by
  obtain ⟨own, expanded, hown, rfl, -, -, hattrs⟩ :=
    of_resolveAttributes (of_resolveElement h).1
  intro a ha
  rw [hattrs] at ha
  rcases List.mem_append.mp ha with ha | ha
  · obtain ⟨b, hb, rfl⟩ := List.mem_map.mp ha
    obtain ⟨x, hx, before, hmakes⟩ :=
      bindingOf_of_mem_ownBindings hown (List.mem_of_mem_filter hb)
    exact ⟨x, hx, (snd_of_bindingOf hmakes).symm⟩
  · obtain ⟨⟨e, n, v⟩, he, rfl⟩ := List.mem_map.mp ha
    have hmem := (List.of_mem_zip he).2
    exact ⟨(n, v), List.mem_of_mem_filter hmem, rfl⟩

/-- What is read where a value is written is read back. -/
theorem readValue_readValue (cs : List Char) :
    readValue (readValue cs) = readValue cs := by
  have hspaced : ∀ c, spaced c ≠ '\t' ∧ spaced c ≠ '\n' ∧ spaced c ≠ '\r' := by
    intro c
    rw [spaced]
    split
    case isTrue => decide
    case isFalse h =>
        simp only [Bool.or_eq_true, beq_iff_eq, not_or] at h
        exact ⟨h.2, h.1.1, h.1.2⟩
  rw [readValue_eq_self_iff]
  induction cs with
  | nil => simp [readValue]
  | cons c cs ih =>
      unfold readValue
      split
      · exact ih
      · rw [List.forall_mem_cons]
        exact ⟨hspaced c, ih⟩

/-- The elements that come back where they are written. -/
theorem Element.read?_eq_some_self_iff {e : Element}
    (hs : (NodeKind.element e).Spelled) {scope inner : Scope} :
    e.read? scope = some (e, inner) ↔ e.Stable scope inner := by
  rw [read?, hs.1.nameOf?_qualified, Option.bind_some, mapM_read? hs.2]
  constructor
  · intro h
    obtain ⟨read, hread, h⟩ := Option.bind_eq_some_iff.mp h
    split at hread
    case isFalse => cases hread
    case isTrue hchars =>
        cases hread
        split at h
        case isTrue => cases h
        case isFalse hno =>
            have hvalues : ∀ a ∈ e.attributes, StableValue a.value := by
              intro a ha
              obtain ⟨x, hx, he⟩ := value_of_resolveElement h a ha
              obtain ⟨b, -, rfl⟩ := List.mem_map.mp hx
              refine ⟨List.all_eq_true.mp hchars a ha, ?_⟩
              rw [← readValue_eq_self_iff, ← he, String.toList_ofList,
                readValue_readValue]
            refine ⟨hvalues, by simpa using hno, ?_⟩
            rw [← h]
            congr 1
            refine List.map_congr_left fun a ha => ?_
            rw [readValue_eq_self_iff.mpr (hvalues a ha).2,
              String.ofList_toList]
  · intro h
    have hchars : e.attributes.all
        (fun a => a.value.toList.all isXmlChar) = true :=
      List.all_eq_true.mpr fun a ha => (h.values a ha).1
    have hread : (e.attributes.map fun a =>
        (a.name, String.ofList (readValue a.value.toList)))
        = e.attributes.map fun a => (a.name, a.value) := by
      refine List.map_congr_left fun a ha => ?_
      rw [readValue_eq_self_iff.mpr (h.values a ha).2, String.ofList_toList]
    rw [if_pos hchars, Option.bind_some, if_neg, hread, h.resolved]
    simpa using h.noDeclaration

-- =============================================================== trees

mutual

/-- Whether a tree that is written in a scope is read back as it is. -/
def Tree.Stable (scope : Scope) : Tree → Prop
  | .element e children =>
    ∃ inner, e.Stable scope inner ∧ StableAll inner children
  | .text s =>
    s.toList.all isXmlChar = true ∧ isBlankText s = false
      ∧ ReturnsKept false s.toList
  | .comment _ => True
  | .instruction t d => isDeclaration t d = false

/-- Whether trees that are written in a scope, one after the other, are
read back as they are. -/
def StableAll (scope : Scope) : List Tree → Prop
  | [] => True
  | t :: rest =>
    t.Stable scope ∧ (t.isText = true → ∀ u ∈ rest.head?, u.isText = false)
      ∧ StableAll scope rest

end

/-- Reading children gives them back, without the ones that cannot be
seen, only if it gives back all of them. -/
theorem filter_readAll?_eq_self_iff {scope : Scope} {ts : List Tree} :
    (∃ read, readAll? scope ts = some read
        ∧ read.filter Tree.isVisible = ts)
      ↔ readAll? scope ts = some ts ∧ ∀ t ∈ ts, t.isVisible = true := by
  constructor
  · rintro ⟨read, hread, hfilter⟩
    have hle := countAll_of_readAll? ts hread
    obtain ⟨hless, heq⟩ := countAll_filter Tree.isVisible read
    rw [hfilter] at hless heq
    obtain rfl : ts = read := heq (by omega)
    exact ⟨hread, List.filter_eq_self.mp hfilter⟩
  · rintro ⟨hread, hvisible⟩
    exact ⟨ts, hread, List.filter_eq_self.mpr hvisible⟩

mutual

/-- The trees that come back where they are written. -/
theorem read?_eq_some_self_iff (scope : Scope) (t : Tree)
    (hs : t.All NodeKind.Spelled) :
    (t.Merged ∧ t.read? scope = some t ∧ t.isVisible = true)
      ↔ t.Stable scope := by
  cases t with
  | element e children =>
      have hinner := fun inner =>
        readAll?_eq_some_self_iff inner children hs.2
      have hread : (Tree.element e children).read? scope
            = some (.element e children)
          ↔ ∃ inner, e.read? scope = some (e, inner)
            ∧ readAll? inner children = some children
            ∧ ∀ t ∈ children, t.isVisible = true := by
        simp only [← filter_readAll?_eq_self_iff]
        rw [Tree.read?, Option.bind_eq_some_iff]
        constructor
        · rintro ⟨⟨e', inner⟩, he, h⟩
          obtain ⟨read, hread, h⟩ := Option.map_eq_some_iff.mp h
          obtain ⟨rfl, hfilter⟩ := Tree.element.inj h
          exact ⟨inner, he, read, hread, hfilter⟩
        · rintro ⟨inner, he, read, hread, hfilter⟩
          refine ⟨(e, inner), he, ?_⟩
          rw [hread, Option.map_some, hfilter]
      rw [hread, Tree.Merged, Tree.Stable]
      constructor
      · rintro ⟨hm, ⟨inner, he, hchildren⟩, -⟩
        exact ⟨inner, (Element.read?_eq_some_self_iff hs.1).mp he,
          (hinner inner).mp ⟨hm, hchildren⟩⟩
      · rintro ⟨inner, he, hchildren⟩
        obtain ⟨hm, hall⟩ := (hinner inner).mpr hchildren
        exact ⟨hm, ⟨inner,
          (Element.read?_eq_some_self_iff hs.1).mpr he, hall⟩, rfl⟩
  | text s =>
      have hmerged : (Tree.text s).Merged ↔ True := Iff.rfl
      rw [Tree.Stable, ← readText_eq_self_iff, hmerged, Tree.read?,
        Tree.isVisible]
      cases s.toList.all isXmlChar <;> simp [and_comm]
  | comment s => simp [Tree.Merged, Tree.read?, Tree.isVisible, Tree.Stable]
  | instruction t d =>
      simp [Tree.Merged, Tree.read?, Tree.isVisible, Tree.Stable]

/-- Trees come back as they were just if they are stable: no two texts side by
side, no blank text, and nothing in a text or a value that reading would
change. The induction goes along the trees as reading does. -/
theorem readAll?_eq_some_self_iff (scope : Scope) (ts : List Tree)
    (hs : AllOf NodeKind.Spelled ts) :
    (MergedAll ts ∧ readAll? scope ts = some ts
        ∧ ∀ t ∈ ts, t.isVisible = true)
      ↔ StableAll scope ts := by
  cases ts with
  | nil => simp [MergedAll, readAll?, StableAll]
  | cons t rest =>
      have ht := read?_eq_some_self_iff scope t hs.1
      have hrest := readAll?_eq_some_self_iff scope rest hs.2
      have hread : readAll? scope (t :: rest) = some (t :: rest)
          ↔ t.read? scope = some t ∧ readAll? scope rest = some rest := by
        rw [readAll?, Option.bind_eq_some_iff]
        constructor
        · rintro ⟨u, hu, h⟩
          obtain ⟨more, hmore, h⟩ := Option.map_eq_some_iff.mp h
          obtain ⟨rfl, rfl⟩ := List.cons.inj h
          exact ⟨hu, hmore⟩
        · rintro ⟨hu, hmore⟩
          exact ⟨t, hu, by rw [hmore]; rfl⟩
      rw [StableAll, ← ht, ← hrest, hread, MergedAll, List.forall_mem_cons]
      tauto

end

-- ===================================================== whole documents

/-- Whether content that is written is read back as it is. -/
structure Content.Stable (c : Content) : Prop where
  prolog : ∀ t ∈ c.prolog, t.isDeclaration = false
  root : c.root.Stable []
  epilog : ∀ t ∈ c.epilog, t.isRemark = true ∧ t.isDeclaration = false

/-- The root that comes back where it is written. -/
theorem merged_read?_eq_some_self_iff {t : Tree}
    (hs : t.All NodeKind.Spelled) (ht : t.isElement = true) :
    t.merged.read? [] = some t ↔ t.Stable [] := by
  have hvisible : t.isVisible = true := by
    cases t <;> first | rfl | cases ht
  rw [← read?_eq_some_self_iff [] t hs]
  constructor
  · intro h
    have hm := merged_of_read? h
    have hmerged := merged_merged t
    rw [hm] at h hmerged
    exact ⟨hmerged, h, hvisible⟩
  · rintro ⟨hm, h, -⟩
    rw [hm.merged_eq]
    exact h

/-- Nothing in front of the root is lost or refused only if no
instruction there looks like a declaration. -/
theorem Content.start_eq_prolog_iff (c : Content) (declaration : Bool) :
    ((c.start declaration).1.all isVersioned = true
        ∧ (c.start declaration).2.any Tree.isDeclaration = false
        ∧ (c.start declaration).2 = c.prolog)
      ↔ ∀ t ∈ c.prolog, t.isDeclaration = false := by
  rcases c.start_cases declaration with
    ⟨-, hs⟩ | ⟨-, d, rest, hp, hs⟩ | ⟨-, hs, -⟩
  · have hversion : isVersioned declarationData = true := by decide
    simp [hs, hversion]
  · -- the instruction at the start is taken for a declaration, and is gone
    have hlost : rest ≠ .instruction "xml" (some d) :: rest :=
      fun h => by simpa using congrArg List.length h
    have hlike : (Tree.instruction "xml" (some d)).isDeclaration = true :=
      rfl
    simp [hs, hp, hlost, hlike]
  · simp [hs]

/-- The content that comes back where it is written. -/
theorem Content.read?_eq_some_self_iff {c : Content} (hs : c.Spelled)
    (declaration : Bool) : c.read? declaration = some c ↔ c.Stable := by
  have hroot := merged_read?_eq_some_self_iff hs.root hs.isElement
  have hepilog : c.epilog.all (fun t => t.isRemark && !t.isDeclaration)
        = true
      ↔ ∀ t ∈ c.epilog, t.isRemark = true ∧ t.isDeclaration = false := by
    simp [List.all_eq_true]
  have hstart := c.start_eq_prolog_iff declaration
  rw [read?]
  generalize c.start declaration = start at hstart ⊢
  constructor
  · intro h
    split at h
    case isFalse => cases h
    case isTrue hg =>
        obtain ⟨root, hr, he⟩ := Option.map_eq_some_iff.mp h
        rw [Bool.and_eq_true, Bool.and_eq_true, Bool.not_eq_true'] at hg
        obtain ⟨⟨hversion, hno⟩, hend⟩ := hg
        obtain ⟨hprolog, rfl⟩ : start.2 = c.prolog ∧ root = c.root :=
          ⟨congrArg Content.prolog he, congrArg Content.root he⟩
        exact ⟨hstart.mp ⟨hversion, hno, hprolog⟩, hroot.mp hr,
          hepilog.mp hend⟩
  · intro h
    obtain ⟨hversion, hno, hprolog⟩ := hstart.mpr h.prolog
    rw [hversion, hno, hepilog.mpr h.epilog, hroot.mpr h.root, hprolog]
    rfl

/-- A document is written and read back as it is exactly if it is
stable, whatever the options. -/
theorem parse_write_iff {s : String} {doc : Document}
    (h : Document.parse s = some doc) (options : WriteOptions) :
    Document.parse (doc.write options) = some doc ↔ doc.content.Stable := by
  obtain ⟨c, hc, rfl⟩ := parse_spelled h
  rw [Document.write, Document.content_ofContent, Document.parse,
    String.toList_ofList, readContent_write hc.plain,
    ← Content.read?_eq_some_self_iff hc options.declaration]
  constructor
  · intro h
    obtain ⟨d, hd, he⟩ := Option.map_eq_some_iff.mp h
    rw [hd, Document.ofContent_injective he]
  · intro h
    rw [h, Option.map_some]

/-- A document with an attribute, a comment, a special character and a
prefix comes back. -/
theorem parse_write_iff_small_order :
    ∃ doc, Document.parse
        "<p:r xmlns:p='u' a='1'><!--n--><p:b>x &amp; y</p:b></p:r>" = some doc
      ∧ Document.parse (doc.write {}) = some doc ∧ doc.content.Stable := by
  have hdoc : (Document.parse
      "<p:r xmlns:p='u' a='1'><!--n--><p:b>x &amp; y</p:b></p:r>").isSome
      = true := by
    decide +kernel
  obtain ⟨doc, hdoc⟩ := Option.isSome_iff_exists.mp hdoc
  have hback : ((Document.parse
      "<p:r xmlns:p='u' a='1'><!--n--><p:b>x &amp; y</p:b></p:r>").bind
        fun doc => (Document.parse (doc.write {})).map fun back =>
          (doc.nodes, doc.root, doc.prolog, doc.epilog)
            == (back.nodes, back.root, back.prolog, back.epilog))
      = some true := by
    decide +kernel
  rw [hdoc, Option.bind_some] at hback
  obtain ⟨back, hread, heq⟩ := Option.map_eq_some_iff.mp hback
  obtain rfl : doc = back := by
    obtain ⟨nodes, root, prolog, epilog⟩ := doc
    obtain ⟨nodes', root', prolog', epilog'⟩ := back
    simpa using heq
  exact ⟨doc, hdoc, hread, (parse_write_iff hdoc {}).mp hread⟩

/-- A line end that stands in a value by way of a reference is written as
it is, and read as a space. -/
theorem parse_write_line_end :
    ∃ doc back, Document.parse "<a b='x&#10;y'/>" = some doc
      ∧ Document.parse (doc.write .compact) = some back
      ∧ doc.attribute? 0 "b" = some "x\ny"
      ∧ back.attribute? 0 "b" = some "x y" ∧ back ≠ doc := by
  have hvalues : ((Document.parse "<a b='x&#10;y'/>").bind fun doc =>
      (Document.parse (doc.write .compact)).map fun back =>
        (doc.attribute? 0 "b", back.attribute? 0 "b"))
      = some (some "x\ny", some "x y") := by
    decide +kernel
  obtain ⟨doc, hdoc, hback⟩ := Option.bind_eq_some_iff.mp hvalues
  obtain ⟨back, hback, hpair⟩ := Option.map_eq_some_iff.mp hback
  obtain ⟨hold, hnew⟩ := Prod.mk.inj hpair
  refine ⟨doc, back, hdoc, hback, hold, hnew, fun heq => ?_⟩
  rw [heq, hold] at hnew
  simp at hnew

end Overlay.Xml
