/-
The elements that a short selector of attributes is for.

# Reading twice

A selector that begins with `//` names an element and an attribute, and
its text says which in one way only (`Selector.Short.of_parse`). It is
checked when a configuration is read, and when it is carried out the two
names are written down as an address, `E@a`, and read as one. Names of
selectors may hold dots, but in an address dots separate steps. So without
a dot in the element's name the address is that name, bare
(`parse_bare`); with one it is a path of what stands between the dots
(`parse_dotted`), and no address at all if that is no name somewhere
(`parse_broken`).

# What a bare name points at

A bare name covers the last link of a chain, and so it points at all the
elements that it matches (`pointsTo_ofName`).
-/
import Overlay.Override.Pass
import Overlay.Proofs.Address.Pointing
import Overlay.Proofs.Xml.Forests

namespace Overlay

open Text Xml

-- ========================================================== bare names

namespace Address

/-- An address of one step, without a qualifier. -/
def ofName (element attr : String) : Address :=
  ⟨none, .bare, [⟨element, none⟩], by simp, some attr⟩

/-- A bare name points at the elements that it matches. -/
theorem pointsTo_ofName (element attr : String) (aliases : Table String)
    (doc : Document) (i : Nat) :
    (ofName element attr).pointsTo aliases doc i
      = Wildcard.isMatch element (if element.toList.contains ':'
        then ElementIndex.qualifiedName doc i else doc.localName i) := by
  have hlast := doc.getLast?_chain i
  have hne : doc.chain i ≠ [] := by
    rintro hnil
    rw [hnil] at hlast
    cases hlast
  have hdrop : (doc.chain i).drop ((doc.chain i).length - 1)
      = [doc.link i] := by
    rw [List.drop_length_sub_one hne, List.getLast_of_getLast?_eq_some hlast]
  have hlen := List.length_pos_of_ne_nil hne
  show (decide (1 ≤ (doc.chain i).length)
    && stepsCover [⟨element, none⟩] ((doc.chain i).drop
      ((doc.chain i).length - 1)) && true) = _
  rw [hdrop, decide_eq_true (show 1 ≤ _ from hlen)]
  simp [stepsCover, Step.covers, Step.isPrefixed, Document.link]

end Address

-- ======================================================= reading twice

namespace Address

/-- An attribute is split off with its `@`. -/
theorem of_splitAttribute_eq {cs rest : List Char}
    {attr : Option String} (h : splitAttribute cs = .ok (attr, rest)) :
    rest = cs ∨ ∃ name, cs = rest ++ '@' :: name := by
  rw [splitAttribute] at h
  split at h
  case h_1 =>
      cases h
      exact .inl rfl
  case h_2 element name hsplit =>
      rcases ite_eq_iff.mp h with ⟨-, h⟩ | ⟨-, h⟩
      · cases h
      rcases ite_eq_iff.mp h with ⟨-, h⟩ | ⟨-, h⟩
      · cases h
        exact .inr ⟨name, (splitLast?_eq_some_iff.mp hsplit).1⟩
      · cases h

/-- No address begins with `//`. -/
theorem parse_ne_ok_of_descendant {text : String} {rest : List Char}
    (htext : trimList text.toList = '/' :: '/' :: rest) (a : Address) :
    parse text ≠ .ok a := by
  intro h
  obtain ⟨_, path, raws, hqualifier, hattr, hsteps, -⟩ := stages_of_parse h
  rw [htext, splitQualifier_of_ne (by rintro _ ⟨⟩)] at hqualifier
  obtain ⟨-, rfl⟩ := Prod.mk.inj (Except.ok.inj hqualifier)
  -- splitting off an attribute leaves the slashes
  obtain ⟨rest', rfl⟩ : ∃ rest', path = '/' :: '/' :: rest' := by
    rcases of_splitAttribute_eq hattr with rfl | ⟨name, hcut⟩
    · exact ⟨rest, rfl⟩
    · rcases path with _ | ⟨first, _ | ⟨second, rest'⟩⟩
      · cases hcut
      · cases hcut
      · cases hcut
        exact ⟨rest', rfl⟩
  cases hsteps

end Address

namespace Selector

/-- A name that is split off stands in front of the rest. -/
theorem of_splitName {cs rest : List Char} {name : String}
    (h : splitName cs = some (name, rest)) :
    cs = name.toList ++ rest ∧ Address.isName true name.toList = true := by
  unfold splitName at h
  dsimp only at h
  split at h
  case isTrue hname =>
      cases h
      rw [String.toList_ofList]
      exact ⟨List.prefix_append_drop (List.takeWhile_prefix _), hname⟩
  case isFalse => cases h

/-- The two forms that begin with `//`, and the selectors that are meant. -/
inductive Short (element attr : String) : List Char → Selector → Prop
  | existing : Short element attr
      ('/' :: '/' :: element.toList ++ '[' :: '@' :: attr.toList ++ [']'])
      (.existing element attr)
  | every : Short element attr
      ('/' :: '/' :: element.toList ++ '/' :: '@' :: attr.toList)
      (.every element attr)

variable {s s' : Selector} {element attr : String} {cs : List Char}

/-- A short form names an element and an attribute, in one of the three ways to
write them. The cases are those of the reader. -/
theorem of_readShort (hread : readShort cs = some s) :
    ∃ element attr, Address.isName true element.toList = true
      ∧ Address.isName true attr.toList = true ∧ Short element attr cs s := by
  unfold readShort at hread
  obtain ⟨rest, hrest, hread⟩ := Option.bind_eq_some_iff.mp hread
  obtain ⟨⟨element, tail⟩, he, hread⟩ := Option.bind_eq_some_iff.mp hread
  obtain ⟨hcut, hname⟩ := of_splitName he
  rw [after?_eq_some_iff, hcut] at hrest
  dsimp only at hread
  split at hread
  case h_1 =>
      obtain ⟨⟨attr, tail⟩, ha, hread⟩ := Option.bind_eq_some_iff.mp hread
      obtain ⟨hcut, hattr⟩ := of_splitName ha
      dsimp only at hread
      rcases ite_eq_iff.mp hread with ⟨hend, hread⟩ | ⟨-, hread⟩
      · cases hread
        rw [hcut, eq_of_beq hend] at hrest
        refine ⟨element, attr, hname, hattr, ?_⟩
        convert Short.existing using 1
        simp [hrest]
      · cases hread
  case h_2 =>
      obtain ⟨⟨attr, tail⟩, ha, hread⟩ := Option.bind_eq_some_iff.mp hread
      obtain ⟨hcut, hattr⟩ := of_splitName ha
      dsimp only at hread
      rcases ite_eq_iff.mp hread with ⟨hend, hread⟩ | ⟨-, hread⟩
      · cases hread
        rw [hcut, List.isEmpty_iff.mp hend] at hrest
        refine ⟨element, attr, hname, hattr, ?_⟩
        convert Short.every using 1
        simp [hrest]
      · cases hread
  case h_3 => cases hread

/-- What stands in front of the `@` of such a text, and what stands behind
it. -/
theorem Short.halves (h : Short element attr cs s) :
    ∃ mark tail, cs = ('/' :: '/' :: element.toList ++ [mark])
        ++ '@' :: (attr.toList ++ tail)
      ∧ (mark = '[' ∧ tail = [']'] ∧ s = .existing element attr
        ∨ mark = '/' ∧ tail = [] ∧ s = .every element attr) := by
  cases h with
  | existing => exact ⟨'[', [']'], by simp, .inl ⟨rfl, rfl, rfl⟩⟩
  | every => exact ⟨'/', [], by simp, .inr ⟨rfl, rfl, rfl⟩⟩

/-- A text has one of the forms in one way, if names stand in it. -/
theorem Short.unique {element' attr' : String}
    (h : Short element attr cs s) (h' : Short element' attr' cs s')
    (hname : Address.isName true element'.toList = true)
    (hattr : Address.isName true attr'.toList = true) :
    element = element' ∧ attr = attr' ∧ s = s' := by
  obtain ⟨mark, tail, hcs, hform⟩ := h.halves
  obtain ⟨mark', tail', hcs', hform'⟩ := h'.halves
  have hfront : '@' ∉ '/' :: '/' :: element'.toList ++ [mark'] := by
    have hno : '@' ∉ element'.toList := Address.not_mem_name hname rfl rfl
    rcases hform' with ⟨rfl, -⟩ | ⟨rfl, -⟩ <;> simp [hno]
  have hback : '@' ∉ attr'.toList ++ tail' := by
    have hno : '@' ∉ attr'.toList := Address.not_mem_name hattr rfl rfl
    rcases hform' with ⟨-, rfl, -⟩ | ⟨-, rfl, -⟩ <;> simp [hno]
  -- there is only one `@`, so both forms are cut at the same place
  obtain ⟨hheads, -, htails⟩ :=
    (List.append_cons_inj_of_notMem hfront hback).mp (hcs'.symm.trans hcs)
  obtain ⟨helement, hmark⟩ := List.append_inj' hheads rfl
  have helement : element' = element := by
    rw [← String.toList_inj]
    exact (List.cons.inj (List.cons.inj helement).2).2
  cases hmark
  subst helement
  obtain ⟨htail, hs⟩ : tail' = tail ∧ (attr' = attr → s' = s) := by
    rcases hform with ⟨rfl, rfl, rfl⟩ | ⟨rfl, rfl, rfl⟩ <;>
      rcases hform' with ⟨hmark, rfl, rfl⟩ | ⟨hmark, rfl, rfl⟩
    · exact ⟨rfl, fun heq => by rw [heq]⟩
    · cases hmark
    · cases hmark
    · exact ⟨rfl, fun heq => by rw [heq]⟩
  have hattrs : attr' = attr := by
    rw [htail] at htails
    exact String.toList_inj.mp (List.append_cancel_right htails)
  exact ⟨rfl, hattrs.symm, (hs hattrs).symm⟩

/-- Such a text is no address, so it means what its form says, with names
in it. -/
theorem Short.of_parse {text : String} (hread : parse text = .ok s')
    (h : Short element attr (trim text).toList s) :
    s' = s ∧ Address.isName true element.toList = true
      ∧ Address.isName true attr.toList = true := by
  unfold parse at hread
  dsimp only at hread
  split at hread
  case h_1 found hfound =>
      cases hread
      obtain ⟨element', attr', hname, hattr, h'⟩ := of_readShort hfound
      obtain ⟨rfl, rfl, rfl⟩ := h.unique h' hname hattr
      exact ⟨rfl, hname, hattr⟩
  case h_2 =>
      obtain ⟨a, ha, -⟩ := ok_of_bind hread
      obtain ⟨mark, tail, hcs, -⟩ := h.halves
      rw [trim, String.toList_ofList] at hcs
      have htrimmed : trimList (trim text).toList
          = '/' :: '/' :: (element.toList ++ [mark]
            ++ '@' :: (attr.toList ++ tail)) := by
        rw [trim, String.toList_ofList, trimList_trimList, hcs]
        simp
      exact absurd ha (Address.parse_ne_ok_of_descendant htrimmed a)

/-- The address of such a selector is written down and read. -/
theorem Short.address? (h : Short element attr cs s) :
    s.address? = Address.parse (element ++ "@" ++ attr) := by
  cases h <;> rfl

end Selector

namespace Address

variable {element attr : String}

/-- A name without dots, with an attribute, is a bare address. -/
theorem parse_bare (hname : isName true element.toList = true)
    (hattr : isName true attr.toList = true) (hdot : '.' ∉ element.toList) :
    parse (element ++ "@" ++ attr) = .ok (ofName element attr) := by
  have hgrammatical : (ofName element attr).IsGrammatical := by
    refine ⟨by rintro q ⟨⟩, fun s hs => ?_, by rintro ⟨⟩,
      fun _ => ⟨_, rfl, hdot⟩, by rintro name ⟨⟩; exact hattr⟩
    rw [List.mem_singleton.mp hs]
    exact ⟨hname, by rintro p ⟨⟩⟩
  have hnormal : (ofName element attr).normalize
      = element ++ "@" ++ attr := by
    rw [← String.toList_inj, toList_normalize, unqualified, ofName,
      render_bare]
    simp [Step.render]
  rw [← hnormal]
  exact parse_normalize_of_isGrammatical hgrammatical

/-- The address of the steps between the dots of a name. -/
def ofDotted (element attr : String) : Address :=
  ⟨none, .dotted, (splitOn '.' element.toList).map fun part =>
    ⟨String.ofList part, none⟩,
    List.map_eq_nil_iff.not.mpr (splitWhere_ne_nil _ _), some attr⟩

/-- A name with dots, with an attribute, is a dotted address, if there are
names between the dots. -/
theorem parse_dotted (hattr : isName true attr.toList = true)
    (hdot : '.' ∈ element.toList)
    (hparts : ∀ part ∈ splitOn '.' element.toList,
      isName false part = true) :
    parse (element ++ "@" ++ attr) = .ok (ofDotted element attr) := by
  have hgrammatical : (ofDotted element attr).IsGrammatical := by
    refine ⟨by rintro q ⟨⟩, fun s hs => ?_, fun _ => ?_, by rintro ⟨⟩,
      by rintro name ⟨⟩; exact hattr⟩
    · obtain ⟨part, hpart, rfl⟩ := List.mem_map.mp hs
      refine ⟨?_, by rintro p ⟨⟩⟩
      rw [String.toList_ofList]
      exact hparts part hpart
    · rw [ofDotted, List.length_map]
      exact two_le_length_splitOn hdot
  have hnormal : (ofDotted element attr).normalize
      = element ++ "@" ++ attr := by
    have hsteps : ((ofDotted element attr).steps.map Step.render).map
        String.toList = splitOn '.' element.toList := by
      rw [ofDotted, List.map_map, List.map_map]
      exact List.map_id'' (fun part => by simp [Step.render]) _
    rw [← String.toList_inj, toList_normalize, unqualified,
      show (ofDotted element attr).shape = .dotted from rfl, Shape.render,
      join, String.toList_intercalate, hsteps]
    simp [ofDotted, intercalate_splitOn]
  rw [← hnormal]
  exact parse_normalize_of_isGrammatical hgrammatical

/-- A step without a bracket is its name. -/
theorem isName_of_readStep {shape : Shape} {part : List Char} {s : Step}
    (hblank : ∀ c ∈ part, isBlank c = false) (hbracket : ']' ∉ part)
    (h : readStep shape part = .ok s) :
    isName (shape != .dotted) part = true := by
  have hplain : splitPosition part = .ok (part, none) := by
    rw [splitPosition]
    cases hhead : before? [']'] part with
    | none => rfl
    | some head =>
        rw [before?_eq_some_iff] at hhead
        exact absurd (hhead ▸ by simp) hbracket
  unfold readStep at h
  dsimp only at h
  rw [trimList_of_forall hblank] at h
  rcases ite_eq_iff.mp h with ⟨-, h⟩ | ⟨-, h⟩
  · cases h
  rw [hplain] at h
  obtain ⟨_, hname, h⟩ := ok_of_bind h
  cases hname
  dsimp only at h
  split at h
  case isTrue hname => exact hname
  case isFalse => cases h

/-- What stands between the dots of a name is read as steps. -/
theorem mapM_of_parse {a : Address}
    (hname : isName true element.toList = true)
    (hattr : isName true attr.toList = true) (hdot : '.' ∈ element.toList)
    (h : parse (element ++ "@" ++ attr) = .ok a) :
    (splitOn '.' element.toList).mapM (readStep .dotted) = .ok a.steps := by
  have htext : (element ++ "@" ++ attr).toList
      = element.toList ++ '@' :: attr.toList := by simp
  have hblank : ∀ c ∈ element.toList ++ '@' :: attr.toList,
      isBlank c = false := by
    intro c hc
    rcases List.mem_append.mp hc with hc | hc
    · exact isBlank_of_mem_name hname hc
    · rcases List.mem_cons.mp hc with rfl | hc
      · rfl
      · exact isBlank_of_mem_name hattr hc
  -- each stage of the reader does what the marks of the text ask for
  have hqualifier : splitQualifier (element.toList ++ '@' :: attr.toList)
      = .ok (none, element.toList ++ '@' :: attr.toList) := by
    refine splitQualifier_of_ne fun rest heq => ?_
    obtain ⟨c, cs, hcs⟩ := List.exists_cons_of_ne_nil (name_ne_nil hname)
    have hbrace : '{' ∉ element.toList := not_mem_name hname rfl rfl
    rw [hcs, List.cons_append] at heq
    exact hbrace (by simp [hcs, (List.cons.inj heq).1])
  have hattribute : splitAttribute (element.toList ++ '@' :: attr.toList)
      = .ok (some attr, element.toList) := by
    have hmark : '@' ∉ attr.toList := not_mem_name hattr rfl rfl
    rw [splitAttribute, splitLast?_eq_some_iff.mpr ⟨rfl, hmark⟩]
    simp [name_ne_nil hname, hattr]
  have hsteps : splitSteps element.toList
      = .ok (.dotted, splitOn '.' element.toList) := by
    rw [splitSteps_of_not_mem (not_mem_name hname rfl rfl), if_pos]
    exact List.contains_iff_mem.mpr hdot
  obtain ⟨_, _, _, hq, ha, hs, hmap⟩ := stages_of_parse h
  rw [htext, trimList_of_forall hblank, hqualifier] at hq
  obtain ⟨-, rfl⟩ := Prod.mk.inj (Except.ok.inj hq)
  rw [hattribute] at ha
  obtain ⟨-, rfl⟩ := Prod.mk.inj (Except.ok.inj ha)
  rw [hsteps] at hs
  obtain ⟨hshape, rfl⟩ := Prod.mk.inj (Except.ok.inj hs)
  exact hshape ▸ hmap

/-- If there is anything else between them, it is no address. -/
theorem parse_broken (hname : isName true element.toList = true)
    (hattr : isName true attr.toList = true)
    (hdot : '.' ∈ element.toList) {part : List Char}
    (hpart : part ∈ splitOn '.' element.toList)
    (hbroken : isName false part = false) :
    ∃ why, parse (element ++ "@" ++ attr) = .error why := by
  cases hparse : parse (element ++ "@" ++ attr) with
  | error why => exact ⟨why, rfl⟩
  | ok a =>
      obtain ⟨s, -, hstep⟩ :=
        ok_of_mem_mapM (mapM_of_parse hname hattr hdot hparse) hpart
      have hsub := (sublist_of_mem_splitWhere hpart).subset
      have hpartName := isName_of_readStep
        (fun c hc => isBlank_of_mem_name hname (hsub hc))
        (fun hc => not_mem_name hname rfl rfl (hsub hc)) hstep
      rw [show (Shape.dotted != .dotted) = false from rfl, hbroken] at hpartName
      cases hpartName

end Address

-- ============================================================= entries

namespace AttributeEntry

variable {e : AttributeEntry} {s : Selector} {element attr : String}

theorem task_of_address {a : Address} (h : e.selector.address? = .ok a) :
    e.task = .assign ⟨.attributes, e.key, a, e.value, e.selector.creates⟩ := by
  rw [task, h]

/-- What an entry for `//E[@a]` or `//E/@a` is carried out on. If `E` holds
no dot, these are the elements whose local name, or qualified name if `E`
holds a colon, is `E`, or matches it; a local name that holds a colon
itself, as no document has that was read, is not asked for with a prefix
and without wildcards. If `E` holds a dot, the entry is for the elements at
the end of a path of what stands between the dots, or it is refused if
that is no name somewhere. -/
theorem task_of_short (hparse : Selector.parse e.key = .ok e.selector)
    (hshort : Selector.Short element attr (trim e.key).toList s) :
    e.selector = s
      ∧ ('.' ∉ element.toList →
        e.task = .assign ⟨.attributes, e.key, .ofName element attr, e.value,
            s.creates⟩
          ∧ ∀ doc : Document, doc.IsNew →
            ∀ (edits : List Edit) (p : Pass) (i : Nat),
            let d := doc.edited edits
            (':' ∈ element.toList → isWild element = false →
              ':' ∉ (d.localName i).toList) →
            (i ∈ (p.resolve (.ofDocument d) (.ofName element attr)).1
              ↔ d.isElement i = true ∧ d.isAttached i = true
                ∧ Wildcard.isMatch element (if ':' ∈ element.toList
                  then ElementIndex.qualifiedName d i
                  else d.localName i) = true))
      ∧ ('.' ∈ element.toList →
        (∀ part ∈ splitOn '.' element.toList,
          Address.isName false part = true) →
        e.task = .assign ⟨.attributes, e.key, .ofDotted element attr, e.value,
          s.creates⟩)
      ∧ ('.' ∈ element.toList →
        (∃ part ∈ splitOn '.' element.toList,
          Address.isName false part = false) →
        ∃ why, e.task = .malformed e.key why) := by
  obtain ⟨rfl, hname, hattr⟩ := hshort.of_parse hparse
  have haddress := hshort.address?
  refine ⟨rfl, fun hdot => ⟨task_of_address ?_, ?_⟩,
    fun hdot hparts => task_of_address ?_, fun hdot hbroken => ?_⟩
  · rw [haddress, Address.parse_bare hname hattr hdot]
  · intro doc hnew edits p i d hcolon
    obtain ⟨hl, hs⟩ := hnew.linked_edited edits
    have hresolve : i ∈ (p.resolve (.ofDocument d)
        (.ofName element attr)).1 ↔ _ :=
      mem_resolve_of_unrooted (a := .ofName element attr) hl hs
        (by rintro ⟨⟩) (fun hp hw => hcolon (List.contains_iff_mem.mp hp) hw)
    rw [Address.pointsTo_ofName] at hresolve
    simp only [List.contains_iff_mem] at hresolve
    exact hresolve
  · rw [haddress, Address.parse_dotted hattr hdot hparts]
  · obtain ⟨part, hpart, hbroken⟩ := hbroken
    obtain ⟨why, hwhy⟩ := Address.parse_broken hname hattr hdot hpart hbroken
    refine ⟨why, ?_⟩
    rw [task, haddress, hwhy]

/-- A prefix in a document that was read. -/
theorem task_of_short_prefixed :
    ∃ doc, Document.parse "<r xmlns:p=\"u\"><p:a/><a/></r>" = some doc
      ∧ Selector.parse "//p:a/@x" = .ok (.every "p:a" "x")
      ∧ ∀ (p : Pass) (i : Nat),
        i ∈ (p.resolve (.ofDocument doc) (.ofName "p:a" "x")).1
          ↔ doc.isElement i = true ∧ doc.isAttached i = true
            ∧ ElementIndex.qualifiedName doc i = "p:a" := by
  have hdoc : (Document.parse "<r xmlns:p=\"u\"><p:a/><a/></r>").isSome
      = true := by
    decide +kernel
  obtain ⟨doc, hdoc⟩ := Option.isSome_iff_exists.mp hdoc
  have hparse : Selector.parse "//p:a/@x" = .ok (.every "p:a" "x") :=
    toOption_eq_some_iff.mp (by decide +kernel)
  have hshort : Selector.Short "p:a" "x" (trim "//p:a/@x").toList
      (.every "p:a" "x") := by
    have htrim : (trim "//p:a/@x").toList = '/' :: '/' :: "p:a".toList
        ++ '/' :: '@' :: "x".toList := by
      decide +kernel
    rw [htrim]
    exact .every
  refine ⟨doc, hdoc, hparse, fun p i => ?_⟩
  have hselected := ((task_of_short
    (e := ⟨"//p:a/@x", .every "p:a" "x", .literal ""⟩) hparse
    hshort).2.1 (by decide)).2 doc (.inl ⟨_, hdoc⟩) [] p i
    fun _ _ => (isProper_of_spelled (fun _ _ => kind_of_parse hdoc) i 1).noColon
  rw [if_pos (by decide), Wildcard.isMatch, if_neg (by decide), beq_iff_eq,
    eq_comm (a := "p:a")] at hselected
  exact hselected

/-- An element whose name holds a dot is not found by that name, and with a
dot at its end the name is refused. -/
theorem dotted_name_is_missed :
    (∃ doc, Document.parse "<r><a.b/></r>" = some doc
        ∧ doc.isElement 1 = true ∧ doc.isAttached 1 = true
        ∧ doc.localName 1 = "a.b"
        ∧ Selector.parse "//a.b/@x" = .ok (.every "a.b" "x")
        ∧ ∃ a, (∀ value, task ⟨"//a.b/@x", .every "a.b" "x", value⟩
            = .assign ⟨.attributes, "//a.b/@x", a, value, true⟩)
          ∧ (PathResolver.resolve (.ofDocument doc) a default).1 = [])
      ∧ Selector.parse "//a./@x" = .ok (.every "a." "x")
      ∧ ∀ value, ∃ why, task ⟨"//a./@x", .every "a." "x", value⟩
        = .malformed "//a./@x" why := by
  have hdoc : (Document.parse "<r><a.b/></r>").any (fun doc =>
      doc.isElement 1 && doc.isAttached 1 && doc.localName 1 == "a.b"
        && (PathResolver.resolve (.ofDocument doc) (.ofDotted "a.b" "x")
          default).1 == []) = true := by
    decide +kernel
  obtain ⟨doc, hdoc, hmissed⟩ := (Option.any_eq_true _ _).mp hdoc
  simp only [Bool.and_eq_true, beq_iff_eq] at hmissed
  obtain ⟨⟨⟨hel, hattached⟩, hname⟩, hnone⟩ := hmissed
  refine ⟨⟨doc, hdoc, hel, hattached, hname,
    toOption_eq_some_iff.mp (by decide +kernel), .ofDotted "a.b" "x",
    fun value => ?_, hnone⟩, toOption_eq_some_iff.mp (by decide +kernel),
    fun value => ?_⟩
  · have hread := @Address.parse_dotted "a.b" "x" (by decide) (by decide)
      (by decide)
    exact task_of_address (e := ⟨_, .every "a.b" "x", value⟩) hread
  · obtain ⟨why, hwhy⟩ := @Address.parse_broken "a." "x" (by decide)
      (by decide) (by decide) [] (by decide) rfl
    exact ⟨why, by rw [task, Selector.address?, hwhy]⟩

end AttributeEntry

end Overlay
