/-
Whether it matters how a document is written.

What is read where a document was written does not ask for the indent at
all (`readContent_write`): line ends are put between markup only, and are
gone when it is read. It asks for the declaration in one case. An
instruction that looks like a declaration is taken for one at the very
start of a text, and refused everywhere else (`Content.read?_declaration`).
A document that begins with such an instruction can be read where it is
written without a declaration, and not behind one
(`second_declaration_is_written`).

Edits leave the names of a document as they can be written, so all of this
holds for documents that were read and edited (`keeps_edited`).
-/
import Overlay.Proofs.Xml.Patching
import Overlay.Proofs.Xml.Redeclaring

namespace Overlay.Xml

open Text

-- ============================================================== content

/-- Whether a text begins like a declaration. -/
def BeginsDeclared (text : List Char) : Prop := "<?xml ".toList <+: text

instance (text : List Char) : Decidable (BeginsDeclared text) :=
  inferInstanceAs (Decidable (_ <+: _))

/-- Content that is written without a declaration begins like one exactly
if its first tree is an instruction that looks like one. -/
theorem beginsDeclared_write_iff {c : Content} (hc : c.Plain) :
    BeginsDeclared (c.write .compact)
      ↔ ∃ t ∈ c.prolog.head?, t.isDeclaration = true := by
  have hwrite := write_eq c .compact
  rcases c.start_cases WriteOptions.compact.declaration with
    ⟨hd, -⟩ | ⟨-, d, rest, hp, hs⟩ | ⟨-, hs, hno⟩
  · cases hd
  · rw [hs] at hwrite
    have hbegins : BeginsDeclared (c.write .compact) := ⟨_, hwrite.symm⟩
    exact iff_of_true hbegins ⟨.instruction "xml" (some d), by rw [hp]; rfl,
      rfl⟩
  · rw [hs] at hwrite
    refine iff_of_false ?_ ?_
    · rintro ⟨rest, hrest⟩
      have hmark := mark_absent hc hno
        (WriteOptions.compact.indent.getD 0)
      have hlayout := hrest.trans hwrite
      simp only at hlayout
      rw [← hlayout, after?_append] at hmark
      cases hmark
    · rintro ⟨t, ht, hlike⟩
      rw [hno t ht] at hlike
      cases hlike

/-- A declaration in front of content is in the way only of an instruction
that looks like another one. -/
theorem Content.read?_declaration (c : Content) :
    c.read? true = if ∃ t ∈ c.prolog.head?, t.isDeclaration = true then none
      else c.read? false := by
  have hdeclared : c.start true = (some declarationData, c.prolog) := rfl
  have hversion : isVersioned declarationData = true := by decide
  rcases c.start_cases false with
    ⟨hd, -⟩ | ⟨-, d, rest, hp, -⟩ | ⟨-, hs, hno⟩
  · cases hd
  · have hlike : (Tree.instruction "xml" (some d)).isDeclaration = true :=
      rfl
    rw [if_pos ⟨.instruction "xml" (some d), by rw [hp]; rfl, hlike⟩, read?,
      if_neg]
    simp [hdeclared, hp, hlike]
  · have hnot : ¬∃ t ∈ c.prolog.head?, t.isDeclaration = true := by
      rintro ⟨t, ht, hlike⟩
      rw [hno t ht] at hlike
      cases hlike
    rw [if_neg hnot, read?, read?, hdeclared, hs]
    simp only [hversion, Option.all_some, Option.all_none]

-- ============================================================ documents

namespace Document

variable {doc doc' : Document}

/-- An edit leaves elements, and names that end where they should. -/
theorem keeps_apply {e : Edit} (h : e.apply doc = .ok doc') :
    doc.Keeps doc' := by
  cases e with
  | setText id value => exact keeps_setText h
  | setAttribute id name value => exact keeps_setAttribute h
  | rename id name => exact keeps_rename h
  | detach id => exact keeps_detach h

/-- So do any edits, refused ones among them. -/
theorem keeps_edited (doc : Document) (edits : List Edit) :
    doc.Keeps (doc.edited edits) := by
  refine List.foldlRecOn edits Edit.carryOut (b := doc)
    (motive := fun d => doc.Keeps d) (.refl doc) fun d hd e _ => ?_
  unfold Edit.carryOut
  split
  case h_1 out hout => exact hd.trans (keeps_apply hout)
  case h_2 => exact hd

/-- What is read where a document was written that was read and edited is
the same however it is written: the same document, or none. There is one
exception. With a declaration nothing is read if the document begins like
a declaration itself. -/
theorem parse_write_eq {text : String} (h : parse text = some doc)
    (edits : List Edit) (options : WriteOptions) :
    let out := doc.edited edits
    parse (out.write options)
      = if options.declaration = true
          ∧ BeginsDeclared (out.write .compact).toList then none
        else parse (out.write .compact) := by
  intro out
  have hc : out.content.Plain := (keeps_edited doc edits).plain_content h
  have hread : ∀ options, parse (out.write options)
      = (out.content.read? options.declaration).map ofContent := by
    intro options
    rw [parse, write, String.toList_ofList, readContent_write hc]
  have hbegins : BeginsDeclared (out.write .compact).toList
      ↔ ∃ t ∈ out.content.prolog.head?, t.isDeclaration = true := by
    rw [write, String.toList_ofList]
    exact beginsDeclared_write_iff hc
  rw [hread, hread]
  cases options.declaration with
  | false => rw [if_neg fun h => Bool.false_ne_true h.1]; rfl
  | true =>
      rw [Content.read?_declaration]
      by_cases hlike : ∃ t ∈ out.content.prolog.head?, t.isDeclaration = true
      · rw [if_pos hlike, if_pos ⟨rfl, hbegins.mpr hlike⟩]
        rfl
      · rw [if_neg hlike, if_neg fun h => hlike (hbegins.mp h.2)]
        rfl

/-- A document with text, an element, a comment and an instruction in one
place, and an edit by which two texts meet. -/
theorem parse_write_eq_mixed :
    ∃ doc, parse "<a>x<b/>y<!--c--><?d e?></a>" = some doc
      ∧ (let out := doc.edited [.detach 2]
        parse (out.write {}) = parse (out.write .compact)
          ∧ (parse (out.write .compact)).isSome = true
          ∧ out.write {} = "<?xml version=\"1.0\" encoding=\"UTF-8\"?>\n"
            ++ "<a>xy<!--c-->\n  <?d e?>\n</a>") := by
  have hview : (parse "<a>x<b/>y<!--c--><?d e?></a>").map (fun doc =>
      let out := doc.edited [.detach 2]
      (decide (BeginsDeclared (out.write .compact).toList),
        (parse (out.write .compact)).isSome, out.write {}))
      = some (false, true, "<?xml version=\"1.0\" encoding=\"UTF-8\"?>\n"
        ++ "<a>xy<!--c-->\n  <?d e?>\n</a>") := by
    decide +kernel
  obtain ⟨doc, hdoc, hview⟩ := Option.map_eq_some_iff.mp hview
  simp only [Prod.mk.injEq, decide_eq_false_iff_not] at hview
  obtain ⟨hbegins, hback, hwritten⟩ := hview
  refine ⟨doc, hdoc, ?_, hback, hwritten⟩
  rw [parse_write_eq hdoc, if_neg fun h => hbegins h.2]

/-- A declaration with a tab behind its name is read as an instruction. It
is written behind another declaration, and the result cannot be read,
although it can without the other one. -/
theorem second_declaration_is_written :
    ∃ doc back, parse "<?xml\tversion=\"1.0\"?><a/>" = some doc
      ∧ parse (doc.write .compact) = some back
      ∧ doc.write {} = "<?xml version=\"1.0\" encoding=\"UTF-8\"?>\n"
        ++ "<?xml version=\"1.0\"?>\n<a/>"
      ∧ parse (doc.write {}) = none := by
  have hview : (parse "<?xml\tversion=\"1.0\"?><a/>").map (fun doc =>
      ((parse (doc.write .compact)).isSome, doc.write {},
        (parse (doc.write {})).isNone))
      = some (true, "<?xml version=\"1.0\" encoding=\"UTF-8\"?>\n"
        ++ "<?xml version=\"1.0\"?>\n<a/>", true) := by
    decide +kernel
  obtain ⟨doc, hdoc, hview⟩ := Option.map_eq_some_iff.mp hview
  simp only [Prod.mk.injEq] at hview
  obtain ⟨hback, hwritten, hnone⟩ := hview
  obtain ⟨back, hback⟩ := Option.isSome_iff_exists.mp hback
  exact ⟨doc, back, hdoc, hback, hwritten, Option.isNone_iff_eq_none.mp hnone⟩

end Document

end Overlay.Xml
