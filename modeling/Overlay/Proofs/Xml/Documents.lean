/-
Whole documents, written and read again.

`readContent_write` answers what is read where a document was written,
or that nothing is (`Content.read?`):

- The root is merged and read as a tree.
- Comments and instructions around it are read as they are, but for
  instructions that look like a declaration: these are refused, except
  at the very start of a document that is written without a declaration
  of its own. There the instruction is taken for one, and is gone if its
  data make a declaration.
- No text can stand behind the root.

Everything here holds for documents whose names are *plain*
(`Content.Plain`), which all names are that can be read or put into a
document.
-/
import Overlay.Proofs.Xml.Declaring
import Overlay.Proofs.Xml.Merging

namespace Overlay.Xml

open Text

-- ========================================================== vocabulary

/-- Content that can be written, as far as its names go. -/
structure Content.Plain (c : Content) : Prop where
  isElement : c.root.isElement = true
  root : c.root.All NodeKind.Plain
  prolog : ∀ t ∈ c.prolog, t.isRemark = true ∧ t.All NodeKind.Plain
  epilog : ∀ t ∈ c.epilog, t.isElement = false ∧ t.All NodeKind.Plain
  epilogText : ∀ s, .text s ∈ c.epilog → isBlankText s = false

/-- Whether a tree is an instruction that looks like a declaration. -/
def Tree.isDeclaration : Tree → Bool
  | .instruction t d => Xml.isDeclaration t d
  | _ => false

/-- The data of an instruction that looks like a declaration. -/
def Tree.declared? : Tree → Option (List Char)
  | .instruction t (some d) => if t == "xml" then some d.toList else none
  | _ => none

/-- The data of the declaration that is put in front of a document. -/
def declarationData : List Char :=
  "version=\"1.0\" encoding=\"UTF-8\"".toList

/-- The data of what is written like a declaration at the very start of a
document, if there is such a thing, and the trees between it and the
root. -/
def Content.start (c : Content) (declaration : Bool) :
    Option (List Char) × List Tree :=
  if declaration then (some declarationData, c.prolog)
  else
    match c.prolog.head?.bind Tree.declared? with
    | some data => (some data, c.prolog.tail)
    | none => (none, c.prolog)

/-- What is read where content is written. -/
def Content.read? (c : Content) (declaration : Bool) : Option Content :=
  let start := c.start declaration
  if start.1.all isVersioned && !start.2.any Tree.isDeclaration
      && c.epilog.all (fun t => t.isRemark && !t.isDeclaration) then
    (c.root.merged.read? []).map fun root =>
      { prolog := start.2, root := root, epilog := c.epilog }
  else none

-- ============================================================= remarks

/-- The token of a comment or an instruction. -/
def Tree.token : Tree → Token
  | .comment s => .comment s
  | .instruction t d => .instruction t d
  | _ => .text []

theorem piecesOfAll_append (level : Nat) (ts us : List Tree) :
    piecesOfAll level (ts ++ us)
      = piecesOfAll level ts ++ piecesOfAll level us := by
  induction ts with
  | nil => rfl
  | cons t ts ih =>
      rw [List.cons_append, piecesOfAll, piecesOfAll, ih, List.append_assoc]

/-- White space in front of written markup. -/
theorem skipSpace_layout (indent level : Nat) (breaks : Bool)
    (text : List Char) (ps : List Piece) :
    Scan.skipSpace
        (layout indent breaks (.markup level ('<' :: text) :: ps))
      = '<' :: (text ++ layout indent true ps) := by
  have hmark : isXmlSpace '<' = false := rfl
  have hbreak : isXmlSpace '\n' = true := rfl
  have hspaces : ∀ k (rest : List Char),
      (List.replicate k ' ' ++ '<' :: rest).dropWhile isXmlSpace
        = '<' :: rest := by
    intro k rest
    have hall : ∀ c ∈ List.replicate k ' ', isXmlSpace c = true := by
      intro c hc
      rw [(List.mem_replicate.mp hc).2]
      rfl
    rw [List.dropWhile_append_of_pos hall,
      List.dropWhile_cons_of_neg (by rw [hmark]; simp)]
  rw [layout, Scan.skipSpace, List.append_assoc, List.cons_append]
  split
  · rw [List.cons_append, List.dropWhile_cons_of_pos hbreak, hspaces]
  · rw [List.nil_append, List.dropWhile_cons_of_neg (by rw [hmark]; simp)]

/-- How a comment or an instruction is written, and scanned. -/
theorem remark_written {t : Tree} (hr : t.isRemark = true)
    (ht : t.All NodeKind.Plain) (level : Nat) :
    ∃ text, t.pieces level = [.markup level ('<' :: text)]
      ∧ (∀ rest, Scan.startsRemark ('<' :: (text ++ rest)) = true)
      ∧ ∀ rest, Scan.token ('<' :: (text ++ rest))
        = if t.isDeclaration then none else some (t.token, rest) := by
  cases t with
  | element e children => cases hr
  | text s => cases hr
  | comment s =>
      refine ⟨'!' :: '-' :: '-' :: s.toList ++ "-->".toList, rfl,
        fun _ => rfl, fun rest => ?_⟩
      have htoken := Scan.token_comment ht rest
      have htext : '!' :: '-' :: '-' :: s.toList ++ "-->".toList ++ rest
          = '!' :: '-' :: '-' :: (s.toList ++ '-' :: '-' :: '>' :: rest) := by
        simp
      rw [htext, htoken]
      rfl
  | instruction t d =>
      refine ⟨'?' :: instructionText t d ++ ['?', '>'], rfl,
        fun _ => rfl, fun rest => ?_⟩
      have htoken := Scan.token_instruction ht.1 ht.2 rest
      have htext : '?' :: instructionText t d ++ ['?', '>'] ++ rest
          = '?' :: (instructionText t d ++ '?' :: '>' :: rest) := by
        simp
      rw [htext, htoken]
      rfl

/-- Written comments and instructions are found one after the other. -/
theorem misc_written (indent : Nat) {ts : List Tree}
    (hr : ∀ t ∈ ts, t.isRemark = true ∧ t.All NodeKind.Plain)
    (breaks : Bool) (ps : List Piece) {fuel : Nat}
    (hf : (layout indent breaks (piecesOfAll 0 ts ++ ps)).length ≤ fuel) :
    Scan.misc fuel (layout indent breaks (piecesOfAll 0 ts ++ ps))
      = if ts.any Tree.isDeclaration then none
        else
          let rest := layout indent (breaks || !ts.isEmpty) ps
          (Scan.misc rest.length rest).map fun more =>
            (ts.map Tree.token ++ more.1, more.2) := by
  induction ts generalizing breaks fuel with
  | nil =>
      rw [piecesOfAll, List.nil_append] at hf ⊢
      rw [List.any_nil, if_neg (by simp), List.isEmpty_nil, Bool.not_true,
        Bool.or_false]
      refine ((Scan.misc_eq hf).trans
        (Scan.misc_eq (Nat.le_refl _)).symm).trans ?_
      simp only
      cases Scan.misc (layout indent breaks ps).length
        (layout indent breaks ps) <;> rfl
  | cons t ts ih =>
      obtain ⟨ht, hplain⟩ := hr t (List.mem_cons_self ..)
      obtain ⟨text, hpieces, hstarts, htoken⟩ := remark_written ht hplain 0
      have ih := ih (fun u hu => hr u (List.mem_cons_of_mem t hu)) true
        (Nat.le_refl _)
      rw [Scan.misc_eq hf, piecesOfAll, hpieces, List.append_assoc,
        List.singleton_append, skipSpace_layout, if_pos (hstarts _), htoken,
        List.any_cons, List.isEmpty_cons, Bool.not_false, Bool.or_true]
      cases t.isDeclaration with
      | true => rfl
      | false =>
          rw [if_neg (by simp), Option.bind_some, ih, Bool.false_or,
            Bool.true_or]
          split
          · rfl
          · simp only
            cases Scan.misc (layout indent true ps).length
              (layout indent true ps) <;> rfl

-- ============================================================== fronts

/-- Behind white space, written markup stands as at the start of a
text. -/
theorem skipSpace_startsMarkup {ps : List Piece} (h : StartsMarkup ps)
    (indent : Nat) (breaks : Bool) :
    Scan.skipSpace (layout indent breaks ps) = layout indent false ps := by
  obtain ⟨level, text, rest, rfl⟩ := h
  rw [skipSpace_layout, layout, Bool.false_and, if_neg (by simp)]
  rfl

/-- The root begins with its name. -/
theorem root_written (indent : Nat) (e : Element) (children : List Tree)
    (ps : List Piece) :
    ∃ behind, layout indent false
        ((Tree.element e children).pieces 0 ++ ps)
      = '<' :: (e.name.qualified.toList ++ behind) := by
  have hlayout : ∀ tail rest, layout indent false
      (.markup 0 (tagText e ++ tail) :: rest)
      = '<' :: (e.name.qualified.toList ++ (attributesText e.attributes
        ++ (tail ++ layout indent true rest))) := by
    intro tail rest
    rw [layout, Bool.false_and, if_neg (by simp), List.nil_append,
      Assembly.tagText_append]
    simp
  cases children with
  | nil =>
      rw [Tree.pieces, List.singleton_append, hlayout]
      exact ⟨_, rfl⟩
  | cons c cs =>
      rw [Tree.pieces, List.cons_append, List.cons_append, hlayout]
      · exact ⟨_, rfl⟩
      · simp

/-- In front of a root that is written, a scan of comments and instructions
stops: what begins there is a tag. -/
theorem misc_root (indent : Nat) {e : Element} (he : e.Plain)
    (children : List Tree) (breaks : Bool) (ps : List Piece) {fuel : Nat}
    (hf : (layout indent breaks
      ((Tree.element e children).pieces 0 ++ ps)).length ≤ fuel) :
    Scan.misc fuel (layout indent breaks
        ((Tree.element e children).pieces 0 ++ ps))
      = some ([], layout indent false
          ((Tree.element e children).pieces 0 ++ ps)) := by
  have hstarts : StartsMarkup ((Tree.element e children).pieces 0 ++ ps) :=
    startsMarkup_pieces rfl 0 ps
  obtain ⟨behind, hroot⟩ := root_written indent e children ps
  obtain ⟨c, cs, hc⟩ := List.exists_cons_of_ne_nil he.name.ne_nil
  have hmem : c ∈ e.name.qualified.toList := by simp [hc]
  have h1 : c ≠ '!' := he.name.ne hmem rfl rfl
  have h2 : c ≠ '?' := he.name.ne hmem rfl rfl
  rw [Scan.misc_eq hf, skipSpace_startsMarkup hstarts, if_neg]
  rw [hroot, hc, Scan.startsRemark]
  simp [after?, Ne.symm h1, Ne.symm h2]

/-- In front of markup, no value in quotes ends. -/
theorem closed_layout {ps : List Piece} (h : StartsMarkup ps)
    (indent : Nat) (breaks : Bool) : Closed (layout indent breaks ps) := by
  obtain ⟨level, text, rest, rfl⟩ := h
  intro q hq
  have hstop : ∀ cs, (∀ c ∈ cs, c = '\n' ∨ c = ' ') →
      (cs ++ '<' :: (text ++ layout indent true rest)).dropWhile
          (fun c => c != q && !(c == '<'))
        = '<' :: (text ++ layout indent true rest) := by
    intro cs hcs
    have hin : ∀ c ∈ cs, (c != q && !(c == '<')) = true := by
      intro c hc
      rcases hcs c hc with rfl | rfl <;> rcases hq with rfl | rfl <;> rfl
    rw [List.dropWhile_append_of_pos hin, List.dropWhile_cons_of_neg]
    simp
  have hne : ('<' == q) = false := by
    rcases hq with rfl | rfl <;> rfl
  rw [layout, List.append_assoc, List.cons_append, hstop, Scan.char, hne]
  · rfl
  · intro c hc
    split at hc
    · rw [List.mem_cons, List.mem_replicate] at hc
      exact hc.imp_right (·.2)
    · cases hc

theorem declared?_eq_none_iff {t : Tree} :
    t.declared? = none ↔ t.isDeclaration = false := by
  cases t with
  | instruction t d =>
      cases d with
      | none => simp [Tree.declared?, Tree.isDeclaration, isDeclaration]
      | some d => simp [Tree.declared?, Tree.isDeclaration, isDeclaration]
  | _ => exact ⟨fun _ => rfl, fun _ => rfl⟩

/-- What is declared is the data of an instruction for `xml`. -/
theorem of_declared? {t : Tree} {data : List Char}
    (h : t.declared? = some data) :
    ∃ d, t = .instruction "xml" (some d) ∧ data = d.toList := by
  rw [Tree.declared?.eq_def] at h
  split at h
  · split at h
    · rename_i t d ht
      cases h
      exact ⟨d, by rw [beq_iff_eq.mp ht], rfl⟩
    · cases h
  · cases h

/-- The three ways in which a document is begun: with a declaration of
its own, with an instruction that looks like one, and with neither. -/
theorem Content.start_cases (c : Content) (declaration : Bool) :
    (declaration = true
        ∧ c.start declaration = (some declarationData, c.prolog))
      ∨ (declaration = false ∧ ∃ d rest,
        c.prolog = .instruction "xml" (some d) :: rest
          ∧ c.start declaration = (some d.toList, rest))
      ∨ (declaration = false ∧ c.start declaration = (none, c.prolog)
        ∧ ∀ t ∈ c.prolog.head?, t.isDeclaration = false) := by
  cases declaration with
  | true => exact .inl ⟨rfl, rfl⟩
  | false =>
      refine .inr ?_
      rw [start, if_neg (by simp)]
      cases hp : c.prolog with
      | nil => exact .inr ⟨rfl, rfl, by simp⟩
      | cons t rest =>
          cases ht : t.declared? with
          | none =>
              refine .inr ⟨rfl, by simp [ht], fun u hu => ?_⟩
              cases hu
              exact declared?_eq_none_iff.mp ht
          | some data =>
              obtain ⟨d, rfl, rfl⟩ := of_declared? ht
              exact .inl ⟨rfl, d, rest, rfl, by simp [ht]⟩

/-- Without a declaration in the text all of the prolog is there, and it begins
with none. -/
theorem Content.start_of_none {c : Content} {declaration : Bool}
    (hs : (c.start declaration).1 = none) :
    (c.start declaration).2 = c.prolog
      ∧ ∀ t ∈ c.prolog.head?, t.isDeclaration = false := by
  rcases c.start_cases declaration with
    ⟨-, h⟩ | ⟨-, d, rest, hp, h⟩ | ⟨-, h, hno⟩
  · rw [h] at hs
    cases hs
  · rw [h] at hs
    cases hs
  · exact ⟨by rw [h], hno⟩

/-- A document as it is written: what stands at its start, and then all
the other trees. -/
theorem write_eq (c : Content) (options : WriteOptions) :
    c.write options
      = let indent := options.indent.getD 0
        let start := c.start options.declaration
        let pieces := piecesOfAll 0 (start.2 ++ c.root :: c.epilog)
        match start.1 with
        | some data =>
          "<?xml ".toList ++ (data ++ endMark (layout indent true pieces))
        | none => layout indent false pieces := by
  have hfirst : ∀ text rest, layout (options.indent.getD 0) false
      (.markup 0 text :: rest)
      = text ++ layout (options.indent.getD 0) true rest := by
    intro text rest
    rw [layout, Bool.false_and, if_neg (by simp), List.nil_append]
  rw [Content.write, Content.pieces]
  rcases c.start_cases options.declaration with
    ⟨hd, hs⟩ | ⟨hd, d, rest, hp, hs⟩ | ⟨hd, hs, -⟩
  · have htext : declarationText
        = "<?xml ".toList ++ (declarationData ++ "?>".toList) := rfl
    rw [hs, hd, if_pos rfl, List.singleton_append, hfirst, htext]
    simp [endMark]
  · rw [hs, hd, hp, if_neg (by simp), List.nil_append, List.cons_append,
      piecesOfAll, Tree.pieces, List.singleton_append, hfirst]
    simp [endMark, instructionText]
  · rw [hs, hd, if_neg (by simp), List.nil_append]

namespace Content.Plain

variable {c : Content}

/-- The trees in front of the root. -/
theorem start (h : c.Plain) (declaration : Bool) :
    ∀ t ∈ (c.start declaration).2,
      t.isRemark = true ∧ t.All NodeKind.Plain := by
  intro t ht
  refine h.prolog t ?_
  rcases c.start_cases declaration with
    ⟨-, hs⟩ | ⟨-, d, rest, hp, hs⟩ | ⟨-, hs, -⟩
  · rwa [hs] at ht
  · rw [hs] at ht
    rw [hp]
    exact List.mem_cons_of_mem _ ht
  · rwa [hs] at ht

/-- What stands in a declaration has no mark of its end. -/
theorem noMark_start (h : c.Plain) {declaration : Bool} {data : List Char}
    (hdata : (c.start declaration).1 = some data) :
    contains ['?', '>'] data = false := by
  rcases c.start_cases declaration with
    ⟨-, hs⟩ | ⟨-, d, rest, hp, hs⟩ | ⟨-, hs, -⟩
  · rw [hs] at hdata
    cases hdata
    decide
  · rw [hs] at hdata
    cases hdata
    have hfirst := h.prolog (.instruction "xml" (some d)) (by simp [hp])
    exact (hfirst.2.2 d rfl).noMark
  · rw [hs] at hdata
    cases hdata

/-- The trees of a document begin with markup. -/
theorem startsMarkup (h : c.Plain) (declaration : Bool) :
    StartsMarkup (piecesOfAll 0
      ((c.start declaration).2 ++ c.root :: c.epilog)) := by
  have hstart := h.start declaration
  cases hs : (c.start declaration).2 with
  | nil =>
      rw [List.nil_append, piecesOfAll]
      refine startsMarkup_pieces ?_ 0 _
      have hroot := h.isElement
      cases hr : c.root <;> rw [hr] at hroot <;>
        first | rfl | cases hroot
  | cons t rest =>
      rw [hs] at hstart
      have ht := (hstart t (List.mem_cons_self ..)).1
      rw [List.cons_append, piecesOfAll]
      refine startsMarkup_pieces ?_ 0 _
      cases t <;> first | rfl | cases ht

end Content.Plain

/-- The root begins with a name, and so unlike an instruction or a
document type. -/
theorem root_begins {c : Content} (hc : c.Plain) (indent : Nat) :
    ∃ d cs, layout indent false (c.root.pieces 0 ++ piecesOfAll 0 c.epilog)
        = '<' :: d :: cs ∧ d ≠ '?' ∧ d ≠ '!' := by
  have hroot := hc.isElement
  have hplain := hc.root
  cases hr : c.root with
  | element e children =>
      rw [hr] at hplain
      obtain ⟨behind, hw⟩ :=
        root_written indent e children (piecesOfAll 0 c.epilog)
      obtain ⟨d, cs, hd⟩ := List.exists_cons_of_ne_nil hplain.1.name.ne_nil
      rw [hd] at hw
      exact ⟨d, cs ++ behind, hw, hplain.1.name.ne (by simp [hd]) rfl rfl,
        hplain.1.name.ne (by simp [hd]) rfl rfl⟩
  | _ =>
      rw [hr] at hroot
      cases hroot

/-- A document does not begin like a declaration, unless its first
instruction looks like one. -/
theorem mark_absent {c : Content} (hc : c.Plain)
    (hno : ∀ t ∈ c.prolog.head?, t.isDeclaration = false) (indent : Nat) :
    after? "<?xml ".toList (layout indent false
      (piecesOfAll 0 (c.prolog ++ c.root :: c.epilog))) = none := by
  -- all that counts is how the first markup goes on
  have hother : ∀ (c : Char) (cs : List Char), c ≠ '?' →
      after? ['<', '?', 'x', 'm', 'l', ' '] ('<' :: c :: cs) = none := by
    intro c cs hne
    rw [after?, if_pos (by simp)]
    exact after?_cons_ne hne _ _
  show after? ['<', '?', 'x', 'm', 'l', ' '] _ = none
  generalize htext : layout indent false
    (piecesOfAll 0 (c.prolog ++ c.root :: c.epilog)) = text
  cases hp : c.prolog with
  | nil =>
      obtain ⟨d, cs, hroot, hne, -⟩ := root_begins hc indent
      have hlead : text = '<' :: d :: cs := by
        simp only [← htext, hp, List.nil_append, piecesOfAll, hroot]
      rw [hlead]
      exact hother d _ hne
  | cons t rest =>
      have ht := hc.prolog t (by simp [hp])
      have hnot := hno t (by simp [hp])
      cases t with
      | comment s =>
          have hlead : ∃ more, text = '<' :: '!' :: more := by
            simp only [← htext, hp, List.cons_append, piecesOfAll,
              Tree.pieces]
            exact ⟨_, rfl⟩
          obtain ⟨more, hlead⟩ := hlead
          rw [hlead]
          exact hother '!' more (by simp)
      | instruction t d =>
          have hlead : ∃ more, text = '<' :: '?' ::
              (instructionText t d ++ '?' :: '>' :: more) := by
            refine ⟨layout indent true (piecesOfAll 0
              (rest ++ c.root :: c.epilog)), ?_⟩
            simp [← htext, hp, piecesOfAll, Tree.pieces, layout]
          obtain ⟨more, hlead⟩ := hlead
          have hxml := Scan.after?_instruction ht.2.1 d more
          have hdecl : isDeclaration t d = false := hnot
          rw [hdecl, Option.isSome_eq_false_iff, Option.isNone_iff_eq_none]
            at hxml
          rw [hlead, after?, if_pos (by simp), after?, if_pos (by simp)]
          exact hxml
      | element e children => cases ht.1
      | text s => cases ht.1

/-- So it is not taken for one that has a declaration. -/
theorem declaration_absent {c : Content} (hc : c.Plain)
    (hno : ∀ t ∈ c.prolog.head?, t.isDeclaration = false) (indent : Nat) :
    let text := layout indent false
      (piecesOfAll 0 (c.prolog ++ c.root :: c.epilog))
    Scan.declaration text = some text := by
  intro text
  have hmark : after? ['<', '?', 'x', 'm', 'l', ' '] text = none :=
    mark_absent hc hno indent
  rw [Scan.declaration, hmark]

/-- What is scanned in front of the root. -/
theorem misc_start {c : Content} (hc : c.Plain) (declaration : Bool)
    (indent : Nat) (breaks : Bool) :
    let start := (c.start declaration).2
    let text := layout indent breaks
      (piecesOfAll 0 (start ++ c.root :: c.epilog))
    Scan.misc text.length text
      = if start.any Tree.isDeclaration then none
        else some (start.map Tree.token, layout indent false
          (c.root.pieces 0 ++ piecesOfAll 0 c.epilog)) := by
  have hroot := hc.isElement
  have hplain := hc.root
  cases hr : c.root with
  | element e children =>
      rw [hr] at hplain
      simp only [piecesOfAll_append, piecesOfAll]
      rw [misc_written indent (hc.start declaration) breaks _
        (Nat.le_refl _)]
      split
      · rfl
      · simp only
        rw [misc_root indent hplain.1 children _ _ (Nat.le_refl _)]
        simp
  | _ =>
      rw [hr] at hroot
      cases hroot

/-- The root does not look like a document type. -/
theorem doctype_absent {c : Content} (hc : c.Plain) (indent : Nat) :
    after? "<!DOCTYPE".toList (layout indent false
      (c.root.pieces 0 ++ piecesOfAll 0 c.epilog)) = none := by
  obtain ⟨d, cs, hroot, -, hne⟩ := root_begins hc indent
  have hmark : "<!DOCTYPE".toList = '<' :: '!' :: "DOCTYPE".toList := rfl
  rw [hroot, hmark, after?, if_pos (by simp)]
  exact after?_cons_ne hne _ _

/-- The front of a text that begins with markup. -/
theorem Scan.front_eq {cs : List Char} (h : cs.head? = some '<') :
    front cs = (declaration cs).bind fun cs =>
      (misc cs.length cs).bind fun found =>
        match after? "<!DOCTYPE".toList found.2 with
        | none => some ⟨[], found.1, found.2⟩
        | some cs => (doctype cs).bind fun front =>
            some { front with tokens := found.1 ++ front.tokens } := by
  obtain ⟨rest, rfl⟩ := List.head?_eq_some_iff.mp h
  rfl

theorem head?_layout {ps : List Piece} (h : StartsMarkup ps)
    (indent : Nat) : (layout indent false ps).head? = some '<' := by
  obtain ⟨level, text, rest, rfl⟩ := h
  rw [layout, Bool.false_and, if_neg (by simp)]
  rfl

/-- The front of a written document. -/
theorem front_written {c : Content} (hc : c.Plain)
    (options : WriteOptions) :
    Scan.front (c.write options)
      = let indent := options.indent.getD 0
        let start := c.start options.declaration
        if start.1.all isVersioned && !start.2.any Tree.isDeclaration then
          some {
            entities := []
            tokens := start.2.map Tree.token
            rest := layout indent false
              (c.root.pieces 0 ++ piecesOfAll 0 c.epilog) }
        else none := by
  have hmisc := misc_start hc options.declaration (options.indent.getD 0)
  have hdoctype := doctype_absent hc (options.indent.getD 0)
  have hstarts := hc.startsMarkup options.declaration
  rw [write_eq]
  cases hs : (c.start options.declaration).1 with
  | some data =>
      have hdecl := Scan.declaration_written (hc.noMark_start hs)
        (closed_layout hstarts (options.indent.getD 0) true)
      simp only [hs, Option.all_some]
      rw [Scan.front_eq rfl, hdecl]
      cases isVersioned data with
      | false => rfl
      | true =>
          rw [if_pos rfl, Option.bind_some, hmisc true, Bool.true_and]
          cases (c.start options.declaration).2.any Tree.isDeclaration with
          | true => rfl
          | false =>
              rw [if_neg (by simp), Option.bind_some, hdoctype]
              rfl
  | none =>
      have hstart := Content.start_of_none hs
      have hdecl := declaration_absent hc hstart.2 (options.indent.getD 0)
      simp only [hs, Option.all_none, Bool.true_and]
      rw [Scan.front_eq (head?_layout hstarts _), hstart.1, hdecl,
        Option.bind_some, ← hstart.1, hmisc false]
      cases (c.start options.declaration).2.any Tree.isDeclaration with
      | true => rfl
      | false =>
          rw [if_neg (by simp), Option.bind_some, hdoctype]
          rfl

-- ============================================================= endings

/-- The comments and instructions up to the end of a text. -/
def Scan.ending (cs : List Char) : Option (List Token) :=
  (misc cs.length cs).bind fun found =>
    if (skipSpace found.2).isEmpty then some found.1 else none

/-- An end is its first comment or instruction and then the end behind
it, or nothing but white space. -/
theorem Scan.ending_eq (cs : List Char) :
    ending cs
      = if startsRemark (skipSpace cs) then
          (token (skipSpace cs)).bind fun found =>
            (ending found.2).map (found.1 :: ·)
        else if (skipSpace (skipSpace cs)).isEmpty then some []
        else none := by
  rw [ending, misc_eq (Nat.le_refl _)]
  split
  case isFalse => rfl
  case isTrue =>
      cases token (skipSpace cs) with
      | none => rfl
      | some found =>
          simp only [ending, Option.bind_some]
          cases misc found.2.length found.2 with
          | none => rfl
          | some more =>
              simp only [Option.map_some, Option.bind_some]
              split <;> rfl

/-- White space is skipped up to the first other character. -/
theorem skipSpace_append {cs : List Char} {d : Char} (hd : d ∈ cs)
    (hspace : isXmlSpace d = false) (rest : List Char) :
    ∃ x more, Scan.skipSpace (cs ++ rest) = x :: more ∧ x ∈ cs
      ∧ isXmlSpace x = false := by
  induction cs with
  | nil => cases hd
  | cons c cs ih =>
      rw [Scan.skipSpace, List.cons_append]
      by_cases hc : isXmlSpace c = true
      · have hd : d ∈ cs := by
          rcases List.mem_cons.mp hd with rfl | hd
          · rw [hc] at hspace
            cases hspace
          · exact hd
        obtain ⟨x, more, he, hx, hxs⟩ := ih hd
        rw [List.dropWhile_cons_of_pos hc]
        exact ⟨x, more, he, List.mem_cons_of_mem c hx, hxs⟩
      · rw [List.dropWhile_cons_of_neg hc]
        exact ⟨c, _, rfl, List.mem_cons_self .., by simpa using hc⟩

/-- A document does not end in text. -/
theorem ending_text {s : String} (hs : isBlankText s = false)
    (indent : Nat) (breaks : Bool) (ps : List Piece) :
    Scan.ending (layout indent breaks (.text (escape s) :: ps)) = none := by
  obtain ⟨d, hd, hspace⟩ : ∃ d ∈ escape s, isXmlSpace d = false := by
    obtain ⟨c, hc, hblank⟩ := List.all_eq_false.mp hs
    cases hesc : isEscaped c with
    | true =>
        refine ⟨'&', List.mem_flatMap.mpr ⟨c, hc, ?_⟩, rfl⟩
        obtain ⟨more, hmore⟩ := escapeChar_of_escaped hesc
        simp [hmore]
    | false =>
        refine ⟨c, List.mem_flatMap.mpr ⟨c, hc, ?_⟩, ?_⟩
        · simp [escapeChar_of_not_escaped hesc]
        · cases hx : isXmlSpace c with
          | false => rfl
          | true =>
              simp only [isXmlSpace, Bool.or_eq_true, beq_iff_eq] at hx
              rcases hx with ((rfl | rfl) | rfl) | rfl <;>
                exact absurd rfl hblank
  rw [layout]
  generalize layout indent false ps = rest
  obtain ⟨x, more, hskip, hx, hxs⟩ := skipSpace_append hd hspace rest
  have hne : x ≠ '<' := fun he =>
    not_mem_escape s (.inl rfl) (he ▸ hx)
  have hstart : Scan.startsRemark (x :: more) = false := by
    simp [Scan.startsRemark, after?, hne.symm]
  have hstay : Scan.skipSpace (x :: more) = x :: more := by
    simp [Scan.skipSpace, hxs]
  rw [Scan.ending_eq, hskip, hstart, if_neg (by simp), hstay]
  rfl

/-- What is scanned behind the root, up to the end. -/
theorem ending_written (indent : Nat) {ts : List Tree}
    (hts : ∀ t ∈ ts, t.isElement = false ∧ t.All NodeKind.Plain)
    (htext : ∀ s, .text s ∈ ts → isBlankText s = false) (breaks : Bool) :
    Scan.ending (layout indent breaks (piecesOfAll 0 ts))
      = if ts.all (fun t => t.isRemark && !t.isDeclaration) then
          some (ts.map Tree.token)
        else none := by
  induction ts generalizing breaks with
  | nil => rfl
  | cons t rest ih =>
      obtain ⟨helement, hplain⟩ := hts t (List.mem_cons_self ..)
      have ih := ih (fun u hu => hts u (List.mem_cons_of_mem t hu))
        (fun s hs => htext s (List.mem_cons_of_mem t hs)) true
      rw [piecesOfAll, List.all_cons]
      cases hr : t.isRemark with
      | false =>
          cases t with
          | text s =>
              have hs := htext s (List.mem_cons_self ..)
              rw [Tree.pieces, List.singleton_append, ending_text hs]
              rfl
          | element e children => cases helement
          | _ => cases hr
      | true =>
          obtain ⟨text, hpieces, hstarts, htoken⟩ :=
            remark_written hr hplain 0
          rw [hpieces, List.singleton_append, Scan.ending_eq,
            skipSpace_layout, if_pos (hstarts _), htoken]
          cases t.isDeclaration with
          | true => rfl
          | false =>
              rw [if_neg (by simp), Option.bind_some, ih, Bool.not_false,
                Bool.true_and, Bool.true_and, List.map_cons]
              split <;> rfl

-- ===================================================== whole documents

/-- The tokens of comments and instructions add them, one after the
other. -/
theorem Assembly.steps_remarks (expander : Expander) {a : Assembly}
    (hframes : a.frames = []) (htext : a.inText = false) {ts : List Tree}
    (hts : ∀ t ∈ ts, t.isRemark = true) (n : Nat) :
    (a.steps .document expander (ts.map Tree.token)).run n
      = some ({ a with outside := ts.reverse ++ a.outside }, n) := by
  induction ts generalizing a with
  | nil => rfl
  | cons t ts ih =>
      have hstep : (a.step .document expander t.token).run n
          = some ({ a with outside := t :: a.outside }, n) := by
        have hadd : a.add t = { a with outside := t :: a.outside } := by
          rw [add, modifyHere, hframes]
          simp only [← hframes, ← htext]
        have ht := hts t (List.mem_cons_self ..)
        cases t with
        | comment s => rw [← hadd]; rfl
        | instruction t d => rw [← hadd]; rfl
        | element e children => cases ht
        | text s => cases ht
      have ih := @ih { a with outside := t :: a.outside } hframes htext
        fun u hu => hts u (List.mem_cons_of_mem t hu)
      rw [List.map_cons, steps, List.foldlM_cons, StateT.run_bind, hstep]
      refine ih.trans ?_
      rw [List.reverse_cons, List.append_assoc, List.singleton_append]

theorem Assembly.steps_append (expander : Expander) (a : Assembly)
    (ts us : List Token) (n : Nat) :
    (a.steps .document expander (ts ++ us)).run n
      = ((a.steps .document expander ts).run n).bind fun done =>
        (done.1.steps .document expander us).run done.2 := by
  rw [steps, List.foldlM_append, StateT.run_bind]
  rfl

theorem isElement_of_isRemark {t : Tree} (h : t.isRemark = true) :
    t.isElement = false := by
  cases t <;> first | rfl | cases h

theorem isVisible_of_isRemark {t : Tree} (h : t.isRemark = true) :
    t.isVisible = true := by
  cases t <;> first | rfl | cases h

/-- The content whose trees were read in this order. -/
theorem ofTrees_settled {before after : List Tree} {root : Tree}
    (hbefore : ∀ t ∈ before, t.isRemark = true)
    (hroot : root.isElement = true)
    (hafter : ∀ t ∈ after, t.isRemark = true) :
    Content.ofTrees (Assembly.settled
        (after.reverse ++ root :: before.reverse))
      = some { prolog := before, root := root, epilog := after } := by
  have hall : Assembly.settled (after.reverse ++ root :: before.reverse)
      = before ++ root :: after := by
    have hreverse : (after.reverse ++ root :: before.reverse).reverse
        = before ++ root :: after := by
      simp
    rw [Assembly.settled, hreverse]
    refine List.filter_eq_self.mpr fun t ht => ?_
    rcases List.mem_append.mp ht with ht | ht
    · exact isVisible_of_isRemark (hbefore t ht)
    · rcases List.mem_cons.mp ht with rfl | ht
      · cases t <;> first | rfl | cases hroot
      · exact isVisible_of_isRemark (hafter t ht)
  have hno : ∀ t ∈ before, (!t.isElement) = true := fun t ht => by
    rw [isElement_of_isRemark (hbefore t ht)]
    rfl
  have hfind : (before ++ root :: after).find? Tree.isElement
      = some root := by
    rw [List.find?_append, List.find?_eq_none.mpr, List.find?_cons_of_pos]
    · rfl
    · exact hroot
    · intro t ht
      rw [isElement_of_isRemark (hbefore t ht)]
      simp
  have hstop : ¬ (!root.isElement) = true := by
    rw [hroot]
    simp
  rw [hall, Content.ofTrees, hfind]
  simp only [Option.bind_eq_bind, Option.bind_some, Option.pure_def]
  rw [List.dropWhile_append_of_pos hno, List.takeWhile_append_of_pos hno,
    List.dropWhile_cons, List.takeWhile_cons, if_neg hstop, if_neg hstop,
    List.append_nil, List.drop_succ_cons, List.drop_zero,
    List.filter_eq_self.mpr]
  intro t ht
  rw [isElement_of_isRemark (hafter t ht)]
  rfl

/-- The body of a document has three parts: what is in front of the root, the
root, and what is behind it. -/
theorem Scan.body_eq (cs : List Char) :
    body cs = (misc cs.length cs).bind fun found =>
      (element (skipSpace found.2)).bind fun root =>
        (ending root.2).map fun after => found.1 ++ root.1 ++ after := by
  rw [body]
  refine congrArg (Option.bind _) (funext fun found => ?_)
  refine congrArg (Option.bind _) (funext fun root => ?_)
  obtain ⟨ts, rest⟩ := root
  simp only [ending, Option.bind_eq_bind]
  cases misc rest.length rest with
  | none => rfl
  | some after =>
      simp only [Option.bind_some]
      cases (skipSpace after.2).isEmpty <;> rfl

/-- Reading a written root, whose neighbouring texts are read as one. -/
theorem readElement_root (expander : Expander) (indent : Nat)
    {a : Assembly} (hframes : a.frames = []) (hpending : a.pending = [])
    {e : Element} {children : List Tree}
    (hroot : (Tree.element e children).All NodeKind.Plain)
    (ps : List Piece) :
    a.readElement expander (layout indent false
        ((Tree.element e children).pieces 0 ++ ps))
      = ((Tree.element e children).merged.read? []).map fun root =>
          ({ a.add root with sawTag := true }, layout indent true ps) := by
  have hscope : a.scope = [] := by rw [Assembly.scope, hframes]; rfl
  have hmerged := plain_merged _ hroot
  have h := Assembly.readElement_written expander indent 0 hpending
    hmerged.1 hmerged.2 (mergedAll_mergedAll children) ps
  rw [← Tree.merged, layout_merged, hscope] at h
  rw [h, Tree.merged, Tree.read?]
  cases e.read? [] with
  | none => rfl
  | some r =>
      simp only [Option.bind_some]
      cases readAll? r.2 (mergedAll children) <;> rfl

/-- What the root of a written document and the trees behind it add. -/
theorem steps_body (expander : Expander) (indent : Nat) {a : Assembly}
    (hframes : a.frames = []) (hpending : a.pending = [])
    {e : Element} {children epilog : List Tree}
    (hroot : (Tree.element e children).All NodeKind.Plain)
    (hepilog : ∀ t ∈ epilog, t.isElement = false ∧ t.All NodeKind.Plain)
    (htext : ∀ s, .text s ∈ epilog → isBlankText s = false) :
    ((Scan.body (layout indent false
        ((Tree.element e children).pieces 0
          ++ piecesOfAll 0 epilog))).bind fun ts =>
      (a.steps .document expander ts).run 0).map (·.1)
    = if epilog.all (fun t => t.isRemark && !t.isDeclaration) then
        ((Tree.element e children).merged.read? []).map fun root =>
          { a.add root with
            outside := epilog.reverse ++ root :: a.outside
            sawTag := true }
      else none := by
  have hread := readElement_root expander indent hframes hpending hroot
    (piecesOfAll 0 epilog)
  have hending := ending_written indent hepilog htext true
  have hstarts : StartsMarkup ((Tree.element e children).pieces 0
      ++ piecesOfAll 0 epilog) := startsMarkup_pieces rfl 0 _
  rw [Scan.body_eq, misc_root indent hroot.1 children false _
    (Nat.le_refl _), Option.bind_some, skipSpace_startsMarkup hstarts]
  rw [Assembly.readElement] at hread
  cases hr : (Tree.element e children).merged.read? [] with
  | none =>
      rw [hr, Option.map_none, Option.bind_eq_none_iff] at hread
      rw [Option.map_none, ite_self, Option.map_eq_none_iff,
        Option.bind_eq_none_iff]
      -- whatever stands behind the root, its tokens cannot be put together
      intro ts hts
      obtain ⟨found, hfound, hts⟩ := Option.bind_eq_some_iff.mp hts
      obtain ⟨after, -, rfl⟩ := Option.map_eq_some_iff.mp hts
      have hnone := Option.map_eq_none_iff.mp (hread found hfound)
      rw [List.nil_append, Assembly.steps_append, hnone]
      rfl
  | some root =>
      rw [hr, Option.map_some, Option.bind_eq_some_iff] at hread
      obtain ⟨found, hfound, hread⟩ := hread
      obtain ⟨done, hdone, heq⟩ := Option.map_eq_some_iff.mp hread
      obtain ⟨hb, hrest⟩ := Prod.ext_iff.mp heq
      simp only at hb hrest
      rw [hfound, Option.bind_some, hrest, hending]
      split
      case isFalse => rfl
      case isTrue hall =>
          have hremark : ∀ t ∈ epilog, t.isRemark = true := by
            intro t ht
            have h := List.all_eq_true.mp hall t ht
            simp only [Bool.and_eq_true] at h
            exact h.1
          have hadd : a.add root
              = { a with outside := root :: a.outside, inText := false } := by
            rw [Assembly.add, Assembly.modifyHere, hframes]
          rw [Option.map_some, Option.bind_some, List.nil_append,
            Assembly.steps_append, hdone, Option.bind_some, hb,
            Assembly.steps_remarks expander _ _ hremark]
          · rw [Option.map_some, Option.map_some, hadd]
          · rw [hadd]
            exact hframes
          · rw [hadd]

/-- Reading a document goes on behind its front. -/
theorem readContent_of_front {cs rest : List Char} {before : List Tree}
    (hfront : Scan.front cs = some ⟨[], before.map Tree.token, rest⟩)
    (hbefore : ∀ t ∈ before, t.isRemark = true) :
    readContent cs
      = (((Scan.body rest).bind fun ts =>
          (Assembly.steps .document (Entities.expander [] expansionDepth)
            { outside := before.reverse } ts).run 0).map (·.1)).bind
          fun a => if a.frames.isEmpty then
              Content.ofTrees (Assembly.settled a.outside)
            else none := by
  have hfirst := Assembly.steps_remarks
    (Entities.expander [] expansionDepth) (a := {}) rfl rfl hbefore 0
  rw [readContent, hfront]
  simp only [Option.bind_eq_bind, Option.bind_some]
  cases Scan.body rest with
  | none => rfl
  | some ts =>
      rw [Option.bind_some, Assembly.steps_append, hfirst,
        Option.bind_some, Option.bind_some, List.append_nil]
      cases (Assembly.steps .document (Entities.expander [] expansionDepth)
        { outside := before.reverse } ts).run 0 with
      | none => rfl
      | some done =>
          simp only [Option.bind_some, Option.map_some]
          cases done.1.frames.isEmpty <;> rfl

/-- What is read where a document was written. -/
theorem readContent_write {c : Content} (hc : c.Plain)
    (options : WriteOptions) :
    readContent (c.write options) = c.read? options.declaration := by
  have hfront := front_written hc options
  have hstart := hc.start options.declaration
  have hbefore := fun t ht => (hstart t ht).1
  obtain ⟨e, children, hroot⟩ : ∃ e children, c.root = .element e children := by
    have h := hc.isElement
    cases hr : c.root with
    | element e children => exact ⟨e, children, rfl⟩
    | _ => rw [hr] at h; cases h
  rw [Content.read?]
  simp only at hfront ⊢
  generalize c.start options.declaration = start at *
  split at hfront
  case isFalse hno =>
      rw [readContent, hfront, if_neg]
      · rfl
      · intro h
        simp only [Bool.and_eq_true] at h hno
        exact hno h.1
  case isTrue hyes =>
      have hbody := steps_body (Entities.expander [] expansionDepth)
        (options.indent.getD 0) (a := { outside := start.2.reverse })
        rfl rfl (hroot ▸ hc.root) hc.epilog hc.epilogText
      rw [← hroot] at hbody
      rw [readContent_of_front hfront hbefore, hbody, hyes, Bool.true_and]
      split
      case isFalse => rfl
      case isTrue hall =>
          have hremark : ∀ t ∈ c.epilog, t.isRemark = true := by
            intro t ht
            have h := List.all_eq_true.mp hall t ht
            simp only [Bool.and_eq_true] at h
            exact h.1
          cases hread : c.root.merged.read? [] with
          | none => rfl
          | some root =>
              have hkind : root.isElement = true := by
                rw [hroot] at hread
                obtain ⟨r, -, h⟩ := Option.bind_eq_some_iff.mp hread
                obtain ⟨_, -, rfl⟩ := Option.map_eq_some_iff.mp h
                rfl
              exact ofTrees_settled hbefore hkind hremark

end Overlay.Xml
