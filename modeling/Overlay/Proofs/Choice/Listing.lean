/-
Lists of literals as alternatives.

# Literals in quotes

A literal in quotes leaves the brackets alone and closes what it opens, so
that nothing in it is taken for a separator (`Quoted.flat`), and without its
quotes it is what it was (`Quoted.unquote_chars`). A list of such literals is
cut into them at its commas (`unquote_splitTop`), and a list in brackets is
not cut at all.

# Fields

A field that is accepted somewhere has nothing in it where a condition is cut
(`isField_of_mem_fields`). If it leaves nothing open, it can be written in
front of any test.

# Both ways of writing

So a field that is tested for being in a list has the literals as they are,
but for those that are empty, which a list drops. A text that is compared with
an empty literal is equal to it only if it is empty itself: where it is not,
the list says what its literals say, compared one after the other
(`in_eq_alternatives`).
-/
import Overlay.Proofs.Choice.Joining

namespace Overlay

open Text

-- ===================================================== literals in quotes

/-- A literal in quotes of a kind that it does not contain, on one line. -/
structure Quoted where
  text : List Char
  quote : Char
  isQuote : quote = '\'' ∨ quote = '"'
  free : quote ∉ text
  oneLine : '\n' ∉ text

namespace Quoted

variable (l : Quoted)

/-- The literal with its quotes. -/
def chars : List Char := l.quote :: l.text ++ [l.quote]

/-- The literal with its quotes, as it is written. -/
def written : String := String.ofList l.chars

/-- What holds of both kinds of quotes holds of the quote. -/
theorem of_quotes {P : Char → Prop} (single : P '\'') (double : P '"') :
    P l.quote := by
  rcases l.isQuote with h | h
  · exact h ▸ single
  · exact h ▸ double

theorem opens_quote : Nest.opens l.quote = true :=
  l.of_quotes (P := (Nest.opens · = true)) rfl rfl

theorem isBlank_quote : isBlank l.quote = false :=
  l.of_quotes (P := (isBlank · = false)) (by decide) (by decide)

theorem isPlain_quote : Condition.isPlain l.quote = true :=
  l.of_quotes (P := (Condition.isPlain · = true)) (by decide) (by decide)

theorem getLast?_chars : l.chars.getLast? = some l.quote :=
  List.getLast?_concat

theorem oneLine_chars : '\n' ∉ l.chars := by
  have hquote : '\n' ≠ l.quote :=
    l.of_quotes (P := ('\n' ≠ ·)) (by decide) (by decide)
  simp [chars, hquote, l.oneLine]

/-- What is open in the literal is its quote. -/
theorem through_cons {n : Nest} (hn : n.quote = none) {front : List Char}
    (h : front <+: l.text) :
    n.through (l.quote :: front) = { n with quote := some l.quote } := by
  have hstep : n.step l.quote = { n with quote := some l.quote } := by
    rw [Nest.step, hn]
    exact if_pos (l.of_quotes (P := fun c => (c == '\'' || c == '"') = true)
      rfl rfl)
  rw [Nest.through_cons, hstep]
  exact Nest.through_of_quote rfl fun hmem => l.free (h.subset hmem)

/-- What a literal in quotes begins with is nothing, all of it, or its first
quote with some of its text behind it. -/
theorem prefix_chars {front : List Char} (h : front <+: l.chars) :
    front = [] ∨ front = l.chars
      ∨ ∃ rest, front = l.quote :: rest ∧ rest <+: l.text := by
  cases front with
  | nil => exact .inl rfl
  | cons c rest =>
      obtain ⟨rfl, hrest⟩ := List.cons_prefix_cons.mp h
      rcases List.prefix_concat_iff.mp hrest with rfl | hrest
      · exact .inr (.inl rfl)
      · exact .inr (.inr ⟨rest, rfl, hrest⟩)

/-- So it is flat: the quote that opens it is closed by its end, and until then
brackets do not count. -/
theorem flat : Flat l.chars := by
  have hthrough : ∀ n : Nest, n.quote = none → n.through l.chars = n := by
    intro n hn
    rw [chars, Nest.through_append, l.through_cons hn List.prefix_rfl]
    obtain ⟨quote, brackets⟩ := n
    cases hn
    simp [Nest.step]
  refine ⟨hthrough, fun n hn front hfront => ?_⟩
  rcases l.prefix_chars hfront with rfl | rfl | ⟨rest, rfl, hrest⟩
  · rfl
  · rw [hthrough n hn]
  · rw [l.through_cons hn hrest]

/-- A literal in quotes is one part. -/
theorem splitTop_chars {sep : List Char} (hsep : IsSeparator sep) {n : Nest}
    (hn : n.quote = none) : splitTop sep n l.chars = [l.chars] := by
  rw [splitTop_eq_singleton hsep]
  rintro ⟨front, back, htext, htop⟩
  have hfront : front <+: l.chars := ⟨sep ++ back, by simp [htext]⟩
  rcases l.prefix_chars hfront with rfl | rfl | ⟨rest, rfl, hrest⟩
  · obtain ⟨c, cs, rfl⟩ := List.exists_cons_of_ne_nil hsep.ne_nil
    obtain ⟨hc, -⟩ := List.cons.inj htext
    have hplain := hsep.plain c (List.mem_cons_self ..)
    rw [← hc, l.opens_quote] at hplain
    cases hplain
  · simp [hsep.ne_nil] at htext
  · rw [l.through_cons hn hrest] at htop
    cases htop

/-- Without its quotes, a literal is what it is. -/
theorem unquote_chars : Condition.unquote l.chars = l.text := by
  have htrim : trimList l.chars = l.chars := by
    refine trimList_eq_self_iff.mpr ⟨fun c hc => ?_, fun c hc => ?_⟩
    · cases hc
      exact l.isBlank_quote
    · rw [l.getLast?_chars] at hc
      cases hc
      exact l.isBlank_quote
  have hinner : (after? [l.quote] l.chars).bind (before? [l.quote])
      = some l.text := by
    have hafter : after? [l.quote] l.chars = some (l.text ++ [l.quote]) :=
      after?_append [l.quote] (l.text ++ [l.quote])
    rw [hafter]
    exact before?_eq_some_iff.mpr rfl
  unfold Condition.unquote
  simp only [htrim]
  rcases l.isQuote with h | h
  · rw [h] at hinner
    rw [hinner]
    rfl
  · have hno : after? ['\''] l.chars = none := by
      rw [chars, h]
      rfl
    rw [h] at hinner
    rw [hno, hinner]
    rfl

end Quoted

/-- Literals in quotes, with commas between them. -/
def listed (ls : List Quoted) : List Char :=
  [',', ' '].intercalate (ls.map Quoted.chars)

/-- Literals are listed with a comma and a blank between them. -/
theorem listed_cons_cons (l next : Quoted) (rest : List Quoted) :
    listed (l :: next :: rest)
      = l.chars ++ ([','] ++ ([' '] ++ listed (next :: rest))) := by
  simp [listed, List.intercalate]

/-- Listed literals are a flat text. -/
theorem flat_listed (ls : List Quoted) : Flat (listed ls) := by
  induction ls with
  | nil => exact .of_plain (by simp [listed, List.intercalate])
  | cons l ls ih =>
      cases ls with
      | nil => simpa [listed, List.intercalate] using l.flat
      | cons next rest =>
          rw [listed_cons_cons]
          refine l.flat.append (.append ?_ (.append ?_ ih)) <;>
            exact .of_plain (by simp [Nest.opens])

/-- Listed literals stand on one line. -/
theorem oneLine_listed (ls : List Quoted) : '\n' ∉ listed ls := by
  induction ls with
  | nil => simp [listed, List.intercalate]
  | cons l ls ih =>
      cases ls with
      | nil => simpa [listed, List.intercalate] using l.oneLine_chars
      | cons next rest =>
          rw [listed_cons_cons]
          simp [l.oneLine_chars, ih]

theorem unquote_blank (cs : List Char) :
    Condition.unquote (' ' :: cs) = Condition.unquote cs := by
  rw [Condition.unquote, Condition.unquote, trimList_cons (by decide)]

/-- A list is cut at its commas, and without their quotes its literals are
what they are. -/
theorem unquote_splitTop (ls : List Quoted) (hne : ls ≠ []) :
    (splitTop [','] {} (listed ls)).map Condition.unquote
      = ls.map Quoted.text := by
  induction ls with
  | nil => exact absurd rfl hne
  | cons l ls ih =>
      cases ls with
      | nil =>
          have hone : listed [l] = l.chars := by
            simp [listed, List.intercalate]
          rw [hone, l.splitTop_chars isSeparator_comma rfl]
          simp [l.unquote_chars]
      | cons next rest =>
          obtain ⟨q, qs, hsplit, -⟩ :=
            splitTop_eq_cons isSeparator_comma {} (listed (next :: rest))
          have hright : splitTop [','] {}
              ([','] ++ ([' '] ++ listed (next :: rest)))
                = [] :: ([' '] ++ q) :: qs := by
            rw [splitTop_append_sep isSeparator_comma,
              splitTop_plain_append Nest.proper_empty (by simp [Nest.opens])
                isSeparator_comma hsplit]
          have hrest := ih (by simp)
          rw [hsplit, List.map_cons] at hrest
          rw [listed_cons_cons, splitTop_append isSeparator_comma (by simp)
            ((l.flat.through {} rfl).symm ▸ hright),
            l.splitTop_chars isSeparator_comma rfl]
          simp only [extendLast, List.append_nil, List.singleton_append,
            List.map_cons, l.unquote_chars, unquote_blank]
          rw [hrest, List.map_cons]

-- ============================================================== fields

namespace Condition

/-- A text that is accepted as a field, and in which a condition is not
cut. -/
structure IsField (field : String) : Prop where
  ne_nil : field.toList ≠ []
  plain : ∀ c ∈ field.toList, isPlain c = true
  noOr : ¬ OccursTop ['|', '|'] {} field.toList
  noAnd : ¬ OccursTop ['&', '&'] {} field.toList

/-- No blank opens anything. -/
theorem opens_of_isBlank {c : Char} (h : isBlank c = true) :
    Nest.opens c = false := by
  by_contra hopens
  simp only [Nest.opens, Bool.not_eq_false, Bool.or_eq_true,
    beq_iff_eq] at hopens
  rcases hopens with ((rfl | rfl) | rfl) | rfl <;> exact absurd h (by decide)

/-- The fields of a condition that was accepted are such texts. -/
theorem isField_of_mem_fields {text field : String} {c : Condition}
    (h : parse text = .ok c) (hfield : field ∈ c.fields) :
    IsField field := by
  obtain ⟨part, hpart, cs, hcs, t, hread, rfl⟩ :=
    exists_test_of_mem_fields h hfield
  obtain ⟨chars, hchars, hne, hsame, -⟩ := of_readFieldTest hread
  rw [takeWhile_trimList] at hchars
  obtain ⟨before, behind, hparts⟩ := List.append_of_mem hpart
  obtain ⟨hnoOr, -⟩ := part_of_mem_splitTop isSeparator_or hparts
  obtain ⟨before, behind, hparts⟩ := List.append_of_mem hcs
  obtain ⟨hnoAnd, front, back, rfl, hfront, -⟩ :=
    part_of_mem_splitTop isSeparator_and hparts
  -- white space stands in front of the field, and opens nothing
  have hcs : cs = cs.takeWhile isBlank ++ chars
      ++ (cs.dropWhile isBlank).dropWhile isPlain := by
    rw [List.append_assoc, ← hchars, List.takeWhile_append_dropWhile,
      List.takeWhile_append_dropWhile]
  have hblanks : ({} : Nest).through (cs.takeWhile isBlank) = {} :=
    Nest.proper_empty.through_of_plain fun c hc =>
      opens_of_isBlank (List.mem_takeWhile_imp hc)
  have hoccurs : ∀ sep, OccursTop sep {} chars → OccursTop sep {} cs := by
    intro sep hsep
    rw [hcs]
    exact occursTop_infix _ _ (hblanks.symm ▸ hsep)
  rw [hsame]
  refine ⟨by simpa using hne, fun c hc => ?_, fun hor => hnoOr ?_,
    fun hand => hnoAnd ?_⟩
  · rw [String.toList_ofList, ← hchars] at hc
    exact List.mem_takeWhile_imp hc
  · rw [String.toList_ofList] at hor
    exact occursTop_infix _ _ (hfront.symm ▸ hoccurs _ hor)
  · rw [String.toList_ofList] at hand
    exact hoccurs _ hand

/-- A condition that is one test. -/
theorem parse_one {field : String} (hf : IsField field)
    (hclosed : IsClosed field) (rest : List Char)
    (hfirst : rest.head? = some ' ')
    (hrest : ∀ c, c = '|' ∨ c = '&' → splitTop [c, c] {} rest = [rest])
    (hlast : ∃ c ∈ rest.getLast?, isBlank c = false) {test : Test}
    (htest : readTest (field.toList ++ rest) rest = .ok test) :
    parse (field ++ String.ofList rest) = .ok ⟨[[⟨field, test⟩]]⟩ := by
  have hread : readFieldTest (field.toList ++ rest) = .ok ⟨field, test⟩ := by
    refine (readFieldTest_append hf.ne_nil hf.plain ?_ hlast htest).trans ?_
    · rw [hfirst]
      rintro c ⟨⟩
      decide
    · rw [String.ofList_toList]
  rw [parse_eq_ok_iff, String.toList_append, String.toList_ofList,
    splitTop_append_singleton isSeparator_or hf.noOr (by simp [hfirst])
      (hclosed.symm ▸ hrest '|' (.inl rfl)), List.mapM_cons, readAlternative,
    splitTop_append_singleton isSeparator_and hf.noAnd (by simp [hfirst])
      (hclosed.symm ▸ hrest '&' (.inr rfl)), List.mapM_cons, hread]
  rfl

theorem isSeparator_of_mark {c : Char} (h : c = '|' ∨ c = '&') :
    IsSeparator [c, c] := by
  rcases h with rfl | rfl
  · exact isSeparator_or
  · exact isSeparator_and

/-- A field compared with a literal in quotes. -/
theorem parse_compared {field : String} (hf : IsField field)
    (hclosed : IsClosed field) (l : Quoted) :
    parse (field ++ String.ofList (' ' :: '=' :: '=' :: ' ' :: l.chars))
      = .ok ⟨[[⟨field, .compare .equal (String.ofList l.text)⟩]]⟩ := by
  refine parse_one hf hclosed _ rfl (fun c hc => ?_)
    ⟨l.quote, by simp [List.getLast?_cons, l.getLast?_chars],
      l.isBlank_quote⟩ ?_
  · have hplain : ∀ d ∈ [' ', '=', '=', ' '],
        Nest.opens d = false ∧ d ∉ [c, c] := by
      rcases hc with rfl | rfl <;> simp [Nest.opens]
    exact splitTop_plain_append Nest.proper_empty hplain
      (isSeparator_of_mark hc)
      (l.splitTop_chars (isSeparator_of_mark hc) rfl)
  · have htest := readTest_equal (field.toList
      ++ ' ' :: '=' :: '=' :: ' ' :: l.chars) l.chars
      ⟨l.quote, rfl, l.isPlain_quote⟩ l.oneLine_chars
    rwa [l.unquote_chars] at htest

/-- A list in brackets has the literals that are written in it, but for the
empty ones. -/
theorem readList_listed {ls : List Quoted} (hne : ls ≠ []) :
    readList (' ' :: 'i' :: 'n' :: ' ' :: '[' :: (listed ls ++ [']']))
      = some (((ls.map Quoted.text).filter (!·.isEmpty)).map
        String.ofList) := by
  have hword : afterWord "in"
      (' ' :: 'i' :: 'n' :: ' ' :: '[' :: (listed ls ++ [']']))
        = some ('[' :: (listed ls ++ [']'])) := rfl
  have hitems : before? [']'] (listed ls ++ [']']) = some (listed ls) :=
    before?_eq_some_iff.mpr rfl
  have hline : isOneLine (listed ls) = true := by
    simpa [isOneLine] using oneLine_listed ls
  rw [← unquote_splitTop ls hne]
  simp only [readList, hword, after?, hitems, hline, Option.bind_eq_bind,
    Option.bind_some, beq_self_eq_true, if_true]
  rfl

/-- A field that is looked for in a list of literals in quotes. -/
theorem parse_listed {field : String} (hf : IsField field)
    (hclosed : IsClosed field) {ls : List Quoted} (hne : ls ≠ []) :
    parse (field ++ String.ofList
        (' ' :: 'i' :: 'n' :: ' ' :: '[' :: (listed ls ++ [']'])))
      = .ok ⟨[[⟨field, .oneOf (((ls.map Quoted.text).filter
        (!·.isEmpty)).map String.ofList)⟩]]⟩ := by
  refine parse_one hf hclosed _ rfl (fun c hc => ?_)
    ⟨']', by simp [List.getLast?_cons], by decide⟩ ?_
  · have hplain : ∀ d ∈ [' ', 'i', 'n', ' '],
        Nest.opens d = false ∧ d ∉ [c, c] := by
      rcases hc with rfl | rfl <;> simp [Nest.opens]
    exact splitTop_plain_append Nest.proper_empty hplain
      (isSeparator_of_mark hc)
      (splitTop_brackets (isSeparator_of_mark hc) (flat_listed ls))
  · rw [readTest, readList_listed hne]

-- ================================================ both ways of writing

/-- A field compared with literals, one after the other. -/
def comparisons (field : String) (ls : List Quoted) : String :=
  join " || " (ls.map fun l => field ++ " == " ++ l.written)

/-- A comparison with a literal is the field, the operator and the literal in
quotes. -/
theorem compared_eq (field : String) (l : Quoted) :
    field ++ " == " ++ l.written
      = field ++ String.ofList (' ' :: '=' :: '=' :: ' ' :: l.chars) := by
  rw [← String.toList_inj]
  simp [Quoted.written]

/-- It is closed if the field is, since the literal is flat. -/
theorem isClosed_compared {field : String} (hclosed : IsClosed field)
    (l : Quoted) : IsClosed (field ++ " == " ++ l.written) := by
  have hplain : ∀ c ∈ [' ', '=', '=', ' '], Nest.opens c = false := by
    simp [Nest.opens]
  have htext : (field ++ " == " ++ l.written).toList
      = field.toList ++ ([' ', '=', '=', ' '] ++ l.chars) := by
    simp [Quoted.written]
  rw [IsClosed, htext, Nest.through_append, hclosed, Nest.through_append,
    Nest.proper_empty.through_of_plain hplain, l.flat.through {} rfl]

/-- Alternatives with one comparison each. -/
theorem parse_comparisons {field : String} (hf : IsField field)
    (hclosed : IsClosed field) {ls : List Quoted} (hne : ls ≠ []) :
    parse (comparisons field ls) = .ok ⟨ls.map fun l =>
      [⟨field, .compare .equal (String.ofList l.text)⟩]⟩ := by
  induction ls with
  | nil => exact absurd rfl hne
  | cons l ls ih =>
      have hone := parse_compared hf hclosed l
      rw [← compared_eq] at hone
      cases ls with
      | nil => simpa [comparisons, join] using hone
      | cons next rest =>
          have hjoin : comparisons field (l :: next :: rest)
              = field ++ " == " ++ l.written ++ " || "
                ++ comparisons field (next :: rest) := by
            simp only [comparisons, join, List.map_cons,
              String.intercalate_cons_cons]
          rw [hjoin]
          exact parse_or hone (ih (by simp)) (isClosed_compared hclosed l)

/-- Only the empty text is equal to the empty text. -/
theorem equalValues_empty (value : String) :
    equalValues value "" = (value == "") := by
  have hnone : numbers? value "" = none := by
    unfold numbers?
    cases Decimal.real? (trimList value.toList) with
    | none => rfl
    | some x => rfl
  rw [equalValues, hnone]

/-- A field is in a list of literals in quotes exactly if it is equal to one
of them, where it is a field that is accepted and leaves nothing open, and
where no literal is empty or its value is not. -/
theorem in_eq_alternatives {text field : String} {c : Condition}
    (hc : parse text = .ok c) (hfield : field ∈ c.fields)
    (hclosed : IsClosed field) {ls : List Quoted} (hne : ls ≠ []) :
    ∃ inList compared,
      parse (field ++ " in [" ++ join ", " (ls.map Quoted.written) ++ "]")
        = .ok inList
      ∧ parse (comparisons field ls) = .ok compared
      ∧ ∀ s : Snapshot, (s.get? field ≠ some "" ∨ ∀ l ∈ ls, l.text ≠ []) →
        inList.holds s = compared.holds s := by
  have hf := isField_of_mem_fields hc hfield
  have htext : field ++ " in [" ++ join ", " (ls.map Quoted.written) ++ "]"
      = field ++ String.ofList
        (' ' :: 'i' :: 'n' :: ' ' :: '[' :: (listed ls ++ [']'])) := by
    rw [← String.toList_inj]
    simp [join, listed, Function.comp_def, Quoted.written]
  refine ⟨_, _, htext ▸ parse_listed hf hclosed hne,
    parse_comparisons hf hclosed hne, fun s hs => ?_⟩
  have hlist : ∀ literals : List String,
      holds s ⟨[[⟨field, .oneOf literals⟩]]⟩
        = (s.get? field).any fun value => literals.any (equalValues value) :=
    fun literals => by simp [holds, testHolds, passes]
  have hcompared : holds s ⟨ls.map fun l =>
        [⟨field, .compare .equal (String.ofList l.text)⟩]⟩
      = ls.any fun l => (s.get? field).any
        (equalValues · (String.ofList l.text)) := by
    simp [holds, testHolds, passes, relates, Function.comp_def]
  rw [hlist, hcompared]
  cases hvalue : s.get? field with
  | none => simp
  | some value =>
      rw [Option.any_some, Bool.eq_iff_iff]
      simp only [List.any_eq_true, Option.any_some, List.mem_map,
        List.mem_filter]
      constructor
      · rintro ⟨_, ⟨_, ⟨⟨l, hl, rfl⟩, -⟩, rfl⟩, hequal⟩
        exact ⟨l, hl, hequal⟩
      · rintro ⟨l, hl, hequal⟩
        -- an empty literal, which the list has not, is not met by the value
        have hfull : l.text ≠ [] := by
          intro hempty
          rw [hempty, String.ofList_nil, equalValues_empty,
            beq_iff_eq] at hequal
          rcases hs with hs | hs
          · exact hs (hequal ▸ hvalue)
          · exact hs l hl hempty
        exact ⟨_, ⟨_, ⟨⟨l, hl, rfl⟩, by simpa using hfull⟩, rfl⟩, hequal⟩

/-- Literals with a comma, a bracket, a quote and a mark in them. -/
theorem in_eq_alternatives_quoted :
    ∃ c inList compared, parse "Country == NO" = .ok c
      ∧ "Country" ∈ c.fields ∧ IsClosed "Country"
      ∧ parse "Country in ['A, B]', \"it's || x\"]" = .ok inList
      ∧ parse "Country == 'A, B]' || Country == \"it's || x\"" = .ok compared
      ∧ ∀ s : Snapshot, inList.holds s = compared.holds s := by
  obtain ⟨c, hc, hfields⟩ := exists_of_any_toOption
    (parse "Country == NO") (·.fields == ["Country"]) (by decide +kernel)
  rw [beq_iff_eq] at hfields
  have hmem : "Country" ∈ c.fields := by simp [hfields]
  have hclosed : IsClosed "Country" := by decide +kernel
  let comma : Quoted := ⟨"A, B]".toList, '\'', .inl rfl, by decide, by decide⟩
  let mark : Quoted :=
    ⟨"it's || x".toList, '"', .inr rfl, by decide, by decide⟩
  obtain ⟨inList, compared, hin, hor, hholds⟩ :=
    in_eq_alternatives hc hmem hclosed
      (List.cons_ne_nil comma [mark])
  refine ⟨c, inList, compared, hc, hmem, hclosed, hin, hor,
    fun s => hholds s (.inr ?_)⟩
  simp [comma, mark]

/-- A field that leaves a quote open reaches over the mark behind it, as a
list does not; and an empty literal that a field is compared with is not in a
list. -/
theorem in_differs :
    (∃ inList compared, parse "a' in ['x', 'y']" = .ok inList
      ∧ parse "a' == 'x' || a' == 'y'" = .ok compared
      ∧ ∃ s : Snapshot, inList.holds s = true ∧ compared.holds s = false)
    ∧ ∃ inList compared, parse "a in ['']" = .ok inList
      ∧ parse "a == ''" = .ok compared
      ∧ ∃ s : Snapshot, inList.holds s = false
        ∧ compared.holds s = true := by
  constructor
  · obtain ⟨inList, hin, hholds⟩ := exists_of_any_toOption
      (parse "a' in ['x', 'y']") (holds (({} : Snapshot).insert "a'" "y"))
      (by decide +kernel)
    obtain ⟨compared, hor, hnot⟩ := exists_of_any_toOption
      (parse "a' == 'x' || a' == 'y'")
      (!holds (({} : Snapshot).insert "a'" "y") ·) (by decide +kernel)
    exact ⟨inList, compared, hin, hor, _, hholds,
      (Bool.not_eq_true' _).mp hnot⟩
  · obtain ⟨inList, hin, hnot⟩ := exists_of_any_toOption
      (parse "a in ['']") (!holds (({} : Snapshot).insert "a" "") ·)
      (by decide +kernel)
    obtain ⟨compared, hor, hholds⟩ := exists_of_any_toOption
      (parse "a == ''") (holds (({} : Snapshot).insert "a" ""))
      (by decide +kernel)
    exact ⟨inList, compared, hin, hor, _, (Bool.not_eq_true' _).mp hnot,
      hholds⟩

end Condition

end Overlay
