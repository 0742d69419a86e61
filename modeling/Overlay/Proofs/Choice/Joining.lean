/-
Conditions joined into one.

# Joining

A condition is cut into alternatives, and these into tests. Two conditions
with a mark between them are cut as they are each on its own, if nothing is
open at the end of the first one: the mark then stands where nothing is open,
the blanks around it belong to the parts at its sides, and tests are read
without the blanks at their ends. So the alternatives of two conditions with
`||` between them are those of both, and the tests of two conditions without
alternatives, with `&&` between them, are those of both (`parse_join`).

# What is left open

A condition may leave something open: a quote or a bracket in a literal
without quotes is read as part of the literal. What stands behind such a
condition is not told apart from it, and the last of its tests goes on to the
end of the text, with the same field.
-/
import Overlay.Choice.Condition
import Overlay.Proofs.Choice.Recording
import Overlay.Proofs.Outcome
import Overlay.Proofs.Text.Nesting
import Overlay.Proofs.Text.Trimming

namespace Overlay

open Text

namespace Condition

-- ============================================================= parts

/-- The tests of an alternative. -/
def readAlternative (part : List Char) : Except Fault (List FieldTest) :=
  (splitTop ['&', '&'] {} part).mapM readFieldTest

/-- A condition is read alternative by alternative, and nothing else can go
wrong. -/
theorem parse_eq_ok_iff {text : String} {c : Condition} :
    parse text = .ok c
      ↔ (splitTop ['|', '|'] {} text.toList).mapM readAlternative
        = .ok c.alternatives := by
  have hparse : parse text
      = (splitTop ['|', '|'] {} text.toList).mapM readAlternative
        >>= fun alternatives => .ok ⟨alternatives⟩ := rfl
  rw [hparse]
  constructor
  · intro h
    obtain ⟨alternatives, hread, h⟩ := ok_of_bind h
    cases h
    exact hread
  · intro h
    rw [h]
    rfl

/-- A test is read without the white space around it. -/
theorem readFieldTest_congr {cs ds : List Char}
    (h : trimList cs = trimList ds) : readFieldTest cs = readFieldTest ds := by
  rw [readFieldTest, readFieldTest, h]

section

variable {ε α : Type} {g : List Char → Except ε α} {parts : List (List Char)}

/-- What is read without its front is read from the parts without it. -/
theorem mapM_front {front part : List Char} (h : g (front ++ part) = g part) :
    ((front ++ part) :: parts).mapM g = (part :: parts).mapM g := by
  rw [List.mapM_cons, List.mapM_cons, h]

/-- Where a tail makes no difference to any part it makes none to the last. -/
theorem mapM_extendLast {tail : List Char} (hne : parts ≠ [])
    (h : ∀ part, g (part ++ tail) = g part) :
    (extendLast tail parts).mapM g = parts.mapM g := by
  obtain hnil | ⟨before, part, rfl⟩ := List.eq_nil_or_concat' parts
  · exact absurd hnil hne
  · rw [extendLast_concat, List.mapM_append, List.mapM_append,
      List.mapM_cons, List.mapM_cons, h]

/-- What is read without blanks at its ends is read from a text with a
separator in it as from the texts at its sides, if nothing is open at the end
of the first one. -/
theorem mapM_splitTop_append {sep : List Char} (hsep : IsSeparator sep)
    (hblank : ' ' ∉ sep) (hfront : ∀ part, g (' ' :: part) = g part)
    (hback : ∀ part, g (part ++ [' ']) = g part) {cs ds : List Char}
    (hclosed : ({} : Nest).through cs = {}) {xs ys : List α}
    (hxs : (splitTop sep {} cs).mapM g = .ok xs)
    (hys : (splitTop sep {} ds).mapM g = .ok ys) :
    (splitTop sep {} (cs ++ [' '] ++ (sep ++ [' '] ++ ds))).mapM g
      = .ok (xs ++ ys) := by
  have hplain : ∀ c ∈ [' '], Nest.opens c = false ∧ c ∉ sep := by
    simpa using ⟨rfl, hblank⟩
  obtain ⟨q, qs, hsplit, -⟩ := splitTop_eq_cons hsep {} ds
  have hright : splitTop sep {} (sep ++ [' '] ++ ds)
      = [] :: ([' '] ++ q) :: qs := by
    rw [List.append_assoc, splitTop_append_sep hsep,
      splitTop_plain_append Nest.proper_empty hplain hsep hsplit]
  have hwhole : splitTop sep {} (cs ++ ([' '] ++ (sep ++ [' '] ++ ds)))
      = extendLast [' '] (splitTop sep {} cs) ++ ([' '] ++ q) :: qs := by
    refine splitTop_append hsep
      (by simpa using fun h => hblank (List.mem_of_mem_tail h)) ?_
    rw [hclosed]
    exact splitTop_plain_append Nest.proper_empty hplain hsep hright
  rw [List.append_assoc, hwhole]
  refine mapM_append_of_ok ?_ ?_
  · rw [mapM_extendLast (splitTop_ne_nil hsep {} cs) hback, hxs]
  · rw [mapM_front (hfront q), ← hsplit, hys]

end

-- ============================================================= joining

/-- Nothing is open at the end of a text. -/
def IsClosed (text : String) : Prop :=
  ({} : Nest).through text.toList = {}

/-- There is a `||` in a text where nothing is open. -/
def HasOr (text : String) : Prop := OccursTop ['|', '|'] {} text.toList

theorem readFieldTest_front (cs : List Char) :
    readFieldTest (' ' :: cs) = readFieldTest cs :=
  readFieldTest_congr (trimList_cons (by decide) cs)

theorem readFieldTest_back (cs : List Char) :
    readFieldTest (cs ++ [' ']) = readFieldTest cs :=
  readFieldTest_congr (trimList_concat (by decide) cs)

/-- A blank makes no difference in front of an alternative. -/
theorem readAlternative_front (cs : List Char) :
    readAlternative (' ' :: cs) = readAlternative cs := by
  obtain ⟨q, qs, hsplit, -⟩ := splitTop_eq_cons isSeparator_and {} cs
  have hplain : ∀ c ∈ [' '], Nest.opens c = false ∧ c ∉ ['&', '&'] := by
    simp [Nest.opens]
  have hfront := splitTop_plain_append Nest.proper_empty hplain
    isSeparator_and hsplit
  rw [List.singleton_append] at hfront
  rw [readAlternative, readAlternative, hfront, hsplit]
  exact mapM_front (readFieldTest_front q)

/-- A blank makes no difference behind an alternative. -/
theorem readAlternative_back (cs : List Char) :
    readAlternative (cs ++ [' ']) = readAlternative cs := by
  have hone : ∀ n, splitTop ['&', '&'] n [' '] = [[' ']] := fun n =>
    splitTop_of_not_mem isSeparator_and (List.mem_cons_self ..) (by simp)
  rw [readAlternative, readAlternative,
    splitTop_append isSeparator_and (by simp) (hone _), List.append_nil,
    mapM_extendLast (splitTop_ne_nil isSeparator_and {} cs)
      readFieldTest_back]

/-- Two conditions with `||` between them have the alternatives of both. -/
theorem parse_or {a b : String} {ca cb : Condition} (ha : parse a = .ok ca)
    (hb : parse b = .ok cb) (hclosed : IsClosed a) :
    parse (a ++ " || " ++ b)
      = .ok ⟨ca.alternatives ++ cb.alternatives⟩ := by
  rw [parse_eq_ok_iff] at ha hb ⊢
  have h := mapM_splitTop_append isSeparator_or (by simp)
    readAlternative_front readAlternative_back hclosed ha hb
  simpa using h

/-- A text without `||` where nothing is open is one alternative. -/
theorem parse_eq_ok_of_not_hasOr {text : String} (hno : ¬ HasOr text)
    {c : Condition} (h : parse text = .ok c) :
    ∃ tests, readAlternative text.toList = .ok tests
      ∧ c.alternatives = [tests] := by
  rw [parse_eq_ok_iff, (splitTop_eq_singleton isSeparator_or).mpr hno,
    List.mapM_cons] at h
  obtain ⟨tests, htests, h⟩ := ok_of_bind h
  exact ⟨tests, htests, by simpa using (Except.ok.inj h).symm⟩

/-- Two conditions without `||` have, with `&&` between them, the tests of
both. -/
theorem parse_and {a b : String} {ca cb : Condition} (ha : parse a = .ok ca)
    (hb : parse b = .ok cb) (hclosed : IsClosed a) (hano : ¬ HasOr a)
    (hbno : ¬ HasOr b) :
    ∃ as bs, ca.alternatives = [as] ∧ cb.alternatives = [bs]
      ∧ parse (a ++ " && " ++ b) = .ok ⟨[as ++ bs]⟩ := by
  obtain ⟨as, has, hca⟩ := parse_eq_ok_of_not_hasOr hano ha
  obtain ⟨bs, hbs, hcb⟩ := parse_eq_ok_of_not_hasOr hbno hb
  refine ⟨as, bs, hca, hcb, ?_⟩
  have htests := mapM_splitTop_append isSeparator_and (by simp)
    readFieldTest_front readFieldTest_back hclosed has hbs
  have hone : splitTop ['|', '|'] {} (a ++ " && " ++ b).toList
      = [(a ++ " && " ++ b).toList] := by
    have hright : splitTop ['|', '|'] {} (" && ".toList ++ b.toList)
        = [" && ".toList ++ b.toList] :=
      splitTop_plain_append Nest.proper_empty (by simp [Nest.opens])
        isSeparator_or ((splitTop_eq_singleton isSeparator_or).mpr hbno)
    rw [String.toList_append, String.toList_append, List.append_assoc]
    exact splitTop_append_singleton isSeparator_or hano (by simp)
      (hclosed.symm ▸ hright)
  have htext : (a ++ " && " ++ b).toList
      = a.toList ++ [' '] ++ (['&', '&'] ++ [' '] ++ b.toList) := by
    simp
  rw [parse_eq_ok_iff, hone, List.mapM_cons, readAlternative, htext, htests]
  rfl

-- ==================================================== fields and literals

theorem isBlank_of_isPlain {c : Char} (h : isPlain c = true) :
    isBlank c = false := by
  simp only [isPlain, Bool.and_eq_true] at h
  simpa using h.1.1.1.1

/-- What is read is a field, and a test behind it. -/
theorem of_readFieldTest {cs : List Char} {t : FieldTest}
    (h : readFieldTest cs = .ok t) :
    ∃ field, (trimList cs).takeWhile isPlain = field ∧ field ≠ []
      ∧ t.field = String.ofList field
      ∧ readTest (trimList cs) ((trimList cs).drop field.length)
        = .ok t.test := by
  unfold readFieldTest at h
  simp only at h
  split at h
  · cases h
  · split at h
    · cases h
    case isFalse hfield =>
        obtain ⟨test, htest, h⟩ := ok_of_bind h
        cases h
        exact ⟨_, rfl, by simpa using hfield, rfl, htest⟩

/-- A field ends where something begins that may not stand in it. -/
theorem takeWhile_append_of_head {cs tail : List Char}
    (h : ∀ c ∈ tail.head?, isPlain c = false) :
    (cs ++ tail).takeWhile isPlain = cs.takeWhile isPlain := by
  have htail : tail.takeWhile isPlain = [] := by
    cases tail with
    | nil => rfl
    | cons c tail => simp [h c rfl]
  rw [List.takeWhile_append, htail, List.append_nil]
  split
  case isTrue hall =>
      exact ((List.takeWhile_prefix isPlain).eq_of_length hall).symm
  case isFalse => rfl

/-- A field is read up to the first character that may not stand in it. -/
theorem readFieldTest_append {field rest : List Char} (hne : field ≠ [])
    (hplain : ∀ c ∈ field, isPlain c = true)
    (hrest : ∀ c ∈ rest.head?, isPlain c = false)
    (hlast : ∃ c ∈ rest.getLast?, isBlank c = false) {test : Test}
    (htest : readTest (field ++ rest) rest = .ok test) :
    readFieldTest (field ++ rest) = .ok ⟨String.ofList field, test⟩ := by
  obtain ⟨f, fs, rfl⟩ := List.exists_cons_of_ne_nil hne
  obtain ⟨d, hd, hblank⟩ := hlast
  have htrim : trimList (f :: fs ++ rest) = f :: fs ++ rest := by
    rw [trimList_eq_self_iff]
    refine ⟨fun c hc => ?_, fun c hc => ?_⟩
    · cases hc
      exact isBlank_of_isPlain (hplain f (List.mem_cons_self ..))
    · rw [List.getLast?_append, hd] at hc
      cases hc
      exact hblank
  have hfield : (f :: fs ++ rest).takeWhile isPlain = f :: fs := by
    rw [takeWhile_append_of_head hrest, List.takeWhile_eq_self_iff]
    exact hplain
  unfold readFieldTest
  simp only [htrim, hfield]
  rw [if_neg (by simp), if_neg (by simp), List.drop_left, htest]
  rfl

/-- A comparison for being equal. -/
theorem readTest_equal (text literal : List Char)
    (hfirst : ∃ c ∈ literal.head?, isPlain c = true)
    (hline : '\n' ∉ literal) :
    readTest text (' ' :: '=' :: '=' :: ' ' :: literal)
      = .ok (.compare .equal (String.ofList (unquote literal))) := by
  obtain ⟨c, hc, hplain⟩ := hfirst
  obtain ⟨rest, rfl⟩ := List.head?_eq_some_iff.mp hc
  have hblank := isBlank_of_isPlain hplain
  have hblanks : afterBlanks (' ' :: '=' :: '=' :: ' ' :: c :: rest)
      = some ('=' :: '=' :: ' ' :: c :: rest) := rfl
  have hword : ∀ word l lead, word.toList = l :: lead → l ≠ '=' →
      afterWord word (' ' :: '=' :: '=' :: ' ' :: c :: rest) = none := by
    intro word l lead hword hl
    simp [afterWord, hblanks, after?, hword, hl]
  have hlist : readList (' ' :: '=' :: '=' :: ' ' :: c :: rest) = none := by
    rw [readList, hword "in" 'i' ['n'] rfl (by decide)]
    rfl
  have hpattern : readPattern (' ' :: '=' :: '=' :: ' ' :: c :: rest)
      = none := by
    rw [readPattern, hword "matches" 'm' "atches".toList rfl (by decide)]
    rfl
  have hcomparison : readComparison (' ' :: '=' :: '=' :: ' ' :: c :: rest)
      = some (.compare .equal (String.ofList (unquote (c :: rest)))) := by
    have hrelation : readRelation
        ((' ' :: '=' :: '=' :: ' ' :: c :: rest).dropWhile isBlank)
          = some (.equal, ' ' :: c :: rest) := rfl
    have hliteral : (' ' :: c :: rest).dropWhile isBlank = c :: rest := by
      rw [List.dropWhile_cons_of_pos (by decide),
        List.dropWhile_cons_of_neg (by simp [hblank])]
    have hguard : ((c :: rest).head?.any isPlain && isOneLine (c :: rest))
        = true := by
      simpa [hplain, isOneLine] using hline
    simp only [readComparison, hrelation, Option.bind_eq_bind,
      Option.bind_some, hliteral, hguard]
    rfl
  rw [readTest, hlist, hpattern, hcomparison]

-- ==================================================== what is left open

/-- White space behind a text is in no field. -/
theorem takeWhile_trimList (cs : List Char) :
    (trimList cs).takeWhile isPlain
      = (cs.dropWhile isBlank).takeWhile isPlain := by
  conv_rhs => rw [← List.rdropWhile_append_rtakeWhile (p := isBlank)
    (l := cs.dropWhile isBlank)]
  refine (takeWhile_append_of_head fun c hc => ?_).symm
  have hblank := List.mem_rtakeWhile_imp (List.mem_of_mem_head? hc)
  simp [isPlain, hblank]

/-- What stands behind a test belongs to it, but its field stays as it is. -/
theorem field_of_append {cs tail : List Char} {t t' : FieldTest}
    (h : readFieldTest cs = .ok t) (h' : readFieldTest (cs ++ tail) = .ok t')
    (htail : ∀ c ∈ tail.head?, isPlain c = false) : t'.field = t.field := by
  obtain ⟨field, hfield, hne, hsame, -⟩ := of_readFieldTest h
  obtain ⟨field', hfield', -, hsame', -⟩ := of_readFieldTest h'
  rw [takeWhile_trimList] at hfield hfield'
  have hbegins : (cs.dropWhile isBlank).isEmpty = false := by
    rw [List.isEmpty_eq_false_iff]
    rintro hnil
    rw [hnil] at hfield
    exact hne hfield.symm
  rw [List.dropWhile_append, hbegins, if_neg (by decide),
    takeWhile_append_of_head htail, hfield] at hfield'
  rw [hsame, hsame', hfield']

/-- What is read from parts, as from a text that goes on behind something
open. -/
theorem exists_of_mapM_splitTop_append {ε α : Type}
    {g : List Char → Except ε α} {sep : List Char} (hsep : IsSeparator sep)
    {cs tail : List Char} (hopen : ({} : Nest).through cs ≠ {})
    (htail : ∀ c ∈ tail, Nest.opens c = false)
    (hfirst : ∀ c ∈ tail.head?, c ∉ sep.tail) {xs ys : List α}
    (hxs : (splitTop sep {} cs).mapM g = .ok xs)
    (hys : (splitTop sep {} (cs ++ tail)).mapM g = .ok ys) :
    ∃ part same x y, xs = same ++ [x] ∧ ys = same ++ [y]
      ∧ ({} : Nest).through part ≠ {} ∧ g part = .ok x
      ∧ g (part ++ tail) = .ok y := by
  have hproper := Nest.proper_empty.through cs
  obtain ⟨before, part, hparts⟩ : ∃ before part,
      splitTop sep {} cs = before ++ [part] :=
    (List.eq_nil_or_concat' _).resolve_left (splitTop_ne_nil hsep {} cs)
  rw [splitTop_append hsep hfirst (splitTop_of_open hsep hproper hopen htail),
    List.append_nil, hparts, extendLast_concat] at hys
  rw [hparts] at hxs
  obtain ⟨same, x, hsame, hx, rfl⟩ := of_mapM_concat hxs
  obtain ⟨same', y, hsame', hy, rfl⟩ := of_mapM_concat hys
  obtain rfl := Except.ok.inj (hsame.symm.trans hsame')
  -- what is open at the end of the text is open at the end of its last part
  obtain ⟨-, front, back, hcs, hfront, hback⟩ :=
    part_of_mem_splitTop hsep hparts
  refine ⟨part, same, x, y, rfl, rfl, fun hclosed => hopen ?_, hx, hy⟩
  rw [hcs, hback rfl, List.append_nil, Nest.through_append, hfront, hclosed]

/-- Behind something open, a text goes on as the last test, and its fields are
those that there were. -/
theorem fields_of_open {a tail : String} {ca c : Condition}
    (ha : parse a = .ok ca) (hopen : ¬ IsClosed a)
    (htail : ∀ c ∈ tail.toList, Nest.opens c = false)
    (hfirst : tail.toList.head? = some ' ')
    (hc : parse (a ++ tail) = .ok c) : c.fields = ca.fields := by
  rw [parse_eq_ok_iff] at ha hc
  rw [String.toList_append] at hc
  obtain ⟨part, same, tests, tests', hxs, hys, hpart, hread, hread'⟩ :=
    exists_of_mapM_splitTop_append isSeparator_or hopen htail
      (by simp [hfirst]) ha hc
  obtain ⟨part', same', t, t', rfl, rfl, -, hread, hread'⟩ :=
    exists_of_mapM_splitTop_append isSeparator_and hpart htail
      (by simp [hfirst]) hread hread'
  have hfield := field_of_append hread hread'
    (by rw [hfirst]; rintro c ⟨⟩; decide)
  simp [fields, hxs, hys, hfield]

/-- A field of a condition was read from one of the tests in one of the
alternatives. -/
theorem exists_test_of_mem_fields {text field : String} {c : Condition}
    (h : parse text = .ok c) (hfield : field ∈ c.fields) :
    ∃ part ∈ splitTop ['|', '|'] {} text.toList,
      ∃ cs ∈ splitTop ['&', '&'] {} part,
        ∃ t, readFieldTest cs = .ok t ∧ t.field = field := by
  obtain ⟨t, ht, hsame⟩ := List.mem_map.mp hfield
  obtain ⟨tests, htests, ht⟩ := List.mem_flatten.mp ht
  obtain ⟨part, hpart, hread⟩ :=
    exists_of_mem_mapM (parse_eq_ok_iff.mp h) htests
  obtain ⟨cs, hcs, hread⟩ := exists_of_mem_mapM hread ht
  exact ⟨part, hpart, cs, hcs, t, hread, hsame⟩

/-- The fields of a condition are no longer than it. -/
theorem length_le_of_mem_fields {a field : String} {ca : Condition}
    (ha : parse a = .ok ca) (h : field ∈ ca.fields) :
    field.length ≤ a.length := by
  obtain ⟨part, hpart, cs, hcs, t, hread, rfl⟩ :=
    exists_test_of_mem_fields ha h
  obtain ⟨field, hfield, -, hsame, -⟩ := of_readFieldTest hread
  have hsub : field.Sublist a.toList :=
    calc
      field.Sublist (trimList cs) := hfield ▸ List.takeWhile_sublist _
      List.Sublist _ cs := sublist_trimList cs
      List.Sublist _ part := sublist_of_mem_splitTop isSeparator_and hcs
      List.Sublist _ a.toList := sublist_of_mem_splitTop isSeparator_or hpart
  rw [hsame, String.length_ofList, ← String.length_toList]
  exact hsub.length_le

/-- Where no field has a value, no condition holds. -/
theorem holds_eq_false {a : String} {ca : Condition} (ha : parse a = .ok ca)
    {s : Snapshot} (hs : ∀ field ∈ ca.fields, s.get? field = none) :
    ca.holds s = false := by
  rw [holds, List.any_eq_false]
  intro tests htests
  obtain ⟨part, -, hread⟩ :=
    exists_of_mem_mapM (parse_eq_ok_iff.mp ha) htests
  have hlen := length_of_mapM hread
  have hpos := List.length_pos_iff.mpr
    (splitTop_ne_nil isSeparator_and {} part)
  obtain ⟨t, rest, rfl⟩ := List.exists_cons_of_length_pos (hlen ▸ hpos)
  have ht : t.field ∈ ca.fields :=
    List.mem_map_of_mem (List.mem_flatten.mpr ⟨_, htests, by simp⟩)
  simp [testHolds, hs t.field ht]

/-- A name that is longer than a text. -/
def longName (text : String) : String :=
  String.ofList (List.replicate (text.length + 1) 'k')

theorem eq_of_mem_longName {text : String} {c : Char}
    (h : c ∈ (longName text).toList) : c = 'k' := by
  rw [longName, String.toList_ofList] at h
  exact List.eq_of_mem_replicate h

theorem toList_longName_equal (text : String) :
    (longName text ++ " == v").toList
      = (longName text).toList ++ [' ', '=', '=', ' ', 'v'] := by
  rw [String.toList_append]
  rfl

theorem plain_longName {text : String} {c : Char}
    (h : c ∈ (longName text ++ " == v").toList) :
    Nest.opens c = false ∧ c ∉ ['|', '&'] := by
  rw [toList_longName_equal, List.mem_append] at h
  rcases h with h | h
  · rw [eq_of_mem_longName h]
    decide
  · simp only [List.mem_cons, List.not_mem_nil, or_false] at h
    rcases h with rfl | rfl | rfl | rfl | rfl <;> decide

/-- A comparison of a longer name is read as it is written: nothing in it is a
separator or opens anything. -/
theorem parse_longName (text : String) :
    parse (longName text ++ " == v")
      = .ok ⟨[[⟨longName text, .compare .equal "v"⟩]]⟩ := by
  have hchars : ∀ d ∈ ['|', '&'], d ∉ (longName text ++ " == v").toList :=
    fun d hd hmem => (plain_longName hmem).2 hd
  have hread : readFieldTest (longName text ++ " == v").toList
      = .ok ⟨longName text, .compare .equal "v"⟩ := by
    rw [toList_longName_equal]
    refine (readFieldTest_append (by simp [longName]) (fun c hc => ?_)
      (by rintro c ⟨⟩; decide) ⟨'v', rfl, by decide⟩
      (readTest_equal _ ['v'] ⟨'v', rfl, by decide⟩ (by simp))).trans ?_
    · rw [eq_of_mem_longName hc]
      decide
    · rw [String.ofList_toList]
      rfl
  rw [parse_eq_ok_iff, splitTop_of_not_mem isSeparator_or
    (List.mem_cons_self ..) (hchars '|' (by simp)), List.mapM_cons,
    readAlternative, splitTop_of_not_mem isSeparator_and
    (List.mem_cons_self ..) (hchars '&' (by simp)), List.mapM_cons, hread]
  rfl

/-- And it holds in a snapshot that has this name. -/
theorem get?_longName (text : String) :
    (({} : Snapshot).insert (longName text) "v").get? (longName text)
      = some "v" := by
  have hk : ∀ c ∈ (longName text).toList, c ∉ ['/', '@', '.']
      ∧ isBlank c = false := by
    intro c hc
    rw [eq_of_mem_longName hc]
    decide
  exact Snapshot.get?_insert_self
    ⟨fun hc => (hk _ hc).1 (by simp), fun hc => (hk _ hc).1 (by simp)⟩
    (fun hc => (hk _ hc).1 (by simp)) (by simp [longName])
    (fun c hc => (hk c hc).2) "v"

/-- Only long fields have a value where only a long name has one. -/
theorem get?_eq_none {text field : String}
    (h : field.length ≤ text.length) :
    (({} : Snapshot).insert (longName text) "v").get? field = none := by
  by_contra hsome
  have hbare : Snapshot.IsBare (longName text) :=
    ⟨fun hc => absurd (eq_of_mem_longName hc) (by decide),
      fun hc => absurd (eq_of_mem_longName hc) (by decide)⟩
  have hlen := Snapshot.length_le_of_mem_fieldNames
    (Snapshot.mem_fieldNames_of_get?_insert hbare hsome)
  simp [longName] at hlen
  omega

/-- Behind something open and a mark, a condition on a name of its own is
part of the last test. -/
theorem fields_of_longName {a mark : String} {ca c : Condition}
    (ha : parse a = .ok ca) (hopen : ¬ IsClosed a)
    (hmark : mark ∈ [" || ", " && "])
    (hc : parse (a ++ mark ++ (longName a ++ " == v")) = .ok c) :
    c.fields = ca.fields := by
  have hplain : mark.toList.head? = some ' '
      ∧ mark.toList.all (!Nest.opens ·) = true := by
    simp only [List.mem_cons, List.not_mem_nil, or_false] at hmark
    rcases hmark with rfl | rfl <;> decide
  rw [String.append_assoc] at hc
  refine fields_of_open ha hopen (fun d hd => ?_) ?_ hc
  · rw [String.toList_append, List.mem_append] at hd
    rcases hd with hd | hd
    · simpa using List.all_eq_true.mp hplain.2 d hd
    · exact (plain_longName hd).1
  · rw [String.toList_append, List.head?_append, hplain.1]
    rfl

/-- Conditions are joined: with `||` between them, two conditions hold where
one of them does, and with `&&`, where both do, if neither of them has a `||`
of its own where nothing is open. This is so if nothing is open at the end of
the first one. Where something is, there is a second condition that is not
read on its own behind it, but as what the last test of the first one goes on
with, and does not hold behind `||` where it holds. -/
theorem parse_join {a : String} {ca : Condition} (ha : parse a = .ok ca) :
    (IsClosed a → ∀ b cb, parse b = .ok cb →
      (∃ c, parse (a ++ " || " ++ b) = .ok c
        ∧ c.fields = ca.fields ++ cb.fields
        ∧ ∀ s, c.holds s = (ca.holds s || cb.holds s))
      ∧ (¬ HasOr a → ¬ HasOr b → ∃ c, parse (a ++ " && " ++ b) = .ok c
        ∧ c.fields = ca.fields ++ cb.fields
        ∧ ∀ s, c.holds s = (ca.holds s && cb.holds s)))
    ∧ (¬ IsClosed a → ∃ b cb, parse b = .ok cb ∧ ¬ HasOr b ∧ cb.fields ≠ []
      ∧ (∀ c, parse (a ++ " || " ++ b) = .ok c → c.fields = ca.fields
        ∧ ∃ s, c.holds s ≠ (ca.holds s || cb.holds s))
      ∧ ∀ c, parse (a ++ " && " ++ b) = .ok c → c.fields = ca.fields) := by
  refine ⟨fun hclosed b cb hb => ⟨?_, fun hano hbno => ?_⟩, fun hopen => ?_⟩
  · refine ⟨_, parse_or ha hb hclosed, by simp [fields], fun s => ?_⟩
    exact List.any_append
  · obtain ⟨as, bs, hca, hcb, hparse⟩ := parse_and ha hb hclosed hano hbno
    refine ⟨_, hparse, by simp [fields, hca, hcb], fun s => ?_⟩
    simp [holds, hca, hcb]
  · refine ⟨_, _, parse_longName a, ?_, by simp [fields], fun c hc => ?_,
      fun c hc => fields_of_longName ha hopen (by simp) hc⟩
    · rintro ⟨front, back, htext, -⟩
      have hmem : '|' ∈ (longName a ++ " == v").toList := by simp [htext]
      exact (plain_longName hmem).2 (by simp)
    · -- only the name of the second condition has a value there
      have hfields := fields_of_longName ha hopen (by simp) hc
      refine ⟨hfields, ({} : Snapshot).insert (longName a) "v", ?_⟩
      have hnone : ∀ field ∈ c.fields,
          (({} : Snapshot).insert (longName a) "v").get? field = none := by
        intro field hfield
        exact get?_eq_none (length_le_of_mem_fields ha (hfields ▸ hfield))
      have hequal : equalValues "v" "v" = true := rfl
      rw [holds_eq_false hc hnone]
      simp [holds, testHolds, get?_longName, passes, relates, hequal]

instance (text : String) : Decidable (IsClosed text) :=
  decEq (({} : Nest).through text.toList) {}

instance (text : String) : Decidable (HasOr text) :=
  decidable_of_iff (splitTop ['|', '|'] {} text.toList ≠ [text.toList])
    (by rw [Ne, splitTop_eq_singleton isSeparator_or, not_not, HasOr])

/-- Marks inside quotes and brackets do not matter, nor does what is open in
the second condition. -/
theorem parse_join_listed :
    ∃ ca cb c, parse "Type == 'A || B'" = .ok ca
      ∧ parse "Country in ['A && B', NO] && Name != O'Hara" = .ok cb
      ∧ IsClosed "Type == 'A || B'"
      ∧ parse ("Type == 'A || B'" ++ " && "
        ++ "Country in ['A && B', NO] && Name != O'Hara") = .ok c
      ∧ c.fields = ca.fields ++ cb.fields
      ∧ ∀ s, c.holds s = (ca.holds s && cb.holds s) := by
  obtain ⟨ca, ha, -⟩ := exists_of_any_toOption
    (parse "Type == 'A || B'") (fun _ => true) (by decide +kernel)
  obtain ⟨cb, hb, -⟩ := exists_of_any_toOption
    (parse "Country in ['A && B', NO] && Name != O'Hara") (fun _ => true)
    (by decide +kernel)
  have hclosed : IsClosed "Type == 'A || B'" := by decide +kernel
  obtain ⟨c, hc, hfields, hholds⟩ :=
    ((parse_join ha).1 hclosed _ cb hb).2 (by decide +kernel)
      (by decide +kernel)
  exact ⟨ca, cb, c, ha, hb, hclosed, hc, hfields, hholds⟩

/-- A quote that is left open in a literal reaches over the mark: the second
condition holds, but the joined one is a single test that does not. -/
theorem or_behind_quote :
    ∃ ca cb c, parse "x == it's" = .ok ca ∧ parse "y == v" = .ok cb
      ∧ parse ("x == it's" ++ " || " ++ "y == v") = .ok c
      ∧ ∃ s : Snapshot, c.fields = ["x"] ∧ c.holds s = false
        ∧ cb.holds s = true := by
  obtain ⟨ca, ha, -⟩ := exists_of_any_toOption (parse "x == it's")
    (fun _ => true) (by decide +kernel)
  obtain ⟨cb, hb, hholds⟩ := exists_of_any_toOption (parse "y == v")
    (holds (({} : Snapshot).insert "r/y" "v")) (by decide +kernel)
  obtain ⟨c, hc, hjoined⟩ := exists_of_any_toOption
    (parse ("x == it's" ++ " || " ++ "y == v"))
    (fun c => c.fields == ["x"]
      && !holds (({} : Snapshot).insert "r/y" "v") c) (by decide +kernel)
  rw [Bool.and_eq_true, beq_iff_eq, Bool.not_eq_true'] at hjoined
  exact ⟨ca, cb, c, ha, hb, hc, _, hjoined.1, hjoined.2, hholds⟩

end Condition

end Overlay
