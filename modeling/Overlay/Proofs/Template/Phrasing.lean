/-
How formulas are written.

# The grammar

It comes in two layers. `Token.Written` says how each token is spelled,
and `Spelling` puts tokens behind one another, with any white space
between them. `Shape` then lists the forms, token by token. Neither layer
looks at the reader, so a text may be spelled in several ways: what could
be one name could also be two that touch.

# Why the reader finds the form

In a form, of two tokens that follow each other one is a mark (`Parted`).
So a name, a number or a span ends where the reader ends it, namely in
front of white space, of a mark, or at the end (`Closed`), and a spelling
with parted tokens is the one that is read (`tokens_of_spelling`). The
other direction needs no such care: what is read is spelled
(`spelling_of_tokens`), and tokens that are read as a formula have its
shape (`ofTokens?_eq_some_iff`). Together a text is read as the formula
whose form it has, and as the name of a field if it has none.
-/
import Overlay.Proofs.Decimal.Digits
import Overlay.Proofs.Text.Cutting
import Overlay.Proofs.Text.Trimming
import Overlay.Template.Formula

namespace Overlay.Formula

open Text Decimal

-- ========================================================= the grammar

/-- Digits, at least one. -/
def IsDigits (cs : List Char) : Prop :=
  cs ≠ [] ∧ ∀ c ∈ cs, isAsciiDigit c = true

/-- A name: a letter or `_`, and then letters, numbers, `_` and points. -/
def IsName (cs : List Char) : Prop :=
  ∃ c rest, cs = c :: rest ∧ startsName c = true
    ∧ ∀ d ∈ rest, continuesName d = true

/-- A digit, and then digits and points. -/
def IsNumeral (cs : List Char) : Prop :=
  (∃ c rest, cs = c :: rest ∧ isAsciiDigit c = true)
    ∧ ∀ c ∈ cs, isAsciiDigit c = true ∨ c = '.'

/-- The number that digits stand for. -/
def valueOf (ds : List Char) : Nat := Nat.ofDigitChars 10 ds 0

/-- Hours, minutes, or hours and then minutes, and how many minutes that
is. -/
inductive IsSpan : Nat → List Char → Prop
  | hours {hs : List Char} (h : IsDigits hs) :
      IsSpan (60 * valueOf hs) (hs ++ ['h'])
  | minutes {ms : List Char} (h : IsDigits ms) :
      IsSpan (valueOf ms) (ms ++ ['m'])
  | both {hs ms : List Char} (h : IsDigits hs) (h' : IsDigits ms) :
      IsSpan (60 * valueOf hs + valueOf ms) (hs ++ 'h' :: (ms ++ ['m']))

/-- How a token is spelled. -/
inductive Token.Written : Token → List Char → Prop
  | name {cs : List Char} (h : IsName cs) :
      Written (.name (String.ofList cs)) cs
  | literal {quote : Char} {cs : List Char}
      (hquote : quote = '\'' ∨ quote = '"') (h : quote ∉ cs) :
      Written (.literal (String.ofList cs)) (quote :: (cs ++ [quote]))
  | number {cs : List Char} (h : IsNumeral cs) : Written (.number cs) cs
  | span {n : Nat} {cs : List Char} (h : IsSpan n cs) (hn : n < 2 ^ 63) :
      Written (.span n) cs
  | opening : Written .opening ['(']
  | closing : Written .closing [')']
  | comma : Written .comma [',']
  | plus : Written .plus ['+']
  | minus : Written .minus ['-']

/-- Tokens behind one another, with any white space between them. -/
inductive Spelling : List Token → List Char → Prop
  | done {gap : List Char} (hgap : ∀ c ∈ gap, isBlank c = true) :
      Spelling [] gap
  | token {gap piece rest : List Char} {t : Token} {ts : List Token}
      (hgap : ∀ c ∈ gap, isBlank c = true) (ht : t.Written piece)
      (h : Spelling ts rest) : Spelling (t :: ts) (gap ++ (piece ++ rest))

/-- The number with some digits before a point and some behind it: the one
nearest to the fraction that they stand for. -/
def decimal (whole places : List Char) : Float :=
  nearest false (valueOf (whole ++ places)) (10 ^ places.length)

/-- The operand that a token stands for. A number has one point at
most. -/
inductive Denotes : Token → Operand → Prop
  | field {s : String} : Denotes (.name s) (.field s)
  | literal {s : String} : Denotes (.literal s) (.literal s)
  | whole {ds : List Char} (h : IsDigits ds) :
      Denotes (.number ds) (.number (decimal ds []))
  | decimal {ds places : List Char} (h : IsDigits ds)
      (hplaces : ∀ c ∈ places, isAsciiDigit c = true) :
      Denotes (.number (ds ++ '.' :: places))
        (.number (decimal ds places))

/-- Tokens with commas between them, and the closing bracket. -/
def listed (ts : List Token) : List Token :=
  ts.intersperse .comma ++ [.closing]

/-- The forms of a formula. -/
inductive Shape : Formula → List Token → Prop
  | lookup {field : String} : Shape (.lookup field) [.name field]
  | concat {name : String} {ts : List Token} {ops : List Operand}
      (hname : lowerAscii name = "concat") (h : List.Forall₂ Denotes ts ops) :
      Shape (.concat ops) (.name name :: .opening :: listed ts)
  | sum {name : String} {ts : List Token} {ops : List Operand}
      (hname : lowerAscii name = "sum") (h : List.Forall₂ Denotes ts ops) :
      Shape (.sum ops) (.name name :: .opening :: listed ts)
  | add {left : String} {t : Token} {right : Operand}
      (h : Denotes t right) (ht : ∀ s, t ≠ .literal s) :
      Shape (.add left right) [.name left, .plus, t]
  | sub {left : String} {t : Token} {right : Operand}
      (h : Denotes t right) (ht : ∀ s, t ≠ .literal s) :
      Shape (.sub left right) [.name left, .minus, t]
  | later {field : String} {n : Nat} :
      Shape (.shift field n) [.name field, .plus, .span n]
  | earlier {field : String} {n : Nat} :
      Shape (.shift field (-n)) [.name field, .minus, .span n]

/-- Whether a text is written in the form of a formula. -/
def HasForm (f : Formula) (text : String) : Prop :=
  ∃ ts, Spelling ts text.toList ∧ Shape f ts

-- ========================================================== characters

theorem continuesName_of_startsName {c : Char} (h : startsName c = true) :
    continuesName c = true := by
  rw [startsName, Bool.or_eq_true] at h
  rw [continuesName, isAlphanumeric]
  rcases h with h | h <;> simp [h]

/-- White space does not stand in names. -/
theorem isBlank_of_continuesName {c : Char} (h : continuesName c = true) :
    isBlank c = false :=
  isBlank_eq_false_of_class (by decide) (by decide +kernel) h

theorem isAscii_of_isAsciiDigit {c : Char} (h : isAsciiDigit c = true) :
    48 ≤ c.toNat ∧ c.toNat ≤ 57 := by
  simpa [isAsciiDigit, Char.le_def, UInt32.le_iff_toNat_le] using h

/-- What ten characters have, every digit has. -/
theorem forall_isAsciiDigit {P : Char → Prop}
    (h : ∀ n < 10, P (Char.ofNat (48 + n))) {c : Char}
    (hc : isAsciiDigit c = true) : P c := by
  obtain ⟨hlow, hhigh⟩ := isAscii_of_isAsciiDigit hc
  have := h (c.toNat - 48) (by omega)
  rwa [show 48 + (c.toNat - 48) = c.toNat by omega, Char.ofNat_toNat]
    at this

/-- A digit may stand in a name, but does not begin one. -/
theorem startsName_of_isAsciiDigit {c : Char}
    (h : isAsciiDigit c = true) : startsName c = false :=
  @forall_isAsciiDigit (startsName · = false) (by decide) c h

theorem continuesName_of_isAsciiDigit {c : Char}
    (h : isAsciiDigit c = true) : continuesName c = true :=
  @forall_isAsciiDigit (continuesName · = true) (by decide) c h

/-- The token of a mark is written as the mark. -/
theorem written_of_mark? {c : Char} {t : Token} (h : mark? c = some t) :
    t.Written [c] := by
  unfold mark? at h
  split at h <;> cases h
  · exact .opening
  · exact .closing
  · exact .comma
  · exact .plus
  · exact .minus

theorem continuesName_of_mark? {c : Char} {t : Token}
    (h : mark? c = some t) : continuesName c = false := by
  unfold mark? at h
  split at h <;> first | rfl | cases h

/-- A character of names is no mark, so marks need nothing around them. -/
theorem mark?_of_continuesName {c : Char} (h : continuesName c = true) :
    mark? c = none := by
  rw [Option.eq_none_iff_forall_ne_some]
  intro t ht
  rw [continuesName_of_mark? ht] at h
  cases h

/-- A quote does not stand in a name. -/
theorem quote_of_continuesName {c : Char} (h : continuesName c = true) :
    (c == '\'' || c == '"') = false := by
  by_contra hne
  rw [Bool.not_eq_false, Bool.or_eq_true, beq_iff_eq, beq_iff_eq] at hne
  rcases hne with rfl | rfl
  · exact absurd h (by decide)
  · exact absurd h (by decide)

-- ============================================================= numerals

/-- What is read as a natural are digits, and it is what they stand for. -/
theorem natural?_eq_some_iff {cs : List Char} {n : Nat} :
    natural? cs = some n ↔ IsDigits cs ∧ n = valueOf cs := by
  rw [natural?]
  by_cases hne : cs = []
  · simp [hne, IsDigits]
  · by_cases hall : ∀ c ∈ cs, isAsciiDigit c = true
    · rw [if_neg (by simpa [hne] using hall), Option.some.injEq, eq_comm,
        ofDigits_eq_ofDigitChars hall]
      exact (and_iff_right ⟨hne, hall⟩).symm
    · rw [if_pos (by simpa [hne] using hall)]
      simp [IsDigits, hall]

/-- A numeral is digits, then digits behind a point, and then whatever
comes behind a second point. -/
theorem IsNumeral.cases {cs : List Char} (h : IsNumeral cs) :
    IsDigits cs
      ∨ ∃ ds rest, IsDigits ds ∧ cs = ds ++ '.' :: rest
        ∧ ((∀ c ∈ rest, isAsciiDigit c = true)
          ∨ ∃ places more, rest = places ++ '.' :: more
            ∧ ∀ c ∈ places, isAsciiDigit c = true) := by
  obtain ⟨⟨c, tail, rfl, hc⟩, hchars⟩ := h
  have hcut : ∀ cs : List Char,
      (∀ c ∈ cs, isAsciiDigit c = true ∨ c = '.') →
      ∃ ds rest, cs = ds ++ rest ∧ (∀ c ∈ ds, isAsciiDigit c = true)
        ∧ (rest = [] ∨ ∃ more, rest = '.' :: more) := by
    intro cs hcs
    obtain ⟨ds, rest, rfl, hds, hrest⟩ := exists_front isAsciiDigit cs
    refine ⟨ds, rest, rfl, hds, ?_⟩
    cases rest with
    | nil => exact .inl rfl
    | cons d more =>
        have hd := (hcs d (by simp)).resolve_left
          (Bool.eq_false_iff.mp (hrest d rfl))
        exact .inr ⟨more, hd ▸ rfl⟩
  obtain ⟨ds, rest, htail, hds, hrest⟩ := hcut tail fun d hd =>
    hchars d (List.mem_cons_of_mem c hd)
  have hfront : IsDigits (c :: ds) :=
    ⟨nofun, List.forall_mem_cons.mpr ⟨hc, hds⟩⟩
  rcases hrest with rfl | ⟨more, rfl⟩
  · exact .inl (by rwa [htail, List.append_nil])
  · obtain ⟨places, behind, rfl, hplaces, hbehind⟩ := hcut more
      fun d hd => hchars d (by simp [htail, hd])
    refine .inr ⟨c :: ds, _, hfront, by rw [htail]; rfl, ?_⟩
    rcases hbehind with rfl | ⟨more, rfl⟩
    · exact .inl (by rwa [List.append_nil])
    · exact .inr ⟨places, more, rfl, hplaces⟩

/-- A text that begins with a digit has no sign. -/
theorem splitSign_of_isAsciiDigit {c : Char} (h : isAsciiDigit c = true)
    (cs : List Char) : splitSign (c :: cs) = (false, c :: cs) := by
  unfold splitSign
  split
  case h_1 heq => cases heq; cases h
  case h_2 heq => cases heq; cases h
  case h_3 => rfl

/-- Nor is it a word, in any letter case. -/
theorem lower_ne_of_isAsciiDigit {c d : Char} (h : isAsciiDigit c = true)
    (cs : List Char) {word : String} (hword : word.toList.head? = some d)
    (hd : isAsciiDigit d = false) :
    (String.ofList ((c :: cs).map asciiLower) == word) = false := by
  have hlow : asciiLower c = c := by
    have hcode := isAscii_of_isAsciiDigit h
    rw [asciiLower, if_neg]
    simp only [Bool.and_eq_true, decide_eq_true_eq, Char.le_def,
      UInt32.le_iff_toNat_le]
    intro hle
    have : 65 ≤ c.toNat := hle.1
    omega
  refine beq_false_of_ne fun heq => ?_
  rw [← heq, String.toList_ofList, List.map_cons, hlow] at hword
  cases hword
  rw [hd] at h
  cases h

/-- So it is read as digits, and what comes behind them. -/
theorem binary?_of_isAsciiDigit {c : Char} (h : isAsciiDigit c = true)
    (cs : List Char) :
    binary? (c :: cs)
      = (let parts := match (c :: cs).dropWhile isAsciiDigit with
          | '.' :: r => (r.takeWhile isAsciiDigit, r.dropWhile isAsciiDigit)
          | r => ([], r)
        (exponent? parts.2).map fun e => scale10 false
          (ofDigits 10 ((c :: cs).takeWhile isAsciiDigit ++ parts.1))
          (e - parts.1.length)) := by
  have hsome : ((c :: cs).takeWhile isAsciiDigit).isEmpty = false := by
    rw [List.takeWhile_cons_of_pos h]
    rfl
  have hword : ∀ word ∈ ["inf", "infinity", "nan"],
      (String.ofList ((c :: cs).map asciiLower) == word) = false := by
    simp only [List.forall_mem_cons]
    exact ⟨lower_ne_of_isAsciiDigit h cs rfl rfl,
      lower_ne_of_isAsciiDigit h cs rfl rfl,
      lower_ne_of_isAsciiDigit h cs rfl rfl, nofun⟩
  have hinf : ¬ (String.ofList ((c :: cs).map asciiLower) == "inf"
      || String.ofList ((c :: cs).map asciiLower) == "infinity") = true := by
    rw [hword "inf" (by simp), hword "infinity" (by simp)]
    exact Bool.false_ne_true
  have hnan := Bool.eq_false_iff.mp (hword "nan" (by simp))
  rw [binary?, splitSign_of_isAsciiDigit h]
  show unsignedBinary? false (c :: cs) = _
  refine (if_neg hinf).trans ((if_neg hnan).trans ((if_neg ?_).trans rfl))
  rw [hsome, Bool.false_and]
  exact Bool.false_ne_true

/-- Digits are read as the number that they stand for, and so are digits
with others behind a point. -/
theorem toFloat_scale10 (whole places : List Char)
    (h : ∀ c ∈ whole ++ places, isAsciiDigit c = true) :
    (scale10 false (ofDigits 10 (whole ++ places))
      (0 - (places.length : Int))).toFloat = decimal whole places := by
  rw [Int.zero_sub, scale10_eq_nearest, ofDigits_eq_ofDigitChars h]
  rfl

/-- A literal without a point is the decimal with no places. -/
theorem real?_whole {ds : List Char} (h : IsDigits ds) :
    real? ds = some (decimal ds []) := by
  obtain ⟨hne, hds⟩ := h
  have hvalue := toFloat_scale10 ds []
    (by rwa [List.append_nil])
  obtain ⟨c, cs, rfl⟩ := List.exists_cons_of_ne_nil hne
  rw [real?, binary?_of_isAsciiDigit (hds c (List.mem_cons_self ..)),
    List.dropWhile_eq_nil_iff.mpr hds, List.takeWhile_eq_self_iff.mpr hds,
    ← hvalue]
  rfl

/-- Behind a point, digits are read as long as there are any; an exponent
may follow. -/
theorem binary?_point {ds : List Char} (h : IsDigits ds)
    (rest : List Char) :
    binary? (ds ++ '.' :: rest)
      = (exponent? (rest.dropWhile isAsciiDigit)).map fun e =>
          scale10 false (ofDigits 10 (ds ++ rest.takeWhile isAsciiDigit))
            (e - (rest.takeWhile isAsciiDigit).length) := by
  have hstop : ∀ c ∈ ('.' :: rest).head?, isAsciiDigit c = false :=
    fun c hc => by cases hc; rfl
  have htake := takeWhile_front h.2 hstop
  have hdrop := dropWhile_front h.2 hstop
  obtain ⟨hne, hds⟩ := h
  obtain ⟨c, cs, rfl⟩ := List.exists_cons_of_ne_nil hne
  rw [List.cons_append] at htake hdrop ⊢
  rw [binary?_of_isAsciiDigit (hds c (List.mem_cons_self ..)), htake, hdrop]
  rfl

/-- A literal with a point is the decimal with the places behind it, of which
there may be none. -/
theorem real?_decimal {ds places : List Char} (h : IsDigits ds)
    (hplaces : ∀ c ∈ places, isAsciiDigit c = true) :
    real? (ds ++ '.' :: places) = some (decimal ds places) := by
  rw [real?, binary?_point h, List.takeWhile_eq_self_iff.mpr hplaces,
    List.dropWhile_eq_nil_iff.mpr hplaces,
    ← toFloat_scale10 ds places
      (List.forall_mem_append.mpr ⟨h.2, hplaces⟩)]
  rfl

/-- An operand is what its token stands for. -/
theorem operand?_of_denotes {t : Token} {op : Operand}
    (h : Denotes t op) : operand? t = some op := by
  cases h with
  | field => rfl
  | literal => rfl
  | whole h => rw [operand?, real?_whole h, Option.map_some]
  | decimal h hplaces => rw [operand?, real?_decimal h hplaces, Option.map_some]

/-- And a token that is spelled stands for it. -/
theorem operand?_eq_some_iff {t : Token} {cs : List Char} {op : Operand}
    (ht : t.Written cs) : operand? t = some op ↔ Denotes t op := by
  refine ⟨fun h => ?_, operand?_of_denotes⟩
  have hback : ∀ op', Denotes t op' → Denotes t op := fun op' h' => by
    rw [operand?_of_denotes h', Option.some.injEq] at h
    exact h ▸ h'
  cases ht with
  | name => exact hback _ .field
  | literal => exact hback _ .literal
  | number hnumeral =>
      rcases hnumeral.cases with
        hds | ⟨ds, rest, hds, rfl, hplaces | ⟨places, more, rfl, hplaces⟩⟩
      · exact hback _ (.whole hds)
      · exact hback _ (.decimal hds hplaces)
      · -- a second point is no exponent
        have hstop : ∀ c ∈ ('.' :: more).head?, isAsciiDigit c = false :=
          fun c hc => by cases hc; rfl
        rw [operand?, real?, binary?_point hds,
          dropWhile_front hplaces hstop] at h
        cases h
  | span => cases h
  | opening => cases h
  | closing => cases h
  | comma => cases h
  | plus => cases h
  | minus => cases h

-- =============================================================== forms

/-- Of listed operands the first is taken off with the comma behind it. -/
theorem listed_cons (t : Token) {ts : List Token} (h : ts ≠ []) :
    listed (t :: ts) = t :: .comma :: listed ts := by
  obtain ⟨t', ts, rfl⟩ := List.exists_cons_of_ne_nil h
  rfl

/-- A list of operands is not the end of one. -/
theorem listed_ne_closing {ts : List Token} (h : ts ≠ []) :
    listed ts ≠ [.closing] := by
  obtain ⟨t, ts, rfl⟩ := List.exists_cons_of_ne_nil h
  cases ts with
  | nil => exact nofun
  | cons t' ts => exact nofun

/-- Operands that are listed as the grammar has it are read. The induction is
on the list; each of its operands is one token. -/
theorem operands?_listed {ts : List Token} {ops : List Operand}
    (h : List.Forall₂ Denotes ts ops) : operands? (listed ts) = some ops := by
  induction h with
  | nil => rfl
  | @cons t op ts ops ht h ih =>
      by_cases hts : ts = []
      · subst hts
        cases h
        have hop := operand?_of_denotes ht
        cases ht <;> simp [listed, operands?, hop]
      · rw [listed_cons t hts, operands?]
        simp [listed_ne_closing hts, operand?_of_denotes ht, ih]

/-- Operands are read off tokens exactly if they are what the tokens
between the commas stand for. -/
theorem operands?_eq_some_iff {ts : List Token} {ops : List Operand}
    (hts : ∀ t ∈ ts, ∃ cs, t.Written cs) :
    operands? ts = some ops
      ↔ ∃ between, ts = listed between
        ∧ List.Forall₂ Denotes between ops := by
  constructor
  · intro h
    induction ts using operands?.induct generalizing ops with
    | case1 =>
        cases h
        exact ⟨[], rfl, .nil⟩
    | case2 t =>
        rw [operands?] at h
        cases ht : operand? t with
        | none => rw [ht] at h; cases h
        | some op =>
            obtain ⟨cs, hcs⟩ := hts t (List.mem_cons_self ..)
            rw [ht] at h
            cases h
            exact ⟨[t], rfl,
              .cons ((operand?_eq_some_iff hcs).mp ht) .nil⟩
    | case3 t rest ih =>
        rw [operands?] at h
        by_cases hrest : rest = [.closing]
        · rw [hrest] at h
          cases h
        cases ht : operand? t with
        | none => simp [hrest, ht] at h
        | some op =>
            cases hops : operands? rest with
            | none => simp [hrest, ht, hops] at h
            | some ops' =>
                obtain ⟨cs, hcs⟩ := hts t (List.mem_cons_self ..)
                obtain ⟨between, rfl, hbetween⟩ := ih (fun t ht =>
                  hts t (List.mem_cons_of_mem _ (List.mem_cons_of_mem _ ht)))
                  hops
                simp [hrest, ht, hops] at h
                subst h
                have hne : between ≠ [] := by
                  rintro rfl
                  exact hrest rfl
                exact ⟨t :: between, (listed_cons t hne).symm,
                  .cons ((operand?_eq_some_iff hcs).mp ht) hbetween⟩
    | case4 ts h1 h2 h3 =>
        rw [operands?] at h
        · cases h
        · exact h1
        · exact h2
        · exact h3
  · rintro ⟨between, rfl, h⟩
    exact operands?_listed h

/-- The two functions have their names in any case, and there is no other. -/
theorem call?_eq_some_iff {name : String} {ops : List Operand}
    {f : Formula} :
    call? name ops = some f
      ↔ lowerAscii name = "concat" ∧ f = .concat ops
        ∨ lowerAscii name = "sum" ∧ f = .sum ops := by
  rw [call?]
  split
  case h_1 h => simp [h, eq_comm]
  case h_2 h => simp [h, eq_comm]
  case h_3 h1 h2 =>
    exact ⟨nofun, fun h =>
      h.elim (fun h => (h1 h.1).elim) fun h => (h2 h.1).elim⟩

/-- Tokens are read as a formula exactly if they have its shape. -/
theorem ofTokens?_eq_some_iff {ts : List Token} {f : Formula}
    (hts : ∀ t ∈ ts, ∃ cs, t.Written cs) :
    ofTokens? ts = some f ↔ Shape f ts := by
  constructor
  · intro h
    unfold ofTokens? at h
    split at h
    case h_1 =>
      cases h
      exact .lookup
    case h_2 name rest =>
      cases hops : operands? rest with
      | none => rw [hops] at h; cases h
      | some ops =>
          rw [hops] at h
          obtain ⟨between, rfl, hbetween⟩ := (operands?_eq_some_iff
            fun t ht => hts t (by simp [ht])).mp hops
          rcases call?_eq_some_iff.mp h with ⟨hname, rfl⟩ | ⟨hname, rfl⟩
          · exact .concat hname hbetween
          · exact .sum hname hbetween
    case h_3 =>
      cases h
      exact .later
    case h_4 =>
      cases h
      exact .earlier
    case h_5 =>
      cases h
      exact .add .field nofun
    case h_6 =>
      cases h
      exact .sub .field nofun
    case h_7 left ds =>
      obtain ⟨op, hop, hf⟩ := Option.bind_eq_some_iff.mp h
      obtain ⟨cs, hcs⟩ := hts (.number ds) (by simp)
      cases hf
      exact .add ((operand?_eq_some_iff hcs).mp hop) nofun
    case h_8 left ds =>
      obtain ⟨op, hop, hf⟩ := Option.bind_eq_some_iff.mp h
      obtain ⟨cs, hcs⟩ := hts (.number ds) (by simp)
      cases hf
      exact .sub ((operand?_eq_some_iff hcs).mp hop) nofun
    case h_9 => cases h
  · intro h
    cases h with
    | lookup => rfl
    | concat hname h =>
        rw [ofTokens?, operands?_listed h]
        exact call?_eq_some_iff.mpr (.inl ⟨hname, rfl⟩)
    | sum hname h =>
        rw [ofTokens?, operands?_listed h]
        exact call?_eq_some_iff.mpr (.inr ⟨hname, rfl⟩)
    | add h ht =>
        have hop := operand?_of_denotes h
        cases h with
        | field => rfl
        | literal => exact absurd rfl (ht _)
        | whole => rw [ofTokens?, hop]; rfl
        | decimal => rw [ofTokens?, hop]; rfl
    | sub h ht =>
        have hop := operand?_of_denotes h
        cases h with
        | field => rfl
        | literal => exact absurd rfl (ht _)
        | whole => rw [ofTokens?, hop]; rfl
        | decimal => rw [ofTokens?, hop]; rfl
    | later => rfl
    | earlier => rfl

-- ============================================================== tokens

/-- Whether a name, a number or a span ends in front of a text. -/
def Closed (rest : List Char) : Prop :=
  ∀ c ∈ rest.head?, isBlank c = true ∨ (mark? c).isSome = true

/-- Nothing goes on behind a text that ends there. -/
theorem Closed.head {rest : List Char} (h : Closed rest) {p : Char → Bool}
    (hblank : ∀ c, p c = true → isBlank c = false)
    (hmark : ∀ c t, mark? c = some t → p c = false) :
    ∀ c ∈ rest.head?, p c = false := by
  intro c hc
  refine Bool.eq_false_iff.mpr fun hp => ?_
  rcases h c hc with hb | hm
  · rw [hblank c hp] at hb
    cases hb
  · obtain ⟨t, ht⟩ := Option.isSome_iff_exists.mp hm
    rw [hmark c t ht] at hp
    cases hp

/-- What stands in numbers and spans may stand in names. -/
theorem Closed.names {rest : List Char} (h : Closed rest) :
    ∀ c ∈ rest.head?, continuesName c = false :=
  h.head (fun _ => isBlank_of_continuesName)
    fun _ _ => continuesName_of_mark?

/-- What stands behind a closed name is nothing that could go on with it, and
so no character of any narrower kind. -/
theorem Closed.of_continuesName {rest : List Char} (h : Closed rest)
    {p : Char → Bool} (hp : ∀ c, p c = true → continuesName c = true) :
    ∀ c ∈ rest.head?, p c = false := fun c hc =>
  Bool.eq_false_iff.mpr fun hpc => by
    have := h.names c hc
    rw [hp c hpc] at this
    cases this

theorem Closed.digits {rest : List Char} (h : Closed rest) :
    ∀ c ∈ rest.head?, isAsciiDigit c = false :=
  h.of_continuesName fun _ => continuesName_of_isAsciiDigit

theorem spanBound_eq : spanBound = 2 ^ 63 := by decide

/-- A part of a span is digits for a number within the bound. -/
theorem natural?_filter_eq_some_iff {ds : List Char} {n : Nat} :
    (natural? ds).filter (· < spanBound) = some n
      ↔ IsDigits ds ∧ n = valueOf ds ∧ n < 2 ^ 63 := by
  rw [Option.filter_eq_some_iff, natural?_eq_some_iff, spanBound_eq,
    decide_eq_true_eq, and_assoc]

/-- The unit is no digit, so a part ends in front of it. -/
theorem head?_unit {u : Char} (hu : isAsciiDigit u = false)
    (rest : List Char) :
    ∀ c ∈ (u :: rest).head?, isAsciiDigit c = false :=
  fun c hc => by cases hc; exact hu

/-- The reader looks at one more character, which is no digit here. -/
theorem any_head?_eq_false {rest : List Char}
    (h : ∀ c ∈ rest.head?, isAsciiDigit c = false) :
    rest.head?.any isAsciiDigit = false := by
  cases rest with
  | nil => rfl
  | cons c rest => exact h c rfl

/-- What is spelled as a span is read as one, whatever follows that is no
digit. The parts are within the bound as the whole is. -/
theorem span?_of_isSpan {n : Nat} {piece rest : List Char}
    (h : IsSpan n piece) (hn : n < 2 ^ 63)
    (hrest : ∀ c ∈ rest.head?, isAsciiDigit c = false) :
    span? (piece ++ rest) = some (n, rest) := by
  have hany := any_head?_eq_false hrest
  cases h with
  | @hours hs h =>
      have hpart := natural?_filter_eq_some_iff.mpr
        ⟨h, rfl, show valueOf hs < 2 ^ 63 by omega⟩
      have hempty := takeWhile_of_head hrest
      rw [List.append_assoc, List.singleton_append, span?,
        takeWhile_front h.2 (head?_unit rfl rest), hpart, List.drop_left,
        Option.bind_eq_bind, Option.bind_some]
      simp only [hempty, spanBound_eq]
      rw [guard, if_pos (by omega), Nat.mul_comm]
      rfl
  | @minutes ms h =>
      have hpart := natural?_filter_eq_some_iff.mpr ⟨h, rfl, hn⟩
      rw [List.append_assoc, List.singleton_append, span?,
        takeWhile_front h.2 (head?_unit rfl rest), hpart, List.drop_left,
        Option.bind_eq_bind, Option.bind_some]
      simp only [hany, Bool.false_eq_true, ↓reduceIte]
  | @both hs ms h h' =>
      have hpart := natural?_filter_eq_some_iff.mpr
        ⟨h, rfl, show valueOf hs < 2 ^ 63 by omega⟩
      have hpart' := natural?_filter_eq_some_iff.mpr
        ⟨h', rfl, show valueOf ms < 2 ^ 63 by omega⟩
      have hsome : ms.isEmpty = false := by simpa using h'.1
      have hms := takeWhile_front h'.2 (head?_unit (u := 'm') rfl rest)
      have hbound : valueOf hs * 60 + valueOf ms < spanBound := by
        rw [spanBound_eq]
        omega
      have hhours := (Nat.le_add_right _ _).trans_lt hbound
      rw [List.append_assoc, List.cons_append, List.append_assoc,
        List.singleton_append, span?,
        takeWhile_front h.2 (head?_unit rfl _), hpart, List.drop_left,
        Option.bind_eq_bind, Option.bind_some]
      simp only [hms, hsome, hpart', List.drop_left, hany, hhours, hbound,
        Bool.false_eq_true, ↓reduceIte, Bool.not_false, decide_true,
        Bool.and_self, guard_true, Option.pure_def, Option.bind_eq_bind,
        Option.bind_some, Nat.mul_comm 60]

/-- What is read as a span is spelled as one. -/
theorem isSpan_of_span? {n : Nat} {cs rest : List Char}
    (h : span? cs = some (n, rest)) :
    n < 2 ^ 63 ∧ ∃ piece, cs = piece ++ rest ∧ IsSpan n piece := by
  obtain ⟨hs, behind, rfl, hhs, hbehind⟩ := exists_front isAsciiDigit cs
  rw [span?, takeWhile_front hhs hbehind, List.drop_left,
    Option.bind_eq_bind, Option.bind_eq_some_iff] at h
  obtain ⟨k, hk, h⟩ := h
  obtain ⟨hdigits, rfl, hlt⟩ := natural?_filter_eq_some_iff.mp hk
  split at h
  case h_1 more =>
    simp only [Option.bind_eq_bind, Option.bind_eq_some_iff,
      Option.guard_eq_some', exists_const] at h
    obtain ⟨hhours, h⟩ := h
    obtain ⟨ms, behind, rfl, hms, hbehind⟩ :=
      exists_front isAsciiDigit more
    rw [takeWhile_front hms hbehind, List.drop_left] at h
    split at h
    case isTrue hempty =>
      cases h
      rw [spanBound_eq] at hhours
      exact ⟨hhours, hs ++ ['h'], by simp,
        Nat.mul_comm .. ▸ .hours hdigits⟩
    case isFalse =>
      rw [Option.bind_eq_some_iff] at h
      obtain ⟨m, hm, h⟩ := h
      obtain ⟨hdigits', rfl, -⟩ := natural?_filter_eq_some_iff.mp hm
      split at h
      case h_1 rest' _ =>
        simp only [Option.bind_eq_some_iff, Option.guard_eq_some',
          Bool.and_eq_true, decide_eq_true_eq, exists_const] at h
        obtain ⟨⟨htotal, -⟩, h⟩ := h
        cases h
        rw [spanBound_eq] at htotal
        exact ⟨htotal, hs ++ 'h' :: (ms ++ ['m']), by simp,
          Nat.mul_comm .. ▸ .both hdigits hdigits'⟩
      case h_2 => cases h
  case h_2 more =>
    split at h
    · cases h
    · cases h
      exact ⟨hlt, hs ++ ['m'], by simp, .minutes hdigits⟩
  case h_3 => cases h

/-- A span begins with digits, and its unit stands behind them. -/
theorem IsSpan.front {n : Nat} {piece : List Char} (h : IsSpan n piece) :
    ∃ ds u more, piece = ds ++ u :: more ∧ IsDigits ds
      ∧ (u = 'h' ∨ u = 'm') := by
  cases h with
  | @hours hs h => exact ⟨hs, 'h', [], rfl, h, .inl rfl⟩
  | @minutes ms h => exact ⟨ms, 'm', [], rfl, h, .inr rfl⟩
  | @both hs ms h _ => exact ⟨hs, 'h', ms ++ ['m'], rfl, h, .inl rfl⟩

/-- A span is read as one if it fits into 63 bits and nothing goes on behind
its unit. -/
theorem numeral?_of_isSpan {n : Nat} {piece rest : List Char}
    (h : IsSpan n piece) (hn : n < 2 ^ 63) (hrest : Closed rest) :
    numeral? (piece ++ rest) = some (.span n, rest) := by
  have hspan := span?_of_isSpan h hn hrest.digits
  obtain ⟨ds, u, more, rfl, hds, hu⟩ := h.front
  have hfront : (ds ++ u :: (more ++ rest)).takeWhile
      (fun c => isAsciiDigit c || c == '.') = ds := by
    refine takeWhile_front (fun c hc => by simp [hds.2 c hc]) fun c hc => ?_
    cases hc
    rcases hu with rfl | rfl <;> rfl
  rw [List.append_assoc, List.cons_append] at hspan ⊢
  rw [numeral?]
  simp only [hfront, List.drop_left, hspan]
  rcases hu with rfl | rfl <;> rfl

/-- A number is read as one behind which no unit stands. -/
theorem numeral?_of_isNumeral {cs rest : List Char} (h : IsNumeral cs)
    (hrest : Closed rest) :
    numeral? (cs ++ rest) = some (.number cs, rest) := by
  have hname : ∀ c, (isAsciiDigit c || c == '.') = true →
      continuesName c = true := by
    intro c hc
    rcases Bool.or_eq_true_iff.mp hc with hc | hc
    · exact continuesName_of_isAsciiDigit hc
    · simp [continuesName, hc]
  have hfront : (cs ++ rest).takeWhile
      (fun c => isAsciiDigit c || c == '.') = cs :=
    takeWhile_front (fun c hc => by simpa using h.2 c hc)
      (hrest.of_continuesName hname)
  have hunit : ∀ u, continuesName u = true →
      (rest.head? == some u) = false := fun u hu =>
    beq_false_of_ne fun heq => by
      rw [hrest.names u heq] at hu
      cases hu
  rw [numeral?]
  simp only [hfront, List.drop_left, hunit 'h' (by decide),
    hunit 'm' (by decide), Bool.or_self, Bool.false_eq_true, ↓reduceIte]

/-- In turn what is read from a digit on is written as the one or as the other.
The cases are those of the reader: a unit behind the digits, a point, or
neither. -/
theorem written_of_numeral? {c : Char} {cs rest : List Char} {t : Token}
    (hc : isAsciiDigit c = true)
    (h : numeral? (c :: cs) = some (t, rest)) :
    ∃ piece, c :: cs = piece ++ rest ∧ t.Written piece := by
  obtain ⟨ds, behind, heq, hds, hbehind⟩ :=
    exists_front (fun c => isAsciiDigit c || c == '.') (c :: cs)
  rw [numeral?, heq, takeWhile_front hds hbehind, List.drop_left] at h
  split at h
  case isTrue =>
    obtain ⟨⟨n, rest'⟩, hspan, hread⟩ := Option.map_eq_some_iff.mp h
    cases hread
    obtain ⟨hn, piece, hpiece, hspan⟩ := isSpan_of_span? hspan
    exact ⟨piece, heq.trans hpiece, .span hspan hn⟩
  case isFalse =>
    cases h
    refine ⟨ds, heq, .number ⟨?_, fun d hd => by simpa using hds d hd⟩⟩
    cases ds with
    | nil =>
        obtain rfl : c :: cs = rest := heq
        simp [hc] at hbehind
    | cons d ds =>
        obtain ⟨rfl, -⟩ := List.cons.inj heq
        exact ⟨c, ds, rfl, hc⟩

/-- Whether a token is a mark of its own. -/
def Token.isMark : Token → Bool
  | .name _ | .literal _ | .number _ | .span _ => false
  | .opening | .closing | .comma | .plus | .minus => true

/-- A digit begins neither a mark nor a literal. -/
theorem token?_of_isAsciiDigit {c : Char} (h : isAsciiDigit c = true)
    (cs : List Char) : token? c cs = numeral? (c :: cs) := by
  have hname := continuesName_of_isAsciiDigit h
  rw [token?, mark?_of_continuesName hname]
  simp only [quote_of_continuesName hname, h, Bool.false_eq_true,
    ↓reduceIte]

/-- What begins like a name is read as a name, as far as it goes. -/
theorem token?_of_startsName {c : Char} (h : startsName c = true)
    (cs : List Char) :
    token? c cs
      = some (.name (String.ofList (c :: cs.takeWhile continuesName)),
          cs.dropWhile continuesName) := by
  have hname := continuesName_of_startsName h
  have hdigit : isAsciiDigit c = false := by
    refine Bool.eq_false_iff.mpr fun hd => ?_
    rw [startsName_of_isAsciiDigit hd] at h
    cases h
  rw [token?, mark?_of_continuesName hname]
  simp only [quote_of_continuesName hname, hdigit, h, Bool.false_eq_true,
    ↓reduceIte]

/-- Each token is read where it is spelled, if it ends there. -/
theorem token?_of_written {t : Token} {piece rest : List Char}
    (h : t.Written piece) (hrest : t.isMark = false → Closed rest) :
    ∃ c tail, piece = c :: tail ∧ isBlank c = false
      ∧ token? c (tail ++ rest) = some (t, rest) := by
  cases h with
  | name h =>
      obtain ⟨c, tail, rfl, hstart, htail⟩ := h
      have hnames := (hrest rfl).names
      refine ⟨c, tail, rfl,
        isBlank_of_continuesName (continuesName_of_startsName hstart), ?_⟩
      rw [token?_of_startsName hstart, takeWhile_front htail hnames,
        dropWhile_front htail hnames]
  | @literal quote cs hquote h =>
      have hread : splitFirst? quote (cs ++ quote :: rest)
          = some (cs, rest) := splitFirst?_eq_some_iff.mpr ⟨rfl, h⟩
      refine ⟨quote, cs ++ [quote], rfl, ?_, ?_⟩
      · rcases hquote with rfl | rfl <;> rfl
      · rw [List.append_assoc, List.singleton_append]
        rcases hquote with rfl | rfl <;>
          simp [token?, mark?, quoted?, hread]
  | @number cs h =>
      have hread := numeral?_of_isNumeral h (hrest rfl)
      obtain ⟨⟨c, tail, rfl, hc⟩, -⟩ := h
      exact ⟨c, tail, rfl, isBlank_of_isAsciiDigit hc,
        (token?_of_isAsciiDigit hc _).trans hread⟩
  | span h hn =>
      have hread := numeral?_of_isSpan h hn (hrest rfl)
      obtain ⟨ds, u, more, rfl, ⟨hne, hds⟩, -⟩ := h.front
      obtain ⟨c, ds, rfl⟩ := List.exists_cons_of_ne_nil hne
      have hc := hds c (List.mem_cons_self ..)
      exact ⟨c, ds ++ u :: more, rfl, isBlank_of_isAsciiDigit hc,
        (token?_of_isAsciiDigit hc _).trans hread⟩
  | opening => exact ⟨'(', [], rfl, rfl, rfl⟩
  | closing => exact ⟨')', [], rfl, rfl, rfl⟩
  | comma => exact ⟨',', [], rfl, rfl, rfl⟩
  | plus => exact ⟨'+', [], rfl, rfl, rfl⟩
  | minus => exact ⟨'-', [], rfl, rfl, rfl⟩

/-- What is read as a token is spelled as one. -/
theorem written_of_token? {c : Char} {cs rest : List Char} {t : Token}
    (h : token? c cs = some (t, rest)) :
    ∃ piece, c :: cs = piece ++ rest ∧ t.Written piece := by
  rw [token?] at h
  split at h
  case h_1 t' ht =>
    cases h
    exact ⟨[c], rfl, written_of_mark? ht⟩
  case h_2 =>
    split at h
    case isTrue hquote =>
      obtain ⟨⟨inside, rest'⟩, hsplit, heq⟩ := Option.map_eq_some_iff.mp h
      cases heq
      obtain ⟨rfl, hinside⟩ := splitFirst?_eq_some_iff.mp hsplit
      exact ⟨c :: (inside ++ [c]), by simp,
        .literal (by simpa using hquote) hinside⟩
    case isFalse =>
    split at h
    case isTrue hdigit => exact written_of_numeral? hdigit h
    case isFalse =>
    split at h
    case isTrue hstart =>
      cases h
      exact ⟨_, by rw [List.cons_append, List.takeWhile_append_dropWhile],
        .name ⟨c, _, rfl, hstart, fun d hd => List.mem_takeWhile_imp hd⟩⟩
    case isFalse => cases h

-- =============================================================== texts

/-- Whether of two tokens that follow each other one is a mark. -/
def Parted (ts : List Token) : Prop :=
  ts.IsChain fun s t => s.isMark = true ∨ t.isMark = true

/-- A mark parts what is on both sides of it. -/
theorem parted_around {mark : Token} (hmark : mark.isMark = true)
    (t : Token) {ts : List Token} (h : Parted ts) :
    Parted (t :: mark :: ts) :=
  .cons_cons (.inr hmark) (List.isChain_cons.mpr ⟨fun _ _ => .inl hmark, h⟩)

/-- Each token of a spelling is written somewhere in it. -/
theorem Spelling.written {ts : List Token} {cs : List Char}
    (h : Spelling ts cs) : ∀ t ∈ ts, ∃ piece, t.Written piece := by
  induction h with
  | done => exact nofun
  | token _ ht _ ih => exact List.forall_mem_cons.mpr ⟨⟨_, ht⟩, ih⟩

/-- In front of white space, of a mark and of the end everything ends. -/
theorem Spelling.closed {ts : List Token} {cs : List Char}
    (h : Spelling ts cs) (hts : ∀ t ∈ ts.head?, t.isMark = true) :
    Closed cs := by
  have hgap : ∀ {gap rest : List Char}, (∀ c ∈ gap, isBlank c = true) →
      Closed rest → Closed (gap ++ rest) := by
    intro gap rest hgap hrest
    cases gap with
    | nil => exact hrest
    | cons c gap =>
        intro d hd
        cases hd
        exact .inl (hgap c (List.mem_cons_self ..))
  cases h with
  | done h =>
      have hnil : Closed [] := nofun
      simpa using hgap h hnil
  | token h ht =>
      refine hgap h fun c hc => .inr ?_
      have hmark := hts _ rfl
      cases ht <;> cases hmark <;> cases hc <;> rfl

/-- A spelling with parted tokens is the one that is read. -/
theorem tokens_of_spelling {ts : List Token} {cs : List Char}
    (h : Spelling ts cs) (hts : Parted ts) {fuel : Nat}
    (hfuel : cs.length < fuel) : tokens fuel cs = some ts := by
  induction h generalizing fuel with
  | done hgap =>
      obtain ⟨fuel, rfl⟩ := Nat.exists_eq_succ_of_ne_zero
        (Nat.ne_zero_of_lt hfuel)
      rw [tokens, List.dropWhile_eq_nil_iff.mpr hgap]
  | @token gap piece rest t ts hgap ht h ih =>
      obtain ⟨fuel, rfl⟩ := Nat.exists_eq_succ_of_ne_zero
        (Nat.ne_zero_of_lt hfuel)
      have hclosed : t.isMark = false → Closed rest := by
        intro hmark
        refine h.closed fun t' ht' => ?_
        obtain ⟨ts, rfl⟩ := List.head?_eq_some_iff.mp ht'
        have := (List.isChain_cons_cons.mp hts).1
        simpa [hmark] using this
      obtain ⟨c, tail, rfl, hc, hread⟩ := token?_of_written ht hclosed
      have hless : rest.length < fuel := by
        simp only [List.length_append, List.length_cons] at hfuel
        omega
      have hrest := ih hts.tail hless
      rw [tokens, dropWhile_front hgap fun d hd => by cases hd; exact hc]
      simp [hread, hrest]

/-- What is read as tokens is spelled so. -/
theorem spelling_of_tokens {fuel : Nat} {ts : List Token} {cs : List Char}
    (h : tokens fuel cs = some ts) : Spelling ts cs := by
  induction fuel generalizing ts cs with
  | zero => cases h
  | succ fuel ih =>
      obtain ⟨gap, rest, rfl, hgap, hrest⟩ := exists_front isBlank cs
      rw [tokens, dropWhile_front hgap hrest] at h
      cases rest with
      | nil =>
          cases h
          simpa using Spelling.done hgap
      | cons c rest =>
          obtain ⟨⟨t, behind⟩, ht, h⟩ := Option.bind_eq_some_iff.mp h
          obtain ⟨ts, hts, heq⟩ := Option.bind_eq_some_iff.mp h
          cases heq
          obtain ⟨piece, hpiece, hwritten⟩ := written_of_token? ht
          rw [hpiece]
          exact .token hgap hwritten (ih hts)

/-- In a form the tokens are parted. -/
theorem Shape.parted {f : Formula} {ts : List Token} (h : Shape f ts) :
    Parted ts := by
  have hlisted : ∀ ts : List Token, Parted (listed ts) := by
    intro ts
    induction ts with
    | nil => exact .singleton _
    | cons t ts ih =>
        by_cases hts : ts = []
        · subst hts
          exact .cons_cons (.inr rfl) (.singleton _)
        · rw [listed_cons t hts]
          exact parted_around rfl t ih
  cases h with
  | lookup => exact .singleton _
  | concat _ _ => exact parted_around rfl _ (hlisted _)
  | sum _ _ => exact parted_around rfl _ (hlisted _)
  | add => exact parted_around rfl _ (.singleton _)
  | sub => exact parted_around rfl _ (.singleton _)
  | later => exact parted_around rfl _ (.singleton _)
  | earlier => exact parted_around rfl _ (.singleton _)

/-- The reader of forms finds the form that a text is written in, and
finds none if there is none. -/
theorem bind_tokens_eq_some_iff {f : Formula} {text : String} :
    (tokens (text.length + 1) text.toList).bind ofTokens? = some f
      ↔ HasForm f text := by
  constructor
  · intro h
    obtain ⟨ts, hts, hf⟩ := Option.bind_eq_some_iff.mp h
    have hspelling := spelling_of_tokens hts
    exact ⟨ts, hspelling,
      (ofTokens?_eq_some_iff hspelling.written).mp hf⟩
  · rintro ⟨ts, hspelling, hshape⟩
    rw [tokens_of_spelling hspelling hshape.parted
      (Nat.lt_succ_of_le (String.length_toList ▸ le_rfl)), Option.bind_some]
    exact (ofTokens?_eq_some_iff hspelling.written).mpr hshape

/-- A text is read as the formula in whose form it is written, and a
text that is written in no form is the name of a field, white space
around it aside. -/
theorem parse_eq_form_iff {text : String} {f : Formula} :
    parse text = f
      ↔ HasForm f text
        ∨ (¬ ∃ g, HasForm g text) ∧ f = .lookup (trim text) := by
  simp only [← bind_tokens_eq_some_iff]
  rw [parse]
  cases (tokens (text.length + 1) text.toList).bind ofTokens? with
  | none => simp [eq_comm]
  | some g => simp

end Overlay.Formula
