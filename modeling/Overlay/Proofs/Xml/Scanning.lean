/-
How written markup is scanned.

# Progress

A scan leaves an end of the text it was given, and a token takes at least
one character (`Scan.length_of_token`). So the fuel of the scanning
functions never runs out, and more of it changes nothing
(`Scan.contentWithin_eq`, `Scan.misc_eq`).

# Written markup

A name ends where a character follows that cannot stand in a name. Names
that are put into a document may hold characters, beyond ASCII, that
cannot either: a scan stops short inside such a name, and whatever it
looks for next is not there (`Scan.qname_bind`). `nameOf?` is the name
that is found, and everything written around it is found as it was
written: attributes and tags (`Scan.tag_written`), comments and
instructions (`Scan.token_comment`, `Scan.token_instruction`), and texts
between them.
-/
import Overlay.Proofs.Xml.Escaping

namespace Overlay.Xml

open Text

namespace Scan

-- ============================================================ progress

theorem skipSpace_suffix (cs : List Char) : skipSpace cs <:+ cs :=
  List.dropWhile_suffix _

/-- White space that has to be there leaves an end of the text. -/
theorem space_suffix {cs rest : List Char} (h : space cs = some rest) :
    rest <:+ cs := by
  rw [space.eq_def] at h
  split at h
  · split at h
    · cases h
      exact skipSpace_suffix _
    · cases h
  · cases h

/-- A single character leaves an end of the text. -/
theorem char_suffix {c : Char} {cs rest : List Char}
    (h : char c cs = some rest) : rest <:+ cs := by
  rw [char.eq_def] at h
  split at h
  · split at h
    · cases h
      exact List.suffix_cons _ _
    · cases h
  · cases h

/-- A name leaves an end of the text. -/
theorem name_suffix {cs rest : List Char} {s : String}
    (h : name cs = some (s, rest)) : rest <:+ cs := by
  rw [name] at h
  split at h
  · cases h
    exact List.dropWhile_suffix _
  · cases h

/-- A name is looked for in the first run of characters of names. -/
theorem qname_eq (cs : List Char) :
    qname cs = (qname (cs.takeWhile isNameChar)).map
      fun found => (found.1, cs.dropWhile isNameChar) := by
  have hrun : (cs.takeWhile isNameChar).takeWhile isNameChar
      = cs.takeWhile isNameChar := by
    rw [List.takeWhile_takeWhile]
    simp
  rw [qname, qname, hrun]
  split
  · split <;> rfl
  · split
    · rfl
    · split
      · rfl
      · split <;> rfl
  · rfl

/-- A name with a prefix leaves an end of the text. -/
theorem qname_suffix {cs rest : List Char} {q : QName}
    (h : qname cs = some (q, rest)) : rest <:+ cs := by
  rw [qname_eq, Option.map_eq_some_iff] at h
  obtain ⟨_, -, he⟩ := h
  cases he
  exact List.dropWhile_suffix _

/-- A value in quotes leaves what stands behind its second quote. -/
theorem quoted_suffix {stop : Char → Bool} {cs value rest : List Char}
    (h : quoted stop cs = some (value, rest)) : rest <:+ cs := by
  rw [quoted.eq_def] at h
  split at h
  · simp only [Option.bind_eq_bind, Option.bind_eq_some_iff,
      Option.pure_def, Option.some.injEq, Prod.mk.injEq] at h
    obtain ⟨-, -, _, hc, -, rfl⟩ := h
    exact (char_suffix hc).trans
      ((List.dropWhile_suffix _).trans (List.suffix_cons _ _))
  · cases h

/-- An attribute leaves what stands behind its value. -/
theorem oneAttribute_suffix {cs rest : List Char} {a : RawAttribute}
    (h : oneAttribute cs = some (a, rest)) : rest <:+ cs := by
  simp only [oneAttribute, Option.bind_eq_bind,
    Option.bind_eq_some_iff, Prod.exists, Option.pure_def,
    Option.some.injEq, Prod.mk.injEq] at h
  obtain ⟨_, _, hq, _, hc, _, _, hv, -, -, -, rfl⟩ := h
  exact (quoted_suffix hv).trans ((skipSpace_suffix _).trans
    ((char_suffix hc).trans ((skipSpace_suffix _).trans (qname_suffix hq))))

/-- The attributes of a tag leave what stands behind its end, whatever the fuel
is. The induction is on the fuel, an attribute for each step. -/
theorem attributes_suffix {fuel : Nat} {cs rest : List Char}
    {as : List RawAttribute} {tagEnd : TagEnd}
    (h : attributes fuel cs = some (as, tagEnd, rest)) : rest <:+ cs := by
  induction fuel generalizing cs rest as tagEnd with
  | zero => cases h
  | succ fuel ih =>
      cases cs with
      | nil =>
          simp only [attributes, Option.some.injEq, Prod.mk.injEq] at h
          rw [← h.2.2]
      | cons c cs =>
          rw [attributes] at h
          · have hskip := skipSpace_suffix (c :: cs)
            split at h
            · rename_i hs
              cases h
              rw [hs] at hskip
              exact ((List.suffix_cons _ _).trans
                (List.suffix_cons _ _)).trans hskip
            · rename_i hs
              cases h
              rw [hs] at hskip
              exact (List.suffix_cons _ _).trans hskip
            · simp only [Option.bind_eq_bind, Option.bind_eq_some_iff,
                Prod.exists, Option.pure_def, Option.some.injEq,
                Prod.mk.injEq] at h
              obtain ⟨_, hs, a, _, ha, _, _, _, has, -, -, rfl⟩ := h
              exact (ih has).trans
                ((oneAttribute_suffix ha).trans (space_suffix hs))
          · simp

/-- A tag leaves an end of the text, whether it opens or stands alone. -/
theorem tag_suffix {cs rest : List Char} {t : Token}
    (h : tag cs = some (t, rest)) : rest <:+ cs := by
  simp only [tag, Option.bind_eq_bind, Option.bind_eq_some_iff,
    Prod.exists, Option.pure_def, Option.some.injEq,
    Prod.mk.injEq] at h
  obtain ⟨_, _, hq, _, _, _, has, -, rfl⟩ := h
  exact (attributes_suffix has).trans (qname_suffix hq)

/-- A tag that closes leaves an end of the text. -/
theorem closing_suffix {cs rest : List Char} {t : Token}
    (h : closing cs = some (t, rest)) : rest <:+ cs := by
  simp only [closing, Option.bind_eq_bind, Option.bind_eq_some_iff,
    Prod.exists, Option.pure_def, Option.some.injEq,
    Prod.mk.injEq] at h
  obtain ⟨_, _, hq, _, hc, -, rfl⟩ := h
  exact (char_suffix hc).trans
    ((skipSpace_suffix _).trans (qname_suffix hq))

theorem splitAtText?_suffix {mark cs before rest : List Char}
    (h : splitAtText? mark cs = some (before, rest)) : rest <:+ cs :=
  ⟨before ++ mark, (eq_of_splitAtText? h).symm⟩

theorem after?_suffix {lead cs rest : List Char}
    (h : after? lead cs = some rest) : rest <:+ cs :=
  ⟨lead, (after?_eq_some_iff.mp h).symm⟩

/-- A comment leaves what stands behind its end mark. -/
theorem comment_suffix {cs rest : List Char} {t : Token}
    (h : comment cs = some (t, rest)) : rest <:+ cs := by
  simp only [comment, Option.bind_eq_bind, Option.bind_eq_some_iff,
    Prod.exists, Option.pure_def, Option.some.injEq,
    Prod.mk.injEq] at h
  obtain ⟨_, _, hs, -, -, -, rfl⟩ := h
  exact splitAtText?_suffix hs

/-- A section of literal text leaves what stands behind its end mark. -/
theorem literalSection_suffix {cs rest : List Char} {t : Token}
    (h : literalSection cs = some (t, rest)) : rest <:+ cs := by
  simp only [literalSection, Option.bind_eq_bind,
    Option.bind_eq_some_iff, Prod.exists, Option.pure_def,
    Option.some.injEq, Prod.mk.injEq] at h
  obtain ⟨_, _, hs, -, -, -, rfl⟩ := h
  exact splitAtText?_suffix hs

/-- An instruction leaves what stands behind its end mark. -/
theorem instruction_suffix {cs rest : List Char} {t : Token}
    (h : instruction cs = some (t, rest)) : rest <:+ cs := by
  simp only [instruction, Option.bind_eq_bind,
    Option.bind_eq_some_iff, Prod.exists, Option.pure_def,
    Option.some.injEq, Prod.mk.injEq] at h
  obtain ⟨-, -, _, _, hn, _, _, hs, -, -, -, rfl⟩ := h
  exact (splitAtText?_suffix hs).trans
    ((skipSpace_suffix _).trans (name_suffix hn))

/-- A token takes at least one character. -/
theorem length_of_token {c : Char} {cs rest : List Char} {t : Token}
    (h : token (c :: cs) = some (t, rest)) : rest.length ≤ cs.length := by
  unfold token at h
  split at h
  case h_1 cs' he =>
      cases he
      have hcs' : cs' <:+ '!' :: cs' := List.suffix_cons _ _
      split at h
      · rename_i hm
        exact ((comment_suffix h).trans
          ((after?_suffix hm).trans hcs')).length_le
      · rename_i hm
        exact ((literalSection_suffix h).trans
          ((after?_suffix hm).trans hcs')).length_le
      · cases h
  case h_2 cs' he =>
      cases he
      exact ((instruction_suffix h).trans (List.suffix_cons _ _)).length_le
  case h_3 cs' he =>
      cases he
      exact ((closing_suffix h).trans (List.suffix_cons _ _)).length_le
  case h_4 cs' _ _ _ he =>
      cases he
      exact (tag_suffix h).length_le
  case h_5 hne =>
      -- a text that is no markup does not begin with its mark
      have hc : c ≠ '<' := by
        rintro rfl
        exact hne cs rfl
      simp only [text, Option.bind_eq_bind, Option.bind_eq_some_iff,
        Option.pure_def, Option.some.injEq, Prod.mk.injEq] at h
      obtain ⟨_, -, -, rfl⟩ := h
      rw [List.dropWhile_cons_of_pos (by simpa using hc)]
      exact (List.dropWhile_suffix _).length_le

-- ================================================================ fuel

/-- How many elements are open behind a token; none if the token closes
the element around the content. -/
def depthBehind (depth : Nat) : Token → Option Nat
  | .opening _ _ => some (depth + 1)
  | .closing _ => if depth = 0 then none else some (depth - 1)
  | _ => some depth

/-- Content is its first token, and then the content behind it, unless
the token ends it. -/
theorem contentWithin_succ (fuel depth : Nat) (c : Char)
    (cs : List Char) :
    contentWithin (fuel + 1) depth (c :: cs)
      = (token (c :: cs)).bind fun found =>
          match depthBehind depth found.1 with
          | none => some ([found.1], found.2)
          | some d => (contentWithin fuel d found.2).map fun more =>
              (found.1 :: more.1, more.2) := by
  rw [contentWithin.eq_def]
  simp only
  cases token (c :: cs) with
  | none => rfl
  | some found =>
      obtain ⟨t, rest⟩ := found
      simp only [Option.bind_eq_bind, Option.bind_some, Option.pure_def]
      have hmore : ∀ d : Nat,
          ((contentWithin fuel d rest).bind fun more =>
            some (t :: more.1, more.2))
          = (contentWithin fuel d rest).map fun more =>
              (t :: more.1, more.2) := by
        intro d
        cases contentWithin fuel d rest <;> rfl
      cases t with
      | opening name as => exact hmore _
      | closing name =>
          cases depth with
          | zero => rfl
          | succ depth => exact hmore _
      | _ => exact hmore _

/-- Every fuel that is enough gives the same. -/
theorem contentWithin_eq_contentWithin {k l : Nat} {cs : List Char}
    (hk : cs.length ≤ k) (hl : cs.length ≤ l) (depth : Nat) :
    contentWithin k depth cs = contentWithin l depth cs := by
  induction k generalizing l cs depth with
  | zero =>
      obtain rfl := List.eq_nil_of_length_eq_zero (Nat.le_zero.mp hk)
      cases l <;> rfl
  | succ k ih =>
      cases cs with
      | nil => cases l <;> rfl
      | cons c cs =>
          rw [List.length_cons] at hk hl
          obtain ⟨l, rfl⟩ : ∃ m, l = m + 1 := ⟨l - 1, by omega⟩
          rw [contentWithin_succ, contentWithin_succ]
          cases ht : token (c :: cs) with
          | none => rfl
          | some found =>
              have hlen := length_of_token ht
              simp only [Option.bind_some]
              split
              · rfl
              · rw [@ih l _ (by omega) (by omega)]

/-- Fuel for every character is enough. -/
theorem contentWithin_eq {fuel : Nat} {cs : List Char}
    (h : cs.length ≤ fuel) (depth : Nat) :
    contentWithin fuel depth cs = contentWithin cs.length depth cs :=
  contentWithin_eq_contentWithin h (Nat.le_refl _) depth

/-- Whether a comment or an instruction begins here. -/
def startsRemark (cs : List Char) : Bool :=
  (after? ['<', '!', '-', '-'] cs).isSome || (after? ['<', '?'] cs).isSome

/-- Comments and instructions are taken as long as one of them begins. Anything
else that a token could be is left for what comes behind. -/
theorem misc_succ (fuel : Nat) (cs : List Char) :
    misc (fuel + 1) cs
      = if startsRemark (skipSpace cs) then
          (token (skipSpace cs)).bind fun found =>
            (misc fuel found.2).map fun more =>
              (found.1 :: more.1, more.2)
        else some ([], skipSpace cs) := by
  rw [misc, startsRemark]
  refine if_congr Iff.rfl ?_ rfl
  cases token (skipSpace cs) with
  | none => rfl
  | some found =>
      simp only [Option.bind_eq_bind, Option.bind_some, Option.pure_def]
      cases misc fuel found.2 <;> rfl

theorem misc_nil (fuel : Nat) : misc fuel [] = some ([], []) := by
  cases fuel <;> rfl

/-- A token behind white space takes a character too, so the fuel of the scan
can follow the length of the text. -/
theorem length_of_token_skipSpace {cs : List Char}
    {found : Token × List Char} (ht : token (skipSpace cs) = some found) :
    found.2.length ≤ cs.length - 1 := by
  have hskip := (skipSpace_suffix cs).length_le
  cases hs : skipSpace cs with
  | nil =>
      rw [hs] at ht
      cases ht
      exact Nat.zero_le _
  | cons d ds =>
      rw [hs] at ht hskip
      have := length_of_token ht
      rw [List.length_cons] at hskip
      omega

/-- Every fuel that is enough gives the same. -/
theorem misc_eq_misc {k l : Nat} {cs : List Char} (hk : cs.length ≤ k)
    (hl : cs.length ≤ l) : misc k cs = misc l cs := by
  induction k generalizing l cs with
  | zero =>
      obtain rfl := List.eq_nil_of_length_eq_zero (Nat.le_zero.mp hk)
      rw [misc_nil, misc_nil]
  | succ k ih =>
      cases cs with
      | nil => rw [misc_nil, misc_nil]
      | cons c cs =>
          rw [List.length_cons] at hk hl
          obtain ⟨l, rfl⟩ : ∃ m, l = m + 1 := ⟨l - 1, by omega⟩
          rw [misc_succ, misc_succ]
          cases ht : token (skipSpace (c :: cs)) with
          | none => rfl
          | some found =>
              have hlen := length_of_token_skipSpace ht
              rw [List.length_cons, Nat.add_sub_cancel] at hlen
              simp only [Option.bind_some]
              rw [@ih l _ (by omega) (by omega)]

/-- Comments and instructions: the first of them, and then those behind
it. -/
theorem misc_eq {fuel : Nat} {cs : List Char} (h : cs.length ≤ fuel) :
    misc fuel cs
      = if startsRemark (skipSpace cs) then
          (token (skipSpace cs)).bind fun found =>
            (misc found.2.length found.2).map fun more =>
              (found.1 :: more.1, more.2)
        else some ([], skipSpace cs) := by
  rw [misc_eq_misc h (Nat.le_succ_of_le h), misc_succ]
  cases ht : token (skipSpace cs) with
  | none => rfl
  | some found =>
      have hlen := length_of_token_skipSpace ht
      simp only [Option.bind_some]
      rw [@misc_eq_misc fuel _ _ (by omega) (Nat.le_refl _)]

end Scan

-- ======================================================= written names

/-- A name that can be told from what is written around it: it is not
empty, and its ASCII characters are characters of names. -/
structure IsPlain (name : List Char) : Prop where
  ne_nil : name ≠ []
  chars : ∀ c ∈ name, isNameChar c = true ∨ isAscii c = false

/-- The name that is found where a name is written. -/
def nameOf? (name : List Char) : Option QName :=
  if name.all isNameChar then (Scan.qname name).map (·.1) else none

/-- The marks of markup stand in no plain name. -/
theorem IsPlain.ne {name : List Char} (h : IsPlain name) {c d : Char}
    (hc : c ∈ name) (hd : isNameChar d = false) (ha : isAscii d = true) :
    c ≠ d := by
  rintro rfl
  rcases h.chars c hc with hn | hw
  · rw [hd] at hn
    cases hn
  · rw [ha] at hw
    cases hw

/-- No white space that separates parts of a tag stands in a plain
name. -/
theorem IsPlain.not_space {name : List Char} (h : IsPlain name) {c : Char}
    (hc : c ∈ name) : isXmlSpace c = false := by
  have h1 := h.ne hc (d := ' ') rfl rfl
  have h2 := h.ne hc (d := '\t') rfl rfl
  have h3 := h.ne hc (d := '\n') rfl rfl
  have h4 := h.ne hc (d := '\r') rfl rfl
  simp [isXmlSpace, h1, h2, h3, h4]

/-- No white space is passed over in front of a plain name. -/
theorem IsPlain.skipSpace {name : List Char} (h : IsPlain name)
    (rest : List Char) : Scan.skipSpace (name ++ rest) = name ++ rest := by
  cases hn : name with
  | nil => exact absurd hn h.ne_nil
  | cons c cs =>
      rw [Scan.skipSpace, List.cons_append, List.dropWhile_cons_of_neg]
      rw [h.not_space (by simp [hn])]
      simp

namespace Scan

/-- A run of characters of names that ends inside a plain name ends at a
character beyond ASCII. -/
theorem exists_wide_of_not_all {name : List Char}
    (hchars : ∀ c ∈ name, isNameChar c = true ∨ isAscii c = false)
    (hall : ¬ name.all isNameChar = true) (rest : List Char) :
    ∃ c cs, (name ++ rest).dropWhile isNameChar = c :: cs
      ∧ isAscii c = false := by
  induction name with
  | nil => exact absurd rfl hall
  | cons d ds ih =>
      by_cases hd : isNameChar d = true
      · rw [List.cons_append, List.dropWhile_cons_of_pos hd]
        refine ih (fun c hc => hchars c (List.mem_cons_of_mem d hc)) ?_
        rwa [List.all_cons, hd, Bool.true_and] at hall
      · rw [List.cons_append, List.dropWhile_cons_of_neg hd]
        exact ⟨d, _, rfl,
          (hchars d (List.mem_cons_self ..)).resolve_left hd⟩

/-- Where a plain name is written, the name is found, or what is looked
for next stands in front of a character that belongs to no markup. -/
theorem qname_bind {β : Type} {name rest : List Char}
    (hname : IsPlain name) (hrest : ∀ c ∈ rest.head?, isNameChar c = false)
    {next : QName × List Char → Option β}
    (hnext : ∀ q c cs, isAscii c = false → next (q, c :: cs) = none) :
    (qname (name ++ rest)).bind next
      = (nameOf? name).bind fun q => next (q, rest) := by
  rw [nameOf?]
  have hstop : rest.takeWhile isNameChar = [] := by
    cases rest with
    | nil => rfl
    | cons c cs => simp [hrest c (by simp)]
  have hdrop : rest.dropWhile isNameChar = rest := by
    cases rest with
    | nil => rfl
    | cons c cs => simp [hrest c (by simp)]
  by_cases hall : name.all isNameChar = true
  · have hmem := List.all_eq_true.mp hall
    have htake : (name ++ rest).takeWhile isNameChar = name := by
      rw [List.takeWhile_append_of_pos hmem, hstop, List.append_nil]
    have hback : (name ++ rest).dropWhile isNameChar = rest := by
      rw [List.dropWhile_append_of_pos hmem, hdrop]
    rw [if_pos hall, qname_eq, htake, hback]
    cases qname name <;> rfl
  · -- the run of characters of names ends at one beyond ASCII
    obtain ⟨c, cs, hbad, hwide⟩ :=
      exists_wide_of_not_all hname.chars hall rest
    rw [if_neg hall, qname_eq, hbad]
    cases qname ((name ++ rest).takeWhile isNameChar) with
    | none => rfl
    | some found => exact hnext _ c cs hwide

end Scan

-- ======================================================== written tags

/-- The attribute that is found where an attribute is written. -/
def Attribute.raw? (a : Attribute) : Option RawAttribute :=
  (nameOf? a.name.qualified.toList).bind fun name =>
    if a.value.toList.all isXmlChar then some ⟨name, escape a.value⟩
    else none

/-- An element whose names are plain. -/
structure Element.Plain (e : Element) : Prop where
  name : IsPlain e.name.qualified.toList
  attributes : ∀ a ∈ e.attributes, IsPlain a.name.qualified.toList

namespace Scan

/-- No character beyond ASCII separates parts of a tag. -/
theorem not_space_of_wide {c : Char} (h : isAscii c = false) :
    isXmlSpace c = false := by
  cases hs : isXmlSpace c with
  | false => rfl
  | true =>
      simp only [isXmlSpace, Bool.or_eq_true, beq_iff_eq] at hs
      rcases hs with ((rfl | rfl) | rfl) | rfl <;> cases h

/-- No character beyond ASCII is passed over as white space. -/
theorem skipSpace_wide {c : Char} (h : isAscii c = false)
    (cs : List Char) : skipSpace (c :: cs) = c :: cs := by
  simp [skipSpace, not_space_of_wide h]

/-- A value is found between its quotes if neither a quote nor the mark of a
tag is in it, which is what escaping is for. -/
theorem quoted_written {value : List Char} (h : '"' ∉ value)
    (h' : '<' ∉ value) (rest : List Char) :
    quoted (· == '<') ('"' :: (value ++ '"' :: rest))
      = some (value, rest) := by
  have hinside : ∀ c ∈ value, (c != '"' && !(c == '<')) = true := by
    intro c hc
    have h1 : c ≠ '"' := fun he => h (he ▸ hc)
    have h2 : c ≠ '<' := fun he => h' (he ▸ hc)
    simp [h1, h2]
  rw [quoted]
  simp only [beq_self_eq_true, Bool.true_or, guard_true, Option.pure_def,
    Option.bind_eq_bind, Option.bind_some]
  rw [List.dropWhile_append_of_pos hinside,
    List.takeWhile_append_of_pos hinside]
  simp [char]

/-- A written attribute is found as a whole, or it is not at all: where its
name is cut short, the scan looks for an equals sign in the rest of the
name. -/
theorem oneAttribute_written {a : Attribute}
    (h : IsPlain a.name.qualified.toList) (rest : List Char) :
    oneAttribute (a.name.qualified.toList
        ++ '=' :: '"' :: (escape a.value ++ '"' :: rest))
      = a.raw?.map (·, rest) := by
  have hvalue := quoted_written (not_mem_escape a.value (.inr (.inr rfl)))
    (not_mem_escape a.value (.inl rfl)) rest
  have heq : isXmlSpace '=' = false := rfl
  have hquote : isXmlSpace '"' = false := rfl
  rw [oneAttribute]
  refine (qname_bind h ?_ ?_).trans ?_
  · simp only [List.head?_cons, Option.mem_def, Option.some.injEq]
    rintro c rfl
    rfl
  · intro q c cs hc
    have hne : (c == '=') = false := by
      simpa using fun he : c = '=' => absurd (he ▸ hc) (by decide)
    simp only [skipSpace_wide hc, char, hne]
    rfl
  · rw [Attribute.raw?]
    cases nameOf? a.name.qualified.toList with
    | none => rfl
    | some name =>
        simp only [Option.bind_some, skipSpace, List.dropWhile_cons, heq,
          hquote, Bool.false_eq_true, ↓reduceIte, char, beq_self_eq_true,
          Option.bind_eq_bind, hvalue, all_isXmlChar_escape]
        cases a.value.toList.all isXmlChar <;> rfl

/-- The text of attributes is that of the first, with what is behind it at hand
for the scan. -/
theorem attributesText_cons (a : Attribute) (as : List Attribute)
    (tail : List Char) :
    attributesText (a :: as) ++ tail
      = ' ' :: (a.name.qualified.toList ++ '=' :: '"'
        :: (escape a.value ++ '"' :: (attributesText as ++ tail))) := by
  simp [attributesText]

/-- There are no more attributes than characters in their text, so the fuel
that is taken from the text is enough for them. -/
theorem length_attributesText (as : List Attribute) (tail : List Char) :
    as.length ≤ (attributesText as ++ tail).length := by
  induction as with
  | nil => exact Nat.zero_le _
  | cons a as ih =>
      rw [attributesText_cons]
      simp only [List.length_append, List.length_cons] at ih ⊢
      omega

/-- No attribute and no end of a tag begins beyond ASCII. -/
theorem attributes_wide {c : Char} (h : isAscii c = false)
    (cs : List Char) (fuel : Nat) : attributes (fuel + 1) (c :: cs) = none := by
  have hspace := skipSpace_wide h cs
  rw [attributes, hspace]
  · split
    · rename_i he
      rw [(List.cons.inj he).1] at h
      cases h
    · rename_i he
      rw [(List.cons.inj he).1] at h
      cases h
    · simp [space, not_space_of_wide h]
  · simp

/-- Written attributes are found one by one, up to the end of their
tag. -/
theorem attributes_written {tail rest : List Char} {tagEnd : TagEnd}
    (htail : ∀ fuel, attributes (fuel + 1) tail = some ([], tagEnd, rest))
    {as : List Attribute}
    (has : ∀ a ∈ as, IsPlain a.name.qualified.toList) {fuel : Nat}
    (hfuel : as.length < fuel) :
    attributes fuel (attributesText as ++ tail)
      = (as.mapM Attribute.raw?).map fun raw => (raw, tagEnd, rest) := by
  induction as generalizing fuel with
  | nil =>
      obtain ⟨fuel, rfl⟩ : ∃ m, fuel = m + 1 := ⟨fuel - 1, by omega⟩
      exact htail fuel
  | cons a as ih =>
      rw [List.length_cons] at hfuel
      obtain ⟨fuel, rfl⟩ : ∃ m, fuel = m + 1 := ⟨fuel - 1, by omega⟩
      have ha := has a (List.mem_cons_self ..)
      have ih := ih (fun b hb => has b (List.mem_cons_of_mem a hb))
        (show as.length < fuel by omega)
      have hone := oneAttribute_written ha (attributesText as ++ tail)
      have hskip := ha.skipSpace ('=' :: '"'
        :: (escape a.value ++ '"' :: (attributesText as ++ tail)))
      rw [attributesText_cons]
      revert hone hskip
      generalize '=' :: '"'
        :: (escape a.value ++ '"' :: (attributesText as ++ tail)) = behind
      intro hone hskip
      have hspace : skipSpace (' ' :: (a.name.qualified.toList ++ behind))
          = a.name.qualified.toList ++ behind := hskip
      rw [attributes, hspace]
      · -- the name begins with neither of the marks that end a tag
        obtain ⟨c, cs, hc⟩ := List.exists_cons_of_ne_nil ha.ne_nil
        have hmem : c ∈ a.name.qualified.toList := by simp [hc]
        have hslash := ha.ne hmem (d := '/') rfl rfl
        have hgreater := ha.ne hmem (d := '>') rfl rfl
        rw [hc] at hone hspace ⊢
        split
        · rename_i h
          exact absurd (List.cons.inj h).1 hslash
        · rename_i h
          exact absurd (List.cons.inj h).1 hgreater
        · have hsep : space (' ' :: (c :: cs ++ behind))
              = some (c :: cs ++ behind) := by
            rw [space, if_pos (by rfl), hspace]
          rw [hsep]
          simp only [Option.bind_eq_bind, Option.bind_some, hone,
            List.mapM_cons, Option.pure_def]
          cases a.raw? with
          | none => rfl
          | some raw =>
              simp only [Option.map_some, Option.bind_some, ih]
              cases as.mapM Attribute.raw? <;> rfl
      · simp

/-- A written tag is found with its name and its attributes. -/
theorem tag_written {tail rest : List Char} {tagEnd : TagEnd}
    (htail : ∀ fuel, attributes (fuel + 1) tail = some ([], tagEnd, rest))
    (hstop : ∀ c ∈ tail.head?, isNameChar c = false) {e : Element}
    (he : e.Plain) :
    tag (e.name.qualified.toList ++ (attributesText e.attributes ++ tail))
      = (nameOf? e.name.qualified.toList).bind fun name =>
          (e.attributes.mapM Attribute.raw?).map fun raw =>
            (tagEnd.token name raw, rest) := by
  rw [tag]
  refine (qname_bind he.name ?_ ?_).trans ?_
  · cases e.attributes with
    | nil => exact hstop
    | cons a as =>
        rw [attributesText_cons]
        rintro c hc
        cases hc
        rfl
  · intro q c cs hc
    simp only [attributes_wide hc]
    rfl
  · cases nameOf? e.name.qualified.toList with
    | none => rfl
    | some name =>
        have hlen := length_attributesText e.attributes tail
        simp only [Option.bind_some]
        rw [attributes_written htail he.attributes (by omega)]
        cases e.attributes.mapM Attribute.raw? <;> rfl

/-- Behind the `<` of a tag stands a name. -/
theorem token_tag {name : List Char} (h : IsPlain name)
    (rest : List Char) :
    token ('<' :: (name ++ rest)) = tag (name ++ rest) := by
  obtain ⟨c, cs, hc⟩ := List.exists_cons_of_ne_nil h.ne_nil
  have hmem : c ∈ name := by simp [hc]
  have h1 := h.ne hmem (d := '!') rfl rfl
  have h2 := h.ne hmem (d := '?') rfl rfl
  have h3 := h.ne hmem (d := '/') rfl rfl
  rw [hc, List.cons_append, token]
  · exact fun _ he => h1 (List.cons.inj he).1
  · exact fun _ he => h2 (List.cons.inj he).1
  · exact fun _ he => h3 (List.cons.inj he).1

/-- A written tag that closes an element. -/
theorem token_closing {name : List Char} (h : IsPlain name)
    (rest : List Char) :
    token ('<' :: '/' :: (name ++ '>' :: rest))
      = (nameOf? name).map fun q => (.closing q, rest) := by
  rw [token, closing]
  refine (qname_bind h ?_ ?_).trans ?_
  · rintro c hc
    cases hc
    rfl
  · intro q c cs hc
    have hne : (c == '>') = false := by
      simpa using fun he : c = '>' => absurd (he ▸ hc) (by decide)
    simp only [skipSpace_wide hc, char, hne]
    rfl
  · cases nameOf? name <;> rfl

-- ======================================================= written texts

/-- A text up to the next markup. -/
theorem token_text {raw : List Char} (hne : raw ≠ []) (hopen : '<' ∉ raw)
    (hclose : '>' ∉ raw) (rest : List Char) :
    token (raw ++ '<' :: rest)
      = if raw.all isXmlChar then some (.text raw, '<' :: rest)
        else none := by
  have hinside : ∀ c ∈ raw, (c != '<') = true := by
    intro c hc
    simpa using fun he : c = '<' => hopen (he ▸ hc)
  have hmark : contains [']', ']', '>'] raw = false := by
    cases hm : contains [']', ']', '>'] raw with
    | false => rfl
    | true =>
        obtain ⟨⟨before, behind⟩, hs⟩ := Option.isSome_iff_exists.mp hm
        have := eq_of_splitAtText? hs
        exact absurd (by simp [this]) hclose
  have htoken : token (raw ++ '<' :: rest) = text (raw ++ '<' :: rest) := by
    obtain ⟨c, cs, rfl⟩ := List.exists_cons_of_ne_nil hne
    have hc : c ≠ '<' := fun he => hopen (he ▸ List.mem_cons_self ..)
    rw [List.cons_append, token]
    all_goals exact fun _ he => hc (List.cons.inj he).1
  rw [htoken, text, List.takeWhile_append_of_pos hinside,
    List.dropWhile_append_of_pos hinside]
  cases hall : raw.all isXmlChar <;> simp [hmark, hall]

-- ===================================================== written remarks

/-- A written comment. -/
theorem token_comment {s : String} (h : IsComment s.toList)
    (rest : List Char) :
    token ('<' :: '!' :: '-' :: '-' :: (s.toList ++ '-' :: '-' :: '>' :: rest))
      = some (.comment s, rest) := by
  have hsplit : splitAtText? ['-', '-', '>']
      (s.toList ++ (['-', '-', '>'] ++ rest)) = some (s.toList, rest) := by
    refine splitAtText?_append rest fun front back he hne => ?_
    -- two hyphens would have to stand in the text, or one at its end
    cases back with
    | nil => exact absurd rfl hne
    | cons c back =>
        by_cases hc : c = '-'
        · subst hc
          cases back with
          | nil => exact absurd (by simp [he]) h.noEnd
          | cons d back =>
              have hd : d ≠ '-' := by
                rintro rfl
                have := contains_append ['-', '-'] front back
                rw [List.cons_append, List.cons_append, List.nil_append,
                  ← he, h.noMark] at this
                cases this
              rw [List.cons_append, after?, if_pos (by rfl)]
              exact after?_cons_ne hd _ _
        · exact after?_cons_ne hc _ _
  rw [token]
  simp only [after?, beq_self_eq_true, ↓reduceIte, comment]
  simp only [List.cons_append, List.nil_append] at hsplit
  have hend : (s.toList.getLast? != some '-') = true := by
    simpa using h.noEnd
  rw [hsplit]
  simp only [Option.bind_eq_bind, Option.bind_some, h.chars, h.noMark,
    hend, Bool.not_false, Bool.and_self, guard_true, Option.pure_def,
    String.ofList_toList]

end Scan

/-- Whether an instruction looks like the declaration of a document. -/
def isDeclaration (target : String) (data : Option String) : Bool :=
  target == "xml" && data.isSome

namespace Scan

/-- A target ends where no character of names follows. -/
theorem name_written {t : List Char} (ht : IsTarget t) {c : Char}
    (hc : isNameChar c = false) (cs : List Char) :
    name (t ++ c :: cs) = some (String.ofList t, c :: cs) := by
  rw [name, List.takeWhile_append_of_pos ht.chars,
    List.dropWhile_append_of_pos ht.chars, List.takeWhile_cons_of_neg,
    List.dropWhile_cons_of_neg, List.append_nil, if_pos ht.starts]
  · simp [hc]
  · simp [hc]

/-- A word and a space stand before a text exactly if the characters of
names at its start are the word, and the space follows. -/
theorem after?_word {lead t : List Char}
    (hlead : ∀ d ∈ lead, isNameChar d = true)
    (ht : ∀ d ∈ t, isNameChar d = true) {c : Char}
    (hc : isNameChar c = false) (cs : List Char) :
    (after? (lead ++ [' ']) (t ++ c :: cs)).isSome
      = (t == lead && c == ' ') := by
  induction lead generalizing t with
  | nil =>
      cases t with
      | nil =>
          by_cases he : c = ' '
          · subst he
            rfl
          · simp [after?, he, Ne.symm he]
      | cons d t =>
          have hd : d ≠ ' ' := by
            rintro rfl
            cases ht ' ' (List.mem_cons_self ..)
          simp [after?, Ne.symm hd]
  | cons l lead ih =>
      cases t with
      | nil =>
          have hne : l ≠ c := by
            rintro rfl
            rw [hlead l (List.mem_cons_self ..)] at hc
            cases hc
          simp [after?, hne]
      | cons d t =>
          have ih := ih (fun e he => hlead e (List.mem_cons_of_mem l he))
            fun e he => ht e (List.mem_cons_of_mem d he)
          by_cases he : l = d
          · subst he
            rw [List.cons_append, List.cons_append, after?,
              if_pos (by simp), ih]
            simp
          · rw [List.cons_append, List.cons_append, after?,
              if_neg (by simpa using he)]
            simp [Ne.symm he]

/-- A target looks like the start of a declaration if it is `xml` and a
space follows. -/
theorem after?_target {t : List Char} (ht : IsTarget t) {c : Char}
    (hc : isNameChar c = false) (cs : List Char) :
    (after? ['x', 'm', 'l', ' '] (t ++ c :: cs)).isSome
      = (t == ['x', 'm', 'l'] && c == ' ') :=
  @after?_word ['x', 'm', 'l'] t (fun d hd => isPart_xml.chars d hd)
    ht.chars c hc cs

theorem beq_toList_xml (t : String) :
    (t.toList == ['x', 'm', 'l']) = (t == "xml") := by
  have hlist : ['x', 'm', 'l'] = "xml".toList := rfl
  rw [Bool.eq_iff_iff, beq_iff_eq, beq_iff_eq, hlist, String.toList_inj]

/-- In front of the end mark of an instruction no other one begins. -/
theorem after?_data {data front back : List Char}
    (hmark : contains ['?', '>'] data = false) (he : data = front ++ back)
    (hb : back ≠ []) (rest : List Char) :
    after? ['?', '>'] (back ++ (['?', '>'] ++ rest)) = none := by
  cases back with
  | nil => exact absurd rfl hb
  | cons c back =>
      by_cases hc : c = '?'
      · subst hc
        cases back with
        | nil => rfl
        | cons d back =>
            have hd : d ≠ '>' := by
              rintro rfl
              have hin := contains_append ['?', '>'] front back
              rw [List.cons_append, List.cons_append, List.nil_append,
                ← he, hmark] at hin
              cases hin
            rw [List.cons_append, after?, if_pos (by simp)]
            exact after?_cons_ne hd _ _
      · exact after?_cons_ne hc _ _

/-- An instruction looks like a declaration by what stands behind its
first mark. -/
theorem after?_instruction {t : String} (ht : IsTarget t.toList)
    (d : Option String) (rest : List Char) :
    (after? ['x', 'm', 'l', ' ']
        (instructionText t d ++ '?' :: '>' :: rest)).isSome
      = isDeclaration t d := by
  cases d with
  | none =>
      rw [instructionText, after?_target ht rfl]
      simp [isDeclaration]
  | some data =>
      rw [instructionText, List.append_assoc, List.cons_append,
        after?_target ht rfl, beq_toList_xml]
      simp [isDeclaration]

/-- Only the space in front of data is skipped. -/
theorem skipSpace_data {data : List Char} (h : IsData data)
    (rest : List Char) : skipSpace (' ' :: (data ++ rest)) = data ++ rest := by
  obtain ⟨hne, -, -, hspace⟩ := h
  cases data with
  | nil => exact absurd rfl hne
  | cons c cs =>
      have hc : isXmlSpace c = false := by
        cases hs : isXmlSpace c with
        | false => rfl
        | true =>
            -- the data would be longer than itself
            have hlen := (skipSpace_suffix cs).length_le
            rw [skipSpace, List.dropWhile_cons_of_pos hs, ← skipSpace]
              at hspace
            rw [hspace, List.length_cons] at hlen
            omega
      have hsep : isXmlSpace ' ' = true := rfl
      simp [skipSpace, hsep, hc]

/-- A written instruction, unless it looks like a declaration. -/
theorem token_instruction {t : String} {d : Option String}
    (ht : IsTarget t.toList) (hd : ∀ s, d = some s → IsData s.toList)
    (rest : List Char) :
    token ('<' :: '?' :: (instructionText t d ++ '?' :: '>' :: rest))
      = if isDeclaration t d then none
        else some (.instruction t d, rest) := by
  rw [token, instruction, ← Option.not_isSome, after?_instruction ht]
  cases hx : isDeclaration t d with
  | true => rfl
  | false =>
      cases d with
      | none =>
          have hskip : skipSpace ('?' :: '>' :: rest)
              = '?' :: '>' :: rest := rfl
          have hsplit : splitAtText? ['?', '>'] ('?' :: '>' :: rest)
              = some ([], rest) := @splitAtText?_append _ [] rest
                fun front back he hne =>
                  absurd (List.append_eq_nil_iff.mp he.symm).2 hne
          rw [instructionText, name_written ht rfl]
          simp only [Option.bind_eq_bind, Option.bind_some, hskip, hsplit]
          simp
      | some data =>
          obtain ⟨hne, hchars, hmark, -⟩ := hd data rfl
          have hskip := skipSpace_data (hd data rfl) ('?' :: '>' :: rest)
          have hsplit : splitAtText? ['?', '>']
              (data.toList ++ (['?', '>'] ++ rest))
              = some (data.toList, rest) :=
            splitAtText?_append rest fun front back he hb =>
              after?_data hmark he hb rest
          have hempty : data.toList.isEmpty = false := by
            simpa using hne
          simp only [List.cons_append, List.nil_append] at hsplit
          rw [instructionText, List.append_assoc, List.cons_append,
            name_written ht rfl]
          simp only [Option.bind_eq_bind, Option.bind_some, hskip, hsplit,
            Bool.not_false, guard_true, Option.pure_def, hchars, hempty,
            Bool.false_eq_true, ↓reduceIte, String.ofList_toList]

end Scan

end Overlay.Xml
