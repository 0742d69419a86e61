/-
How the names of a document are spelled that was read.

A reader looks at names character by character, but a document keeps
them whole, puts prefixes in front that it finds by URI, and adds
declarations of its own making. `NodeKind.Spelled` says what holds of
names all the same: each part is a name without a colon, a comment can
stand between its marks, and so can an instruction.

# Markup

Whatever a scan finds is spelled (`Scan.token_spelled`, and from there up
to `Scan.front_spelled` and `Scan.of_body`). What happens to the
names when the tokens are put together is told in `Assembling`.
-/
import Overlay.Proofs.Text.Cutting
import Overlay.Proofs.Xml.Numbering

namespace Overlay.Xml

open Text

-- =========================================================== spellings

/-- A part of a name: a name without a colon. -/
structure IsPart (part : List Char) : Prop where
  starts : Scan.startsName part = true
  chars : ∀ c ∈ part, isNameChar c = true
  noColon : ':' ∉ part

/-- A name whose prefix and local name are names without a colon. -/
structure QName.Spelled (name : QName) : Prop where
  localPart : IsPart name.localName.toList
  prefixPart : ∀ p, name.nsPrefix = some p → IsPart p.toList

/-- A text that can stand between the marks of a comment. -/
structure IsComment (s : List Char) : Prop where
  chars : s.all isXmlChar = true
  noMark : contains ['-', '-'] s = false
  noEnd : s.getLast? ≠ some '-'

/-- A target of a processing instruction. -/
structure IsTarget (s : List Char) : Prop where
  starts : Scan.startsName s = true
  chars : ∀ c ∈ s, isNameChar c = true

/-- The data of a processing instruction. -/
structure IsData (s : List Char) : Prop where
  ne_nil : s ≠ []
  chars : s.all isXmlChar = true
  noMark : contains ['?', '>'] s = false
  noSpace : Scan.skipSpace s = s

/-- A node that could have been read, as far as its spelling goes. -/
def NodeKind.Spelled : NodeKind → Prop
  | .element e => e.name.Spelled ∧ ∀ a ∈ e.attributes, a.name.Spelled
  | .text s => s ≠ ""
  | .comment s => IsComment s.toList
  | .instruction t d => IsTarget t.toList ∧ ∀ s, d = some s → IsData s.toList

/-- A token whose names, comment or instruction are spelled. -/
def Token.Spelled : Token → Prop
  | .opening name as => name.Spelled ∧ ∀ a ∈ as, a.name.Spelled
  | .single name as => name.Spelled ∧ ∀ a ∈ as, a.name.Spelled
  | .unfinished name as => name.Spelled ∧ ∀ a ∈ as, a.name.Spelled
  | .closing _ => True
  | .text _ => True
  | .literal _ => True
  | .comment s => IsComment s.toList
  | .instruction t d => IsTarget t.toList ∧ ∀ s, d = some s → IsData s.toList

/-- Whether a token is a comment or an instruction. -/
def Token.isRemark : Token → Bool
  | .comment _ => true
  | .instruction _ _ => true
  | _ => false

-- ============================================================ scanning

namespace Scan

theorem mem_takeWhile {p : Char → Bool} {cs : List Char} {c : Char}
    (h : c ∈ cs.takeWhile p) : p c = true :=
  List.mem_takeWhile_imp h

/-- Where white space was skipped, none begins. -/
theorem skipSpace_of_skipped {cs before rest : List Char}
    (h : skipSpace cs = before ++ rest) : skipSpace before = before := by
  cases before with
  | nil => rfl
  | cons c before =>
      have hc := List.head?_dropWhile_not isXmlSpace cs
      rw [skipSpace] at h
      rw [h] at hc
      have hc' : isXmlSpace c = false := hc
      simp [skipSpace, hc']

/-- What a scanned name is. -/
theorem name_spelled {cs rest : List Char} {s : String}
    (h : name cs = some (s, rest)) : IsTarget s.toList := by
  rw [name] at h
  split at h
  case isFalse => cases h
  case isTrue hs =>
      obtain ⟨rfl, -⟩ := by simpa using h
      exact ⟨by simpa using hs,
        fun c hc => mem_takeWhile (by simpa using hc)⟩

/-- What a scanned name with a prefix is. -/
theorem qname_spelled {cs rest : List Char} {q : QName}
    (h : qname cs = some (q, rest)) : q.Spelled := by
  have hpart : ∀ part ∈ splitOn ':' (cs.takeWhile isNameChar),
      startsName part = true → IsPart part := by
    intro part hp hs
    refine ⟨hs, fun c hc => ?_, fun hc => ?_⟩
    · exact mem_takeWhile (mem_of_mem_splitWhere hp hc).1
    · have := (mem_of_mem_splitWhere hp hc).2
      simp at this
  simp only [qname] at h
  split at h
  case h_1 l hl =>
      rw [hl] at hpart
      split at h
      case isFalse => cases h
      case isTrue hs =>
          obtain ⟨rfl, -⟩ := by simpa using h
          exact ⟨by simpa using hpart l (by simp) hs, by simp⟩
  case h_2 p l hl =>
      rw [hl] at hpart
      split at h
      case isTrue => cases h
      case isFalse hs =>
          have hlocal := hpart l (by simp) (by simpa using hs)
          split at h
          case isTrue =>
              obtain ⟨rfl, -⟩ := by simpa using h
              exact ⟨by simpa using hlocal, by simp⟩
          case isFalse =>
              split at h
              case isFalse => cases h
              case isTrue hp =>
                  obtain ⟨rfl, -⟩ := by simpa using h
                  refine ⟨by simpa using hlocal, ?_⟩
                  rintro p' hp'
                  cases hp'
                  simpa using hpart p (by simp) hp
  case h_3 => cases h

/-- The name of an attribute that is read is spelled. -/
theorem oneAttribute_spelled {cs rest : List Char} {a : RawAttribute}
    (h : oneAttribute cs = some (a, rest)) : a.name.Spelled := by
  simp only [oneAttribute, Option.bind_eq_bind,
    Option.bind_eq_some_iff, Prod.exists, Option.pure_def,
    Option.some.injEq, Prod.mk.injEq] at h
  obtain ⟨q, _, hq, _, -, _, _, -, _, -, rfl, -⟩ := h
  exact qname_spelled hq

/-- The names of all attributes of a tag are spelled, whatever the fuel is. -/
theorem attributes_spelled {fuel : Nat} {cs rest : List Char}
    {as : List RawAttribute} {tagEnd : TagEnd}
    (h : attributes fuel cs = some (as, tagEnd, rest)) :
    ∀ a ∈ as, a.name.Spelled := by
  induction fuel generalizing cs rest as tagEnd with
  | zero => cases h
  | succ fuel ih =>
      cases cs with
      | nil =>
          simp only [attributes, Option.some.injEq, Prod.mk.injEq] at h
          simp [← h.1]
      | cons c cs =>
          rw [attributes] at h
          · split at h
            · cases h
              simp
            · cases h
              simp
            · simp only [Option.bind_eq_bind, Option.bind_eq_some_iff,
                Prod.exists, Option.pure_def, Option.some.injEq,
                Prod.mk.injEq] at h
              obtain ⟨_, -, a, _, ha, as', _, _, has, rfl, -⟩ := h
              intro b hb
              rcases List.mem_cons.mp hb with rfl | hb
              · exact oneAttribute_spelled ha
              · exact ih has b hb
          · simp

/-- A tag that is read is spelled. -/
theorem tag_spelled {cs rest : List Char} {t : Token}
    (h : tag cs = some (t, rest)) : t.Spelled := by
  simp only [tag, Option.bind_eq_bind, Option.bind_eq_some_iff,
    Prod.exists, Option.pure_def, Option.some.injEq,
    Prod.mk.injEq] at h
  obtain ⟨q, _, hq, as, tagEnd, _, has, rfl, -⟩ := h
  have := And.intro (qname_spelled hq) (attributes_spelled has)
  cases tagEnd <;> exact this

/-- A comment that is read holds no two hyphens in a row and ends with none. -/
theorem comment_spelled {cs rest : List Char} {t : Token}
    (h : comment cs = some (t, rest)) : t.Spelled := by
  simp only [comment, Option.bind_eq_bind, Option.bind_eq_some_iff,
    Prod.exists, Option.pure_def, Option.some.injEq, Prod.mk.injEq,
    Option.guard_eq_some', Bool.and_eq_true] at h
  obtain ⟨s, _, -, -, ⟨⟨hc, hm⟩, he⟩, rfl, -⟩ := h
  exact ⟨by simpa using hc, by simpa using hm, by simpa using he⟩

/-- An instruction that is read has a target and no end mark in its data. -/
theorem instruction_spelled {cs rest : List Char} {t : Token}
    (h : instruction cs = some (t, rest)) : t.Spelled := by
  simp only [instruction, Option.bind_eq_bind,
    Option.bind_eq_some_iff, Prod.exists, Option.pure_def,
    Option.some.injEq, Prod.mk.injEq, Option.guard_eq_some'] at h
  obtain ⟨-, -, s, after, hs, d, _, hd, -, hc, rfl, -⟩ := h
  refine ⟨name_spelled hs, fun data hdata => ?_⟩
  by_cases hne : d.isEmpty = true
  · rw [if_pos hne] at hdata
    cases hdata
  · rw [if_neg hne] at hdata
    cases hdata
    have hfront := eq_of_splitAtText? hd
    rw [List.append_assoc] at hfront
    exact ⟨by simpa using hne, by simpa using hc,
      by simpa using contains_before (by simp) hd,
      by simpa using skipSpace_of_skipped hfront⟩

/-- Every token that is read is spelled. -/
theorem token_spelled {cs rest : List Char} {t : Token}
    (h : token cs = some (t, rest)) : t.Spelled := by
  unfold token at h
  split at h
  · split at h
    · exact comment_spelled h
    · simp only [literalSection, Option.bind_eq_bind,
        Option.bind_eq_some_iff, Prod.exists, Option.pure_def,
        Option.some.injEq, Prod.mk.injEq] at h
      obtain ⟨_, _, -, _, -, rfl, -⟩ := h
      trivial
    · cases h
  · exact instruction_spelled h
  · simp only [closing, Option.bind_eq_bind, Option.bind_eq_some_iff,
      Prod.exists, Option.pure_def, Option.some.injEq,
      Prod.mk.injEq] at h
    obtain ⟨_, _, -, _, -, rfl, -⟩ := h
    trivial
  · exact tag_spelled h
  · simp only [text, Option.bind_eq_bind, Option.bind_eq_some_iff,
      Option.pure_def, Option.some.injEq, Prod.mk.injEq] at h
    obtain ⟨_, -, rfl, -⟩ := h
    trivial

/-- Content that is scanned, whatever is open inside. -/
theorem contentWithin_spelled {fuel depth : Nat} {cs rest : List Char}
    {ts : List Token}
    (h : contentWithin fuel depth cs = some (ts, rest)) :
    ∀ t ∈ ts, t.Spelled := by
  induction fuel generalizing depth cs ts rest with
  | zero =>
      cases cs with
      | nil =>
          simp only [contentWithin, Option.some.injEq,
            Prod.mk.injEq] at h
          simp [← h.1]
      | cons c cs => simp [contentWithin] at h
  | succ fuel ih =>
      cases cs with
      | nil =>
          simp only [contentWithin, Option.some.injEq,
            Prod.mk.injEq] at h
          simp [← h.1]
      | cons c cs =>
          simp only [contentWithin, Option.bind_eq_bind,
            Option.bind_eq_some_iff, Prod.exists] at h
          obtain ⟨t, after, ht, h⟩ := h
          have hmore : ∀ d : Nat,
              ((contentWithin fuel d after).bind fun more =>
                some (t :: more.1, more.2))
                = some (ts, rest) → ∀ u ∈ ts, u.Spelled := by
            intro d hd
            simp only [Option.bind_eq_some_iff, Prod.exists,
              Option.some.injEq, Prod.mk.injEq] at hd
            obtain ⟨us, _, hus, rfl, -⟩ := hd
            intro u hu
            rcases List.mem_cons.mp hu with rfl | hu
            · exact token_spelled ht
            · exact ih hus u hu
          split at h
          · cases h
            simpa using token_spelled ht
          · exact hmore _ h
          · exact hmore _ h
          · exact hmore _ h

/-- What begins like a comment or an instruction is one. -/
theorem token_isRemark {cs rest : List Char} {t : Token}
    (hm : ((after? ['<', '!', '-', '-'] cs).isSome
      || (after? ['<', '?'] cs).isSome) = true)
    (h : token cs = some (t, rest)) : t.isRemark = true := by
  rw [Bool.or_eq_true, Option.isSome_iff_exists,
    Option.isSome_iff_exists] at hm
  rcases hm with ⟨after, hm⟩ | ⟨after, hm⟩
  · obtain rfl := after?_eq_some_iff.mp hm
    simp only [List.cons_append, List.nil_append, token, after?,
      beq_self_eq_true, ↓reduceIte, comment, Option.bind_eq_bind,
      Option.bind_eq_some_iff, Prod.exists, Option.pure_def,
      Option.some.injEq, Prod.mk.injEq] at h
    obtain ⟨_, _, -, -, -, rfl, -⟩ := h
    rfl
  · obtain rfl := after?_eq_some_iff.mp hm
    simp only [List.cons_append, List.nil_append, token, instruction,
      Option.bind_eq_bind, Option.bind_eq_some_iff, Prod.exists,
      Option.pure_def, Option.some.injEq, Prod.mk.injEq] at h
    obtain ⟨-, -, _, _, -, _, _, -, -, -, rfl, -⟩ := h
    rfl

/-- What stands in front of the root or behind it is spelled, and nothing but
remarks. -/
theorem misc_spelled {fuel : Nat} {cs rest : List Char}
    {ts : List Token} (h : misc fuel cs = some (ts, rest)) :
    ∀ t ∈ ts, t.Spelled ∧ t.isRemark = true := by
  induction fuel generalizing cs ts rest with
  | zero =>
      cases h
      simp
  | succ fuel ih =>
      rw [misc] at h
      split at h
      case isTrue hm =>
        simp only [Option.bind_eq_bind, Option.bind_eq_some_iff,
          Prod.exists, Option.pure_def, Option.some.injEq,
          Prod.mk.injEq] at h
        obtain ⟨t, _, ht, us, _, hus, rfl, -⟩ := h
        intro u hu
        rcases List.mem_cons.mp hu with rfl | hu
        · exact ⟨token_spelled ht, token_isRemark hm ht⟩
        · exact ih hus u hu
      case isFalse =>
        cases h
        simp

/-- What stands between the declarations of a document type is spelled, and
nothing but remarks. -/
theorem declarations_spelled {fuel : Nat} {cs : List Char} {f : Front}
    (h : declarations fuel cs = some f) :
    ∀ t ∈ f.tokens, t.Spelled ∧ t.isRemark = true := by
  induction fuel generalizing cs f with
  | zero => cases h
  | succ fuel ih =>
      simp only [declarations] at h
      split at h
      · simp only [Option.bind_eq_bind, Option.bind_eq_some_iff,
          Prod.exists, Option.pure_def, Option.some.injEq] at h
        obtain ⟨_, _, -, g, hg, rfl⟩ := h
        intro u hu
        exact ih hg u hu
      · simp only [Option.bind_eq_bind, Option.bind_eq_some_iff,
          Option.pure_def, Option.some.injEq] at h
        obtain ⟨_, -, rfl⟩ := h
        simp
      · split at h
        case isTrue hm =>
          simp only [Option.bind_eq_bind, Option.bind_eq_some_iff,
            Prod.exists, Option.pure_def, Option.some.injEq] at h
          obtain ⟨t, _, ht, g, hg, rfl⟩ := h
          intro u hu
          rcases List.mem_cons.mp hu with rfl | hu
          · exact ⟨token_spelled ht, token_isRemark hm ht⟩
          · exact ih hg u hu
        case isFalse =>
          split at h
          · simp only [Option.bind_eq_bind,
              Option.bind_eq_some_iff] at h
            obtain ⟨_, -, hd⟩ := h
            exact ih hd
          · cases h

/-- The same holds in all of a document type. -/
theorem doctype_spelled {cs : List Char} {f : Front}
    (h : doctype cs = some f) :
    ∀ t ∈ f.tokens, t.Spelled ∧ t.isRemark = true := by
  simp only [doctype, Option.bind_eq_bind, Option.bind_eq_some_iff,
    Prod.exists] at h
  obtain ⟨_, -, _, _, -, _, -, h⟩ := h
  split at h
  · cases h
    simp
  · exact declarations_spelled h
  · cases h

/-- The same holds in all that stands in front of the root. -/
theorem front_spelled {cs : List Char} {f : Front}
    (h : front cs = some f) :
    ∀ t ∈ f.tokens, t.Spelled ∧ t.isRemark = true := by
  simp only [front, Option.bind_eq_bind, Option.bind_eq_some_iff,
    Prod.exists] at h
  obtain ⟨_, -, ts, _, hts, h⟩ := h
  split at h
  · cases h
    exact misc_spelled hts
  · simp only [Option.bind_eq_some_iff, Option.pure_def,
      Option.some.injEq] at h
    obtain ⟨g, hg, rfl⟩ := h
    intro u hu
    rcases List.mem_append.mp hu with hu | hu
    · exact misc_spelled hts u hu
    · exact doctype_spelled hg u hu

/-- The tokens of an element, if there is one: a tag, and content behind
it only if the tag opens an element. -/
theorem element_cases {cs rest : List Char} {ts : List Token}
    (h : element cs = some (ts, rest)) :
    ts = [] ∨ ∃ name as, name.Spelled ∧ (∀ a ∈ as, a.name.Spelled) ∧
      (ts = [.single name as] ∨ ts = [.unfinished name as]
        ∨ ∃ us, (∀ u ∈ us, u.Spelled) ∧ ts = .opening name as :: us) := by
  rw [element.eq_def] at h
  split at h
  case h_2 =>
    cases h
    exact .inl rfl
  case h_1 after =>
    simp only [Option.bind_eq_bind, Option.bind_eq_some_iff,
      Prod.exists] at h
    obtain ⟨t, after, ht, h⟩ := h
    simp only [tag, Option.bind_eq_bind, Option.bind_eq_some_iff,
      Prod.exists, Option.pure_def, Option.some.injEq,
      Prod.mk.injEq] at ht
    obtain ⟨q, _, hq, as, tagEnd, _, has, rfl, rfl⟩ := ht
    refine .inr ⟨q, as, qname_spelled hq, attributes_spelled has, ?_⟩
    cases tagEnd with
    | opens =>
        simp only [TagEnd.token, Option.bind_eq_some_iff, Prod.exists,
          Option.pure_def, Option.some.injEq, Prod.mk.injEq] at h
        obtain ⟨us, _, hus, rfl, -⟩ := h
        exact .inr (.inr ⟨us, contentWithin_spelled hus, rfl⟩)
    | closes =>
        simp only [TagEnd.token, Option.pure_def, Option.some.injEq,
          Prod.mk.injEq] at h
        exact .inl h.1.symm
    | missing =>
        simp only [TagEnd.token, Option.pure_def, Option.some.injEq,
          Prod.mk.injEq] at h
        exact .inr (.inl h.1.symm)

/-- The tokens of the root are spelled, up to the end of its content. -/
theorem element_spelled {cs rest : List Char} {ts : List Token}
    (h : element cs = some (ts, rest)) : ∀ t ∈ ts, t.Spelled := by
  rcases element_cases h with
    rfl | ⟨name, as, hn, has, rfl | rfl | ⟨us, hus, rfl⟩⟩
  · simp
  · simpa [Token.Spelled] using And.intro hn has
  · simpa [Token.Spelled] using And.intro hn has
  · intro t ht
    rcases List.mem_cons.mp ht with rfl | ht
    · exact ⟨hn, has⟩
    · exact hus t ht

/-- The tokens behind the front: remarks, an element, and remarks. -/
theorem of_body {cs : List Char} {ts : List Token}
    (h : body cs = some ts) :
    ∃ before root after rest others, ts = before ++ root ++ after
      ∧ (∀ t ∈ before, t.Spelled ∧ t.isRemark = true)
      ∧ element others = some (root, rest)
      ∧ ∀ t ∈ after, t.Spelled ∧ t.isRemark = true := by
  simp only [body, Option.bind_eq_bind, Option.bind_eq_some_iff,
    Prod.exists, Option.pure_def, Option.some.injEq] at h
  obtain ⟨xs, _, hxs, ys, _, hys, zs, _, hzs, _, -, rfl⟩ := h
  exact ⟨xs, ys, zs, _, _, rfl, misc_spelled hxs, hys, misc_spelled hzs⟩

end Scan

end Overlay.Xml
