/-
The declaration of a document, and what looks like one.

An instruction with the target `xml` is written like the declaration of
a document. At the very start it is read as one, so whether the document
can be read depends on the data of the instruction; `isVersioned` says
which data make a declaration.

This has to be the same question whatever follows. Every step of the
scan is *local*: in front of the end mark it does what it does at the end
of a text, and leaves what follows alone (`Local`). A value in quotes
might run on behind the mark, but what follows begins with markup, and no
value holds a `<` (`Closed`).
-/
import Overlay.Proofs.Xml.Scanning

namespace Overlay.Xml

open Text

/-- Data that make a declaration. -/
def isVersioned (data : List Char) : Bool :=
  Scan.declaration ("<?xml ".toList ++ data ++ "?>".toList) == some []

/-- A text in which no value in quotes ends. -/
def Closed (cs : List Char) : Prop :=
  ∀ q, q = '"' ∨ q = '\'' →
    Scan.char q (cs.dropWhile fun c => c != q && !(c == '<')) = none

/-- The end mark of a declaration, and what follows it. -/
def endMark (behind : List Char) : List Char := '?' :: '>' :: behind

/-- A scanning step that does in front of an end mark what it does at the
end of a text. -/
structure Local (f : List Char → Option (List Char)) : Prop where
  suffix : ∀ {x y}, f x = some y → y <:+ x
  append : ∀ x {behind}, Closed behind →
    f (x ++ endMark behind) = (f x).map (· ++ endMark behind)

namespace Local

variable {f g : List Char → Option (List Char)}

theorem fail : Local fun _ => none := ⟨by simp, fun _ _ _ => rfl⟩

theorem stay : Local some := ⟨by simp, fun _ _ _ => rfl⟩

/-- Local steps one after the other. -/
theorem bind (hf : Local f) (hg : Local g) :
    Local fun cs => (f cs).bind g := by
  constructor
  · intro x z h
    obtain ⟨y, hy, hz⟩ := Option.bind_eq_some_iff.mp h
    exact (hg.suffix hz).trans (hf.suffix hy)
  · intro x behind hb
    have hx := hf.append x hb
    cases hfx : f x with
    | none =>
        rw [hfx] at hx
        simp only [hx, Option.map_none, Option.bind_none]
    | some y =>
        rw [hfx] at hx
        simp only [hx, Option.map_some, Option.bind_some, hg.append y hb]

end Local

namespace Scan

-- ========================================================= local steps

/-- No white space is skipped over an end mark. -/
theorem skipSpace_endMark (x behind : List Char) :
    skipSpace (x ++ endMark behind) = skipSpace x ++ endMark behind := by
  have hmark : isXmlSpace '?' = false := rfl
  induction x with
  | nil => simp [skipSpace, endMark, hmark]
  | cons c x ih =>
      rw [skipSpace] at ih ⊢
      rw [List.cons_append, skipSpace]
      by_cases hc : isXmlSpace c = true
      · rw [List.dropWhile_cons_of_pos hc, List.dropWhile_cons_of_pos hc]
        exact ih
      · rw [List.dropWhile_cons_of_neg hc, List.dropWhile_cons_of_neg hc]
        rfl

theorem local_space : Local space := by
  refine ⟨space_suffix, fun x behind _ => ?_⟩
  cases x with
  | nil => rfl
  | cons c x =>
      have hskip := skipSpace_endMark (c :: x) behind
      rw [List.cons_append] at hskip ⊢
      rw [space, space, hskip]
      split <;> rfl

/-- White space between the parts of a declaration is wanted unless its end
mark follows. -/
theorem declarationSpace_eq {cs : List Char} (hne : cs ≠ [])
    (hmark : ∀ rest, cs ≠ '?' :: '>' :: rest) :
    declarationSpace cs = space cs := by
  rw [declarationSpace]
  · exact hne
  · exact hmark

/-- At the end of a text no white space is wanted either, as in front of the
end mark. -/
theorem local_declarationSpace : Local declarationSpace := by
  constructor
  · intro x y h
    rw [declarationSpace.eq_def] at h
    split at h
    · cases h
      exact List.suffix_refl _
    · cases h
      exact List.suffix_refl _
    · exact space_suffix h
  · intro x behind hb
    by_cases hne : x = []
    · subst hne
      rfl
    by_cases hmark : ∃ rest, x = '?' :: '>' :: rest
    · obtain ⟨rest, rfl⟩ := hmark
      rfl
    have hmark : ∀ rest, x ≠ '?' :: '>' :: rest :=
      fun rest h => hmark ⟨rest, h⟩
    rw [declarationSpace_eq hne hmark, declarationSpace_eq (by simp [hne]),
      local_space.append x hb]
    intro rest h
    cases x with
    | nil => exact hne rfl
    | cons c x =>
        cases x with
        | nil => cases h
        | cons d x =>
            obtain ⟨hc, h⟩ := List.cons.inj h
            obtain ⟨hd, -⟩ := List.cons.inj h
            exact hmark x (by rw [hc, hd])

/-- One given character that is not in the mark. -/
theorem local_char {c : Char} (hc : c ≠ '?') : Local (char c) := by
  refine ⟨char_suffix, fun x behind _ => ?_⟩
  cases x with
  | nil =>
      have hne : ('?' == c) = false := by simpa using Ne.symm hc
      rw [List.nil_append, endMark, char, char, hne]
      rfl
  | cons d x =>
      rw [List.cons_append, char, char]
      split <;> rfl

/-- A run of characters ends at an end mark. -/
theorem span_endMark {p : Char → Bool} (hp : p '?' = false)
    (x behind : List Char) :
    (x ++ endMark behind).takeWhile p = x.takeWhile p
      ∧ (x ++ endMark behind).dropWhile p
        = x.dropWhile p ++ endMark behind := by
  induction x with
  | nil => simp [endMark, hp]
  | cons c x ih =>
      by_cases hc : p c = true
      · simp [hc, ih]
      · simp [hc]

theorem qname_endMark (x behind : List Char) :
    qname (x ++ endMark behind)
      = (qname x).map fun r => (r.1, r.2 ++ endMark behind) := by
  obtain ⟨htake, hdrop⟩ := span_endMark (p := isNameChar) rfl x behind
  rw [qname_eq, qname_eq x, htake, hdrop, Option.map_map]
  rfl

/-- A run of characters that has ended does so whatever stands behind it. -/
theorem span_of_stop {p : Char → Bool} {x : List Char}
    (h : x.dropWhile p ≠ []) (behind : List Char) :
    (x ++ behind).takeWhile p = x.takeWhile p
      ∧ (x ++ behind).dropWhile p = x.dropWhile p ++ behind := by
  induction x with
  | nil => exact absurd rfl h
  | cons c x ih =>
      by_cases hc : p c = true
      · rw [List.dropWhile_cons_of_pos hc] at h
        simp [hc, ih h]
      · simp [hc]

/-- A value in quotes does not run on behind the mark. -/
theorem quoted_endMark (x : List Char) {behind : List Char}
    (hb : Closed behind) :
    quoted (· == '<') (x ++ endMark behind)
      = (quoted (· == '<') x).map fun r => (r.1, r.2 ++ endMark behind) := by
  cases x with
  | nil => rfl
  | cons q x =>
      rw [List.cons_append, quoted, quoted]
      by_cases hq : q = '"' ∨ q = '\''
      · have hguard : (q == '"' || q == '\'') = true := by simpa using hq
        simp only [hguard, guard_true, Option.pure_def,
          Option.bind_eq_bind, Option.bind_some]
        by_cases hall : ∀ c ∈ x, (c != q && !(c == '<')) = true
        · -- no quote ends the value, neither here nor behind the mark
          have hmark : (endMark behind).dropWhile
              (fun c => c != q && !(c == '<'))
              = behind.dropWhile fun c => c != q && !(c == '<') := by
            rcases hq with rfl | rfl <;> rfl
          have hx : x.dropWhile (fun c => c != q && !(c == '<')) = [] :=
            List.dropWhile_eq_nil_iff.mpr hall
          rw [List.dropWhile_append_of_pos hall, hmark, hb q hq, hx]
          rfl
        · have hstop : x.dropWhile (fun c => c != q && !(c == '<')) ≠ [] :=
            fun h => hall (List.dropWhile_eq_nil_iff.mp h)
          obtain ⟨htake, hdrop⟩ := span_of_stop hstop (endMark behind)
          obtain ⟨d, w, hd⟩ := List.exists_cons_of_ne_nil hstop
          rw [htake, hdrop, hd, List.cons_append, char, char]
          split <;> rfl
      · have hguard : (q == '"' || q == '\'') = false := by simpa using hq
        simp only [hguard, Bool.false_eq_true, guard_false]
        rfl

/-- An attribute is read in front of an end mark as at the end of a text.
Behind the mark nothing may end a value, or one without its second quote would
go on there. -/
theorem oneAttribute_endMark (x : List Char) {behind : List Char}
    (hb : Closed behind) :
    oneAttribute (x ++ endMark behind)
      = (oneAttribute x).map fun r => (r.1, r.2 ++ endMark behind) := by
  rw [oneAttribute, oneAttribute, qname_endMark]
  cases qname x with
  | none => rfl
  | some found =>
      have hchar := (local_char (c := '=') (by simp)).append
        (skipSpace found.2) hb
      simp only [Option.map_some, Option.bind_eq_bind, Option.bind_some,
        skipSpace_endMark, hchar]
      cases char '=' (skipSpace found.2) with
      | none => rfl
      | some rest =>
          simp only [Option.map_some, Option.bind_some, skipSpace_endMark,
            quoted_endMark _ hb]
          cases quoted (· == '<') (skipSpace rest) with
          | none => rfl
          | some value =>
              simp only [Option.map_some, Option.bind_some]
              cases value.1.all isXmlChar <;> rfl

/-- Whether a text begins with a key is seen in front of the mark. -/
theorem isSome_after?_endMark {key : List Char} (hkey : '?' ∉ key)
    (x behind : List Char) :
    (after? key (x ++ endMark behind)).isSome = (after? key x).isSome := by
  induction key generalizing x with
  | nil => simp [after?]
  | cons k key ih =>
      rw [List.mem_cons, not_or] at hkey
      cases x with
      | nil =>
          rw [List.nil_append, endMark, after?_cons_ne hkey.1]
          rfl
      | cons c x =>
          rw [List.cons_append, after?, after?]
          split
          · exact ih hkey.2 x
          · rfl

/-- Reads an attribute of the declaration if it is there, and goes on
behind it, or where it would stand. -/
def ifDeclared (key : String) (f g : List Char → Option (List Char))
    (cs : List Char) : Option (List Char) :=
  (declared? key cs).bind fun found =>
    match found with
    | some rest => f rest
    | none => g cs

/-- A part that depends on an attribute looks for its name, which the end mark
is no part of. -/
theorem local_ifDeclared {key : String} (hkey : '?' ∉ key.toList)
    {f g : List Char → Option (List Char)} (hf : Local f) (hg : Local g) :
    Local (ifDeclared key f g) := by
  constructor
  · intro x y h
    obtain ⟨found, hfound, h⟩ := Option.bind_eq_some_iff.mp h
    rw [declared?] at hfound
    split at hfound
    · obtain ⟨a, ha, rfl⟩ := Option.map_eq_some_iff.mp hfound
      exact (hf.suffix h).trans (oneAttribute_suffix ha)
    · cases hfound
      exact hg.suffix h
  · intro x behind hb
    have hlead := isSome_after?_endMark hkey x behind
    simp only [ifDeclared, declared?, hlead, oneAttribute_endMark x hb]
    split
    · cases oneAttribute x with
      | none => rfl
      | some found => exact hf.append found.2 hb
    · exact hg.append x hb

-- ================================================== whole declarations

/-- What a declaration names, one after the other. -/
def declarationParts (cs : List Char) : Option (List Char) :=
  ((((declarationSpace cs).bind
    (ifDeclared "version" some fun _ => none)).bind
      declarationSpace).bind
        (ifDeclared "encoding" declarationSpace some)).bind
          (ifDeclared "standalone" some some)

/-- So all of a declaration is read in front of an end mark as it is alone. -/
theorem local_declarationParts : Local declarationParts := by
  have hversion : Local (ifDeclared "version" some fun _ => none) :=
    local_ifDeclared (by decide) .stay .fail
  have hencoding : Local (ifDeclared "encoding" declarationSpace some) :=
    local_ifDeclared (by decide) local_declarationSpace .stay
  have hstandalone : Local (ifDeclared "standalone" some some) :=
    local_ifDeclared (by decide) .stay .stay
  exact (((local_declarationSpace.bind hversion).bind
    local_declarationSpace).bind hencoding).bind hstandalone

/-- A declaration is its parts and the mark at its end. -/
theorem declaration_eq (cs : List Char) :
    declaration ("<?xml ".toList ++ cs)
      = (declarationParts (' ' :: cs)).bind fun rest =>
          after? ['?', '>'] (skipSpace rest) := by
  have hlead : after? ['<', '?', 'x', 'm', 'l', ' ']
      ("<?xml ".toList ++ cs) = some cs := after?_append _ cs
  have hlast : ∀ cs, ((declared? "standalone" cs).bind fun found =>
        after? ['?', '>'] (skipSpace (found.getD cs)))
      = (ifDeclared "standalone" some some cs).bind fun rest =>
          after? ['?', '>'] (skipSpace rest) := by
    intro cs
    rw [ifDeclared]
    cases declared? "standalone" cs with
    | none => rfl
    | some found => cases found <;> rfl
  rw [declaration, hlead, declarationParts]
  simp only [Option.bind_eq_bind, hlast]
  cases declarationSpace (' ' :: cs) with
  | none => rfl
  | some rest =>
      simp only [Option.bind_some, ifDeclared]
      cases declared? "version" rest with
      | none => rfl
      | some found =>
          cases found with
          | none => rfl
          | some rest =>
              simp only [Option.bind_some]
              cases declarationSpace rest with
              | none => rfl
              | some rest =>
                  simp only [Option.bind_some, ifDeclared]
                  cases declared? "encoding" rest with
                  | none => rfl
                  | some found =>
                      cases found with
                      | none => rfl
                      | some rest =>
                          simp only [Option.bind_some]
                          cases declarationSpace rest <;> rfl

/-- What follows data that hold no end mark is the end mark, if nothing
but white space is left of the data. -/
theorem after?_endMark {data : List Char}
    (hdata : contains ['?', '>'] data = false) {y : List Char}
    (hy : y <:+ ' ' :: data) (behind : List Char) :
    after? ['?', '>'] (skipSpace y ++ endMark behind)
      = if skipSpace y = [] then some behind else none := by
  obtain ⟨front, hfront⟩ := (skipSpace_suffix y).trans hy
  have hspaced : contains ['?', '>'] (' ' :: data) = false := by
    rw [contains] at hdata ⊢
    rw [splitAtText?, after?_cons_ne (by simp), Option.isSome_map]
    exact hdata
  by_cases hs : skipSpace y = []
  · rw [if_pos hs, hs]
    rfl
  · rw [if_neg hs]
    exact after?_data hspaced hfront.symm hs behind

/-- Data make a declaration whatever stands behind the end mark. -/
theorem declaration_written {data : List Char}
    (hdata : contains ['?', '>'] data = false) {behind : List Char}
    (hb : Closed behind) :
    declaration ("<?xml ".toList ++ (data ++ endMark behind))
      = if isVersioned data then some behind else none := by
  have hread : ∀ {behind : List Char}, Closed behind →
      declaration ("<?xml ".toList ++ (data ++ endMark behind))
        = (declarationParts (' ' :: data)).bind fun y =>
            if skipSpace y = [] then some behind else none := by
    intro behind hb
    have happend := local_declarationParts.append (' ' :: data) hb
    rw [List.cons_append] at happend
    rw [declaration_eq, happend]
    cases hparts : declarationParts (' ' :: data) with
    | none => rfl
    | some y =>
        have hy := local_declarationParts.suffix hparts
        rw [Option.map_some, Option.bind_some, Option.bind_some,
          skipSpace_endMark, after?_endMark hdata hy]
  have hnil : Closed [] := fun _ _ => rfl
  have hversioned : isVersioned data = (declaration
      ("<?xml ".toList ++ (data ++ endMark [])) == some []) := by
    rw [isVersioned, List.append_assoc]
    rfl
  rw [hversioned, hread hb, hread hnil]
  cases declarationParts (' ' :: data) with
  | none => rfl
  | some y =>
      rw [Option.bind_some, Option.bind_some]
      split <;> rfl

end Scan

end Overlay.Xml
