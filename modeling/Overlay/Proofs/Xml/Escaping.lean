/-
What becomes of a character that is written and read again.

# Writing

The five special characters of markup are written as references, every
other character as it is. So a written text falls into pieces, one for
each character of the text (`chunks_escape`), and it holds neither a `<`
nor a `>` nor a quote.

# Reading

A character that comes out of a reference is kept. The others are not
safe: white space in an attribute value becomes a space, and in a text a
CR becomes an LF. `readValue` and `readText` say what is read in the
place of a written text, without references and without a count of them
(`run_expandValue`, `run_addChunks`).

In a text, a CR survives in two places only: right in front of a special
character, and at the very end behind one. There the reader looks at a
reference when it would look at the CR.
-/
import Overlay.Xml.Writer
import Overlay.Proofs.Xml.Assembling

namespace Overlay.Xml

open Text

-- ============================================================= writing

/-- Whether a character is written as a reference. -/
def isEscaped (c : Char) : Bool :=
  c == '<' || c == '>' || c == '&' || c == '\'' || c == '"'

/-- The piece that a written character is read as. -/
def chunkOf (c : Char) : Chunk := if isEscaped c then .char c else .plain c

theorem isEscaped_iff {c : Char} :
    isEscaped c = true
      ↔ c = '<' ∨ c = '>' ∨ c = '&' ∨ c = '\'' ∨ c = '"' := by
  simp [isEscaped, or_assoc]

theorem escapeChar_of_not_escaped {c : Char} (h : isEscaped c = false) :
    escapeChar c = [c] := by
  unfold escapeChar
  split <;> first | rfl | cases h

/-- A special character is written as a reference to itself. -/
theorem escapeChar_of_escaped {c : Char} (h : isEscaped c = true) :
    ∃ name, escapeChar c = '&' :: name ∧ (∀ d ∈ name, isEscaped d = false)
      ∧ ∀ rest, reference (name ++ rest) = some (.char c, rest) := by
  rcases isEscaped_iff.mp h with rfl | rfl | rfl | rfl | rfl
  · exact ⟨['l', 't', ';'], rfl, by simp [isEscaped], fun _ => rfl⟩
  · exact ⟨['g', 't', ';'], rfl, by simp [isEscaped], fun _ => rfl⟩
  · exact ⟨['a', 'm', 'p', ';'], rfl, by simp [isEscaped], fun _ => rfl⟩
  · exact ⟨['a', 'p', 'o', 's', ';'], rfl, by simp [isEscaped], fun _ => rfl⟩
  · exact ⟨['q', 'u', 'o', 't', ';'], rfl, by simp [isEscaped], fun _ => rfl⟩

/-- A text without special characters is written as it is. -/
theorem escape_of_not_escaped {cs : List Char}
    (h : ∀ c ∈ cs, isEscaped c = false) :
    escape (String.ofList cs) = cs := by
  rw [escape, String.toList_ofList]
  induction cs with
  | nil => rfl
  | cons c cs ih =>
      rw [List.flatMap_cons, ih fun d hd => h d (List.mem_cons_of_mem c hd),
        escapeChar_of_not_escaped (h c (List.mem_cons_self ..)),
        List.singleton_append]

theorem escape_append (s t : String) :
    escape (s ++ t) = escape s ++ escape t := by
  rw [escape, String.toList_append, List.flatMap_append]
  rfl

/-- A written text is read piece by piece, one for each character. -/
theorem chunks_escape (s : String) :
    chunks (escape s) = some (s.toList.map chunkOf) := by
  have hfuel : ∀ (cs : List Char) (fuel : Nat),
      (cs.flatMap escapeChar).length ≤ fuel →
      chunksWithin fuel (cs.flatMap escapeChar)
        = some (cs.map chunkOf) := by
    intro cs
    induction cs with
    | nil =>
        intro fuel _
        cases fuel <;> rfl
    | cons c cs ih =>
        intro fuel hfuel
        rw [List.flatMap_cons, List.length_append] at hfuel
        rw [List.flatMap_cons, List.map_cons, chunkOf]
        by_cases hc : isEscaped c = true
        · obtain ⟨name, hname, -, href⟩ := escapeChar_of_escaped hc
          rw [hname, List.length_cons] at hfuel
          obtain ⟨fuel, rfl⟩ : ∃ k, fuel = k + 1 := ⟨fuel - 1, by omega⟩
          rw [hname, List.cons_append, chunksWithin, if_pos (by rfl), href]
          simp only [Option.bind_eq_bind, Option.bind_some, if_pos hc]
          rw [ih fuel (by omega)]
          rfl
        · have hc' : isEscaped c = false := by simpa using hc
          have hamp : (c == '&') = false := by
            cases h : c == '&' with
            | false => rfl
            | true => simp [isEscaped, h] at hc'
          rw [escapeChar_of_not_escaped hc', List.length_singleton] at hfuel
          obtain ⟨fuel, rfl⟩ : ∃ k, fuel = k + 1 := ⟨fuel - 1, by omega⟩
          rw [escapeChar_of_not_escaped hc', List.singleton_append,
            chunksWithin, hamp]
          simp only [Bool.false_eq_true, ↓reduceIte, hc']
          rw [ih fuel (by omega)]
          rfl
  exact hfuel s.toList _ (Nat.le_refl _)

/-- The one special character in a written text is `&`. -/
theorem mem_escape {s : String} {d : Char} (h : d ∈ escape s) :
    d = '&' ∨ isEscaped d = false := by
  obtain ⟨c, -, hd⟩ := List.mem_flatMap.mp h
  by_cases hc : isEscaped c = true
  · obtain ⟨name, hname, hchars, -⟩ := escapeChar_of_escaped hc
    rw [hname, List.mem_cons] at hd
    exact hd.imp_right (hchars d)
  · have hc' : isEscaped c = false := by simpa using hc
    rw [escapeChar_of_not_escaped hc', List.mem_singleton] at hd
    exact .inr (hd ▸ hc')

/-- Written text ends no tag, no attribute and no section. -/
theorem not_mem_escape (s : String) {d : Char}
    (h : d = '<' ∨ d = '>' ∨ d = '"') : d ∉ escape s := by
  intro hd
  rcases h with rfl | rfl | rfl <;>
    rcases mem_escape hd with hd | hd <;> cases hd

/-- What is escaped does not vanish. -/
theorem escape_ne_nil {s : String} (h : s ≠ "") : escape s ≠ [] := by
  intro he
  rw [escape, List.flatMap_eq_nil_iff] at he
  cases hs : s.toList with
  | nil => exact h (String.toList_inj.mp hs)
  | cons c cs =>
      have hc := he c (by simp [hs])
      by_cases hesc : isEscaped c = true
      · obtain ⟨_, hname, -⟩ := escapeChar_of_escaped hesc
        simp [hname] at hc
      · rw [escapeChar_of_not_escaped (by simpa using hesc)] at hc
        cases hc

/-- Writing adds no forbidden characters and hides none. -/
theorem all_isXmlChar_escape (s : String) :
    (escape s).all isXmlChar = s.toList.all isXmlChar := by
  rw [escape, List.all_flatMap]
  refine List.all_congr rfl fun c => ?_
  by_cases hc : isEscaped c = true
  · rcases isEscaped_iff.mp hc with rfl | rfl | rfl | rfl | rfl <;> decide
  · rw [escapeChar_of_not_escaped (by simpa using hc)]
    simp

-- ==================================================== attribute values

/-- What is read in the place of an attribute value. -/
def readValue : List Char → List Char
  | [] => []
  | c :: rest =>
    match c, rest with
    | '\r', '\n' :: _ => readValue rest
    | _, _ => spaced c :: readValue rest

theorem readValue_cons {c : Char} {rest : List Char}
    (h : c = '\r' → ∀ tail, rest ≠ '\n' :: tail) :
    readValue (c :: rest) = spaced c :: readValue rest := by
  rw [readValue]
  intro tail hc hrest
  exact h hc tail hrest

theorem eq_of_chunkOf {c d : Char} (h : chunkOf c = .plain d) : c = d := by
  rw [chunkOf] at h
  split at h
  · cases h
  · exact Chunk.plain.inj h

/-- The value of an attribute is what is read in its place. -/
theorem run_expandValue (valueOf : String → Expansion (List Char))
    (cs : List Char) (n : Nat) :
    (expandValue .document valueOf (cs.map chunkOf)).run n
      = some (readValue cs, n) := by
  induction cs with
  | nil => rfl
  | cons c cs ih =>
      rw [List.map_cons, chunkOf]
      by_cases hc : isEscaped c = true
      · have hspaced : spaced c = c := by
          rcases isEscaped_iff.mp hc with rfl | rfl | rfl | rfl | rfl <;>
            decide
        have hcr : c ≠ '\r' := by
          rintro rfl
          cases hc
        have hread : readValue (c :: cs) = c :: readValue cs := by
          rw [readValue_cons fun h => absurd h hcr, hspaced]
        rw [if_pos hc, expandValue, hread]
        simp [ih]
      · rw [if_neg hc]
        unfold expandValue readValue
        rw [StateT.run_bind, ih]
        by_cases hcr : c = '\r'
        · subst hcr
          cases cs with
          | nil => rfl
          | cons d ds =>
              by_cases hd : d = '\n'
              · subst hd
                rfl
              · simp only [List.map_cons]
                split
                · rename_i heq
                  exact absurd (eq_of_chunkOf (List.cons.inj heq).1) hd
                · split
                  · rename_i heq
                    exact absurd (List.cons.inj heq).1 hd
                  · rfl
        · simp [hcr]

/-- A value is read back unless it holds white space that is no space. -/
theorem readValue_eq_self_iff {cs : List Char} :
    readValue cs = cs ↔ ∀ c ∈ cs, c ≠ '\t' ∧ c ≠ '\n' ∧ c ≠ '\r' := by
  have hlength : ∀ cs : List Char, (readValue cs).length ≤ cs.length := by
    intro cs
    induction cs with
    | nil => exact Nat.le_refl _
    | cons c cs ih =>
        unfold readValue
        split
        · exact Nat.le_succ_of_le ih
        · exact Nat.succ_le_succ ih
  have hspaced : ∀ c, spaced c = c ↔ c ≠ '\t' ∧ c ≠ '\n' ∧ c ≠ '\r' := by
    intro c
    rw [spaced]
    split
    case isTrue h =>
        simp only [Bool.or_eq_true, beq_iff_eq] at h
        rcases h with (rfl | rfl) | rfl <;> decide
    case isFalse h =>
        simp only [Bool.or_eq_true, beq_iff_eq, not_or] at h
        simp [h.1.1, h.1.2, h.2]
  induction cs with
  | nil => simp [readValue]
  | cons c cs ih =>
      rw [List.forall_mem_cons, ← hspaced c]
      by_cases hdrop : c = '\r' ∧ ∃ tail, cs = '\n' :: tail
      · obtain ⟨rfl, tail, rfl⟩ := hdrop
        have hlen := hlength ('\n' :: tail)
        constructor
        · intro h
          have hread : readValue ('\r' :: '\n' :: tail)
              = readValue ('\n' :: tail) := rfl
          rw [hread] at h
          rw [h, List.length_cons] at hlen
          omega
        · rintro ⟨h, -⟩
          cases h
      · rw [readValue_cons fun hc tail ht => hdrop ⟨hc, tail, ht⟩,
          List.cons.injEq]
        exact and_congr_right fun _ => ih

-- =============================================================== texts

/-- What is read in the place of characters of a text; `behind` says
whether a special character stands right before them. -/
def readChars (behind : Bool) : List Char → List Char
  | [] => []
  | ['\r'] => [if behind then '\r' else '\n']
  | '\r' :: d :: rest =>
    if isEscaped d then '\r' :: readChars false (d :: rest)
    else if d = '\n' then readChars false (d :: rest)
    else '\n' :: readChars false (d :: rest)
  | c :: rest => c :: readChars (isEscaped c) rest

/-- What is read in the place of a text. -/
def readText (s : String) : String :=
  String.ofList (readChars false s.toList)

/-- Whether every CR is right in front of a special character, or stands
at the end right behind one. -/
def ReturnsKept (behind : Bool) : List Char → Prop
  | [] => True
  | ['\r'] => behind = true
  | '\r' :: d :: rest => isEscaped d = true ∧ ReturnsKept false (d :: rest)
  | c :: rest => ReturnsKept (isEscaped c) rest

/-- Any character but a carriage return is read as it is; whether it was
escaped counts for the next one. -/
theorem readChars_cons {c : Char} (hc : c ≠ '\r') (behind : Bool)
    (rest : List Char) :
    readChars behind (c :: rest) = c :: readChars (isEscaped c) rest := by
  rw [readChars.eq_def]
  split
  · rename_i h
    cases h
  · rename_i h
    exact absurd (List.cons.inj h).1 hc
  · rename_i h
    exact absurd (List.cons.inj h).1 hc
  · rename_i h
    obtain ⟨rfl, rfl⟩ := List.cons.inj h
    rfl

theorem Run.add_of_ne {read : List Char} (h : read.head? ≠ some '\r')
    (c : Char) (isLast : Bool) :
    Run.add ⟨read, false⟩ c isLast
      = ⟨(if isLast && c == '\r' then '\n' else c) :: read, false⟩ := by
  rw [Run.add]
  split
  · rename_i before hread
    exact absurd (congrArg List.head? hread) h
  · rfl

/-- A CR at the end of a run is settled by the character behind it. -/
theorem Run.add_behind_return {read : List Char}
    (h : read.head? ≠ some '\r') (c : Char) (isLast : Bool) :
    Run.add ⟨'\r' :: read, false⟩ c isLast
      = Run.add ⟨if c = '\n' then read else '\n' :: read, false⟩ c
          isLast := by
  by_cases hc : c = '\n'
  · subst hc
    rw [if_pos rfl, add_of_ne h]
    simp [Run.add]
  · have hlf : ('\n' :: read).head? ≠ some '\r' := by simp
    rw [if_neg hc, add_of_ne hlf]
    simp [Run.add, hc]

/-- A carriage return in front of a character that is not escaped becomes a
line feed, or goes if that is one. -/
theorem addChunks_behind_return (expander : Expander) {read : List Char}
    (h : read.head? ≠ some '\r') {d : Char} (hd : isEscaped d = false)
    (ds : List Char) (a : Assembly) :
    a.addChunks .document expander ⟨'\r' :: read, false⟩
        ((d :: ds).map chunkOf)
      = a.addChunks .document expander
          ⟨if d = '\n' then read else '\n' :: read, false⟩
          ((d :: ds).map chunkOf) := by
  have hchunk : chunkOf d = .plain d := by simp [chunkOf, hd]
  rw [List.map_cons, hchunk, Assembly.addChunks, Assembly.addChunks]
  simp only [Bool.false_eq_true, ↓reduceIte, Run.add_behind_return h]

/-- A character that is written as it is joins the run as it is, unless
it is a CR at the end. -/
theorem addChunks_plain (expander : Expander) {run : Run}
    (hrun : run.read.head? ≠ some '\r') {c : Char}
    (hc : isEscaped c = false) {cs : List Char}
    (hlast : c = '\r' → cs ≠ []) (a : Assembly) :
    a.addChunks .document expander run ((c :: cs).map chunkOf)
      = a.addChunks .document expander ⟨c :: run.read, false⟩
          (cs.map chunkOf) := by
  have hchunk : chunkOf c = .plain c := by simp [chunkOf, hc]
  have hsettled : (cs.isEmpty && c == '\r') = false := by
    by_cases hcr : c = '\r'
    · rw [List.isEmpty_eq_false_iff.mpr (hlast hcr), Bool.false_and]
    · simp [hcr]
  obtain ⟨read, verbatim⟩ := run
  rw [List.map_cons, hchunk, Assembly.addChunks, List.isEmpty_map]
  cases verbatim with
  | true => rfl
  | false =>
      rw [if_neg (by simp), Run.add_of_ne hrun, hsettled]
      rfl

/-- The pieces of a written text are added as what is read in its place,
behind a run that does not end in a CR of its own. -/
theorem run_addChunks (expander : Expander) (cs : List Char) (run : Run)
    (hrun : run.read.head? = some '\r' →
      ∃ d rest, cs = d :: rest ∧ isEscaped d = true)
    (a : Assembly) (n : Nat) :
    (a.addChunks .document expander run (cs.map chunkOf)).run n
      = some (a.addText (String.ofList
          (run.read.reverse ++ readChars run.verbatim cs)), n) := by
  induction cs generalizing run with
  | nil =>
      rw [List.map_nil, Assembly.addChunks, readChars, List.append_nil]
      rfl
  | cons c cs ih =>
      by_cases hc : isEscaped c = true
      · have hcr : c ≠ '\r' := by
          rintro rfl
          cases hc
        rw [List.map_cons, chunkOf, if_pos hc, Assembly.addChunks]
        simp only [Run.keep]
        rw [ih ⟨c :: run.read, true⟩
          fun h => absurd (Option.some.inj h) hcr, readChars_cons hcr, hc]
        simp
      · have hhead : run.read.head? ≠ some '\r' := by
          intro h
          obtain ⟨d, rest, he, hd⟩ := hrun h
          cases he
          exact hc hd
        have hc : isEscaped c = false := by simpa using hc
        by_cases hcr : c = '\r'
        · subst hcr
          cases cs with
          | nil =>
              -- a CR at the end, kept only behind an escaped character
              obtain ⟨read, verbatim⟩ := run
              rw [List.map_cons, chunkOf, if_neg (by simp [hc]),
                Assembly.addChunks]
              cases verbatim with
              | true =>
                  rw [if_pos rfl, List.map_nil, Assembly.addChunks]
                  simp [readChars, Run.keep, Run.text]
              | false =>
                  rw [if_neg (by simp), Run.add_of_ne hhead, List.map_nil,
                    Assembly.addChunks]
                  simp [readChars, Run.text]
          | cons d ds =>
              -- kept or added, the CR is settled by what comes next
              rw [addChunks_plain expander hhead hc (by simp), readChars]
              by_cases hd : isEscaped d = true
              · rw [ih _ fun _ => ⟨d, ds, rfl, hd⟩, if_pos hd]
                simp
              · rw [if_neg hd]
                rw [addChunks_behind_return expander hhead (by simpa using hd)]
                by_cases hlf : d = '\n'
                · rw [if_pos hlf, if_pos hlf,
                    ih ⟨run.read, false⟩ fun h => absurd h hhead]
                · rw [if_neg hlf, if_neg hlf, ih _ (by simp)]
                  simp
        · rw [addChunks_plain expander hhead hc (fun h => absurd h hcr),
            ih ⟨c :: run.read, false⟩
              fun h => absurd (Option.some.inj h) hcr,
            readChars_cons hcr, hc]
          simp

/-- Where something is written, something is read. -/
theorem readText_ne_empty {s : String} (h : s ≠ "") : readText s ≠ "" := by
  have hne : ∀ (behind : Bool) (cs : List Char), cs ≠ [] →
      readChars behind cs ≠ [] := by
    intro behind cs
    fun_induction readChars behind cs with
    | case4 behind rest _ ih => exact fun _ => ih (by simp)
    | _ => simp
  intro hs
  rw [readText, ← String.toList_inj, String.toList_ofList] at hs
  exact hne false s.toList (fun he => h (String.toList_inj.mp he)) hs

/-- A text is read back exactly if all of its CRs are kept. -/
theorem readChars_eq_self_iff {cs : List Char} {behind : Bool} :
    readChars behind cs = cs ↔ ReturnsKept behind cs := by
  have hlength : ∀ (behind : Bool) (cs : List Char),
      (readChars behind cs).length ≤ cs.length := by
    intro behind cs
    fun_induction readChars behind cs with
    | case1 behind => exact Nat.le_refl _
    | case2 behind => exact Nat.le_refl _
    | case3 behind d rest hd ih => exact Nat.succ_le_succ ih
    | case4 behind rest _ ih => exact Nat.le_succ_of_le ih
    | case5 behind d rest _ _ ih => exact Nat.succ_le_succ ih
    | case6 behind c rest _ _ ih => exact Nat.succ_le_succ ih
  fun_induction readChars behind cs with
  | case1 behind => simp [ReturnsKept]
  | case2 behind => cases behind <;> simp [ReturnsKept]
  | case3 behind d rest hd ih =>
      rw [List.cons.injEq, ReturnsKept]
      simp [hd, ih]
  | case4 behind rest hd ih =>
      have hlen := hlength false ('\n' :: rest)
      rw [ReturnsKept]
      constructor
      · intro h
        rw [h, List.length_cons] at hlen
        omega
      · rintro ⟨h, -⟩
        exact absurd h hd
  | case5 behind d rest hd _ ih =>
      rw [ReturnsKept]
      simp [hd]
  | case6 behind c rest hlast hcr ih =>
      rw [List.cons.injEq, ReturnsKept.eq_4]
      · simp [ih]
      · exact hlast
      · exact hcr

/-- Where there is no carriage return none is lost. -/
theorem returnsKept_of_not_mem {cs : List Char} (h : '\r' ∉ cs)
    (behind : Bool) : ReturnsKept behind cs := by
  induction cs generalizing behind with
  | nil => trivial
  | cons c cs ih =>
      rw [List.mem_cons, not_or] at h
      rw [ReturnsKept.eq_4]
      · exact ih h.2 _
      · rintro rfl
        exact absurd rfl h.1
      · rintro _ _ rfl
        exact absurd rfl h.1

theorem readText_eq_self_iff {s : String} :
    readText s = s ↔ ReturnsKept false s.toList := by
  rw [← readChars_eq_self_iff, readText]
  constructor
  · intro h
    simpa using congrArg String.toList h
  · intro h
    rw [h, String.ofList_toList]

end Overlay.Xml
