/-
The places at which a text is cut.

# Level texts

`Outside` goes through a text without keeping track of anything: it passes
over a quoted piece as a whole and collects what stands outside of those. So
it reads the texts that leave no quote open. A text is `Level` if, moreover,
it has as many opening as closing brackets outside quotes. Going through a
text with a quote and a count of brackets in hand finds nothing open in the
end exactly if the text is level (`level_iff`).

# Cuts

A place of a text is marked if a separator stands there and what is in front
of the place is level. Marks may overlap, as in `|||`. From left to right,
each mark is a cut but for those that begin inside an earlier cut. `Cuts`
says so of a list of places; there is no other such list (`Cuts.unique`).

# Parts

The first part ends at the first mark (`length_le_of_splitTop`), and what
stands behind it begins where nothing is open, so that the parts are the
pieces between the cuts (`exists_cuts`).
-/
import Overlay.Proofs.Text.Nesting

namespace Overlay.Text

-- ======================================================== level texts

/-- Reads a text that leaves no quote open: the characters outside its
quotes, in order. -/
inductive Outside : List Char → List Char → Prop
  | nil : Outside [] []
  | plain {c : Char} {cs out : List Char} : c ≠ '\'' → c ≠ '"' →
      Outside cs out → Outside (c :: cs) (c :: out)
  | quoted {q : Char} {inside cs out : List Char} : q = '\'' ∨ q = '"' →
      q ∉ inside → Outside cs out → Outside (q :: (inside ++ q :: cs)) out

/-- Whether a text leaves no quote open, and has as many opening as closing
brackets outside quotes. -/
def Level (cs : List Char) : Prop :=
  ∃ out, Outside cs out ∧ out.count '[' = out.count ']'

namespace Nest

variable {c : Char} {b : Int} {cs : List Char}

theorem step_quote (hc : c = '\'' ∨ c = '"') (b : Int) :
    (⟨none, b⟩ : Nest).step c = ⟨some c, b⟩ := by
  rcases hc with rfl | rfl <;> rfl

/-- A quoted piece changes nothing. -/
theorem through_quoted {inside : List Char} (hc : c = '\'' ∨ c = '"')
    (hinside : c ∉ inside) (b : Int) (cs : List Char) :
    (⟨none, b⟩ : Nest).through (c :: (inside ++ c :: cs))
      = (⟨none, b⟩ : Nest).through cs := by
  have hclose : (⟨some c, b⟩ : Nest).step c = ⟨none, b⟩ := by simp [step]
  rw [through_cons, step_quote hc, through_append,
    through_of_quote rfl hinside, through_cons, hclose]

/-- Outside quotes, brackets are counted. -/
theorem step_plain (hsingle : c ≠ '\'') (hdouble : c ≠ '"') (b : Int) :
    (⟨none, b⟩ : Nest).step c
      = ⟨none, b + [c].count '[' - [c].count ']'⟩ := by
  by_cases hopen : c = '['
  · subst hopen
    simp [step]
  · by_cases hclose : c = ']'
    · subst hclose
      simp [step]
    · simp [step, hsingle, hdouble, hopen, hclose]

/-- A character changes the count of brackets by one at most. -/
theorem brackets_step (n : Nest) (c : Char) :
    (n.step c).brackets = n.brackets
      ∨ (n.step c).brackets = n.brackets + 1
      ∨ (n.step c).brackets = n.brackets - 1 := by
  unfold step
  split
  · split <;> exact .inl rfl
  · split_ifs
    exacts [.inl rfl, .inr (.inl rfl), .inr (.inr rfl), .inl rfl]

/-- The count of brackets goes no further than a text is long. -/
theorem natAbs_brackets_through (n : Nest) (cs : List Char) :
    (n.through cs).brackets.natAbs ≤ n.brackets.natAbs + cs.length := by
  induction cs generalizing n with
  | nil => exact Nat.le_refl _
  | cons c cs ih =>
      have hrest := ih (n.step c)
      have hstep := n.brackets_step c
      rw [through_cons, List.length_cons]
      omega

end Nest

/-- What stands outside of quotes decides over the brackets that are open:
those that open less those that close. -/
theorem Outside.through {cs out : List Char} (h : Outside cs out) (b : Int) :
    (⟨none, b⟩ : Nest).through cs
      = ⟨none, b + out.count '[' - out.count ']'⟩ := by
  induction h generalizing b with
  | nil => simp
  | @plain c cs out hsingle hdouble _ ih =>
      have hcount : ∀ d, (c :: out).count d = [c].count d + out.count d :=
        fun d => by rw [← List.count_append, List.singleton_append]
      rw [Nest.through_cons, Nest.step_plain hsingle hdouble, ih, hcount,
        hcount]
      congr 1
      push_cast
      omega
  | quoted hq hinside _ ih => rw [Nest.through_quoted hq hinside, ih]

/-- A text that leaves no quote open is read. -/
theorem exists_outside {cs : List Char} {b : Int}
    (h : ((⟨none, b⟩ : Nest).through cs).quote = none) :
    ∃ out, Outside cs out := by
  match cs with
  | [] => exact ⟨[], .nil⟩
  | c :: rest =>
      by_cases hc : c = '\'' ∨ c = '"'
      · -- a quote that is never closed stays open
        have hmem : c ∈ rest := by
          by_contra hno
          rw [Nest.through_cons, Nest.step_quote hc,
            Nest.through_of_quote rfl hno] at h
          cases h
        obtain ⟨inside, behind, hrest, hinside⟩ :=
          List.eq_append_cons_of_mem hmem
        rw [hrest, Nest.through_quoted hc hinside] at h
        obtain ⟨out, hout⟩ := exists_outside h
        exact ⟨out, hrest ▸ .quoted hc hinside hout⟩
      · obtain ⟨hsingle, hdouble⟩ := not_or.mp hc
        rw [Nest.through_cons, Nest.step_plain hsingle hdouble] at h
        obtain ⟨out, hout⟩ := exists_outside h
        exact ⟨c :: out, .plain hsingle hdouble hout⟩
termination_by cs.length
decreasing_by
  · simp [hrest]
    omega
  · simp

/-- Nothing is open behind a text exactly if it is level. -/
theorem level_iff {cs : List Char} :
    Level cs ↔ ({} : Nest).through cs = {} := by
  constructor
  · rintro ⟨out, hout, hcount⟩
    rw [hout.through 0, hcount]
    simp
  · intro h
    obtain ⟨out, hout⟩ := exists_outside (congrArg Nest.quote h)
    refine ⟨out, hout, ?_⟩
    have hbrackets := congrArg Nest.brackets ((hout.through 0).symm.trans h)
    dsimp only at hbrackets
    omega

instance (cs : List Char) : Decidable (Level cs) :=
  decidable_of_iff _ level_iff.symm

-- =============================================================== cuts

/-- Whether a separator stands at a place, with a level text in front. -/
def Marked (sep cs : List Char) (place : Nat) : Prop :=
  Level (cs.take place) ∧ sep <+: cs.drop place

instance (sep cs : List Char) (place : Nat) :
    Decidable (Marked sep cs place) :=
  inferInstanceAs (Decidable (_ ∧ _))

/-- The cuts of a text from a place on: marks that do not overlap, so that
every other mark begins inside an earlier one of them. -/
structure Cuts (sep cs : List Char) (start : Nat) (places : List Nat) :
    Prop where
  marked : ∀ i ∈ places, start ≤ i ∧ Marked sep cs i
  apart : places.Pairwise fun i j => i + sep.length ≤ j
  covers : ∀ i, start ≤ i → Marked sep cs i →
    ∃ j ∈ places, j ≤ i ∧ i < j + sep.length

/-- The pieces of a text between places, each `width` long, from a place
on. -/
def pieces (width : Nat) (cs : List Char) (start : Nat) :
    List Nat → List (List Char)
  | [] => [cs.drop start]
  | i :: places => (cs.take i).drop start :: pieces width cs (i + width) places

section

variable {sep cs : List Char} {start i : Nat} {places : List Nat}

theorem drop_eq_append (h : start ≤ i) :
    cs.drop start = (cs.take i).drop start ++ cs.drop i := by
  have hsplit := List.drop_take_append_drop cs start (i - start)
  rw [Nat.add_sub_cancel' h] at hsplit
  rw [List.drop_take, hsplit]

namespace Cuts

/-- A cut in front of the others is one of them if it is the first that a
separator marks. -/
theorem cons (hstart : start ≤ i) (hi : Marked sep cs i)
    (hleft : ∀ j, start ≤ j → Marked sep cs j → i ≤ j)
    (h : Cuts sep cs (i + sep.length) places) :
    Cuts sep cs start (i :: places) where
  marked := by
    intro j hj
    rcases List.mem_cons.mp hj with rfl | hj
    · exact ⟨hstart, hi⟩
    · obtain ⟨hle, hmarked⟩ := h.marked j hj
      exact ⟨by omega, hmarked⟩
  apart := List.pairwise_cons.mpr ⟨fun j hj => (h.marked j hj).1, h.apart⟩
  covers := by
    intro j hj hmarked
    have hle := hleft j hj hmarked
    by_cases hin : j < i + sep.length
    · exact ⟨i, List.mem_cons_self .., hle, hin⟩
    · obtain ⟨k, hk, hkj⟩ := h.covers j (by omega) hmarked
      exact ⟨k, List.mem_cons_of_mem i hk, hkj⟩

/-- Behind the first cut the others are the cuts. -/
theorem tail (h : Cuts sep cs start (i :: places)) :
    Cuts sep cs (i + sep.length) places where
  marked j hj := ⟨List.rel_of_pairwise_cons h.apart hj,
    (h.marked j (List.mem_cons_of_mem i hj)).2⟩
  apart := h.apart.of_cons
  covers := by
    intro j hj hmarked
    have hi := (h.marked i (List.mem_cons_self ..)).1
    obtain ⟨k, hk, hkj⟩ := h.covers j (by omega) hmarked
    rcases List.mem_cons.mp hk with rfl | hk
    · omega
    · exact ⟨k, hk, hkj⟩

/-- A text has one list of cuts only. -/
theorem unique {others : List Nat} (hne : sep ≠ [])
    (h : Cuts sep cs start places) (h' : Cuts sep cs start others) :
    places = others := by
  have hpos := List.length_pos_iff.mpr hne
  induction places generalizing start others with
  | nil =>
      cases others with
      | nil => rfl
      | cons j others =>
          obtain ⟨hj, hmarked⟩ := h'.marked j (List.mem_cons_self ..)
          obtain ⟨k, hk, -⟩ := h.covers j hj hmarked
          cases hk
  | cons i places ih =>
      -- the first cut is the first mark, which only a first cut covers
      have hfirst : ∀ {j k : Nat} {ps qs : List Nat},
          Cuts sep cs start (j :: ps) → Cuts sep cs start (k :: qs) →
            j ≤ k := by
        intro j k ps qs hj hk
        obtain ⟨hle, hmarked⟩ := hk.marked k (List.mem_cons_self ..)
        obtain ⟨l, hl, hlk, -⟩ := hj.covers k hle hmarked
        rcases List.mem_cons.mp hl with rfl | hl
        · exact hlk
        · have := List.rel_of_pairwise_cons hj.apart hl
          omega
      cases others with
      | nil =>
          obtain ⟨hi, hmarked⟩ := h.marked i (List.mem_cons_self ..)
          obtain ⟨k, hk, -⟩ := h'.covers i hi hmarked
          cases hk
      | cons j others =>
          obtain rfl := Nat.le_antisymm (hfirst h h') (hfirst h' h)
          rw [ih h.tail h'.tail]

/-- Between its cuts, a text has lost its separators and nothing else. -/
theorem intercalate_pieces (h : Cuts sep cs start places) :
    sep.intercalate (pieces sep.length cs start places) = cs.drop start := by
  induction places generalizing start with
  | nil => exact List.intercalate_singleton ..
  | cons i places ih =>
      obtain ⟨hle, -, behind, hbehind⟩ := h.marked i (List.mem_cons_self ..)
      have hne : pieces sep.length cs (i + sep.length) places ≠ [] := by
        cases places <;> simp [pieces]
      have hdrop : cs.drop (i + sep.length) = behind := by
        rw [← List.drop_drop, ← hbehind, List.drop_left]
      have hfront : cs.drop start = (cs.take i).drop start ++ cs.drop i :=
        drop_eq_append hle
      rw [pieces, List.intercalate_cons_of_ne_nil hne, ih h.tail, hdrop,
        hfront, ← hbehind]
      simp

end Cuts

theorem length_pieces (width : Nat) (cs : List Char) (start : Nat)
    (places : List Nat) :
    (pieces width cs start places).length = places.length + 1 := by
  induction places generalizing start with
  | nil => rfl
  | cons i places ih => rw [pieces, List.length_cons, ih, List.length_cons]

-- ============================================================== parts

/-- No separator begins in the first part where nothing is open, not even
one that reaches beyond it. -/
theorem length_le_of_splitTop (hsep : IsSeparator sep) {n : Nest}
    {front back q : List Char} {qs : List (List Char)}
    (h : splitTop sep n (front ++ sep ++ back) = q :: qs)
    (htop : n.through front = {}) : q.length ≤ front.length := by
  induction front generalizing n q qs with
  | nil =>
      rw [Nest.through_nil] at htop
      subst htop
      rw [List.nil_append, splitTop_append_sep hsep] at h
      obtain ⟨rfl, -⟩ := List.cons.inj h
      exact Nat.le_refl 0
  | cons c front ih =>
      rw [List.cons_append, List.cons_append] at h
      by_cases hcut : n.isTop = true ∧ sep <+: c :: (front ++ sep ++ back)
      · obtain ⟨hn, rest, hrest⟩ := hcut
        rw [Nest.isTop_iff.mp hn, ← hrest, splitTop_append_sep hsep] at h
        obtain ⟨rfl, -⟩ := List.cons.inj h
        exact Nat.zero_le _
      · obtain ⟨p, ps, hp, -⟩ :=
          splitTop_eq_cons hsep (n.step c) (front ++ sep ++ back)
        rw [splitTop_cons_of_not hcut, hp] at h
        obtain ⟨rfl, -⟩ := List.cons.inj h
        exact Nat.succ_le_succ (ih hp htop)

/-- A mark, as it is seen from a place in front of which nothing is open. -/
theorem Marked.behind (h : Marked sep cs i) (hle : start ≤ i)
    (hstart : ({} : Nest).through (cs.take start) = {}) :
    ∃ back, cs.drop start = (cs.take i).drop start ++ sep ++ back
      ∧ ({} : Nest).through ((cs.take i).drop start) = {} := by
  obtain ⟨hlevel, back, hback⟩ := h
  refine ⟨back, ?_, ?_⟩
  · rw [drop_eq_append hle, ← hback, List.append_assoc]
  · have htake := level_iff.mp hlevel
    rwa [← List.take_append_drop start (cs.take i), List.take_take,
      Nat.min_eq_left hle, Nest.through_append, hstart] at htake

/-- From a place in front of which nothing is open, a text is cut into the
pieces between its cuts. -/
theorem exists_cuts (hsep : IsSeparator sep) (cs : List Char) (start : Nat)
    (hlen : start ≤ cs.length)
    (hstart : ({} : Nest).through (cs.take start) = {}) :
    ∃ places, Cuts sep cs start places
      ∧ splitTop sep {} (cs.drop start)
        = pieces sep.length cs start places := by
  obtain ⟨q, qs, hsplit, hnot, hrest⟩ :=
    splitTop_eq_cons hsep {} (cs.drop start)
  rcases hrest with ⟨rfl, rfl⟩ | ⟨rest, hdrop, hq, rfl⟩
  · refine ⟨[], ⟨by simp, .nil, fun i hi hmarked => ?_⟩, hsplit⟩
    obtain ⟨back, hback, htop⟩ := hmarked.behind hi hstart
    exact absurd ⟨_, back, hback, Nest.isTop_iff.mpr htop⟩ hnot
  · have hpos := List.length_pos_iff.mpr hsep.ne_nil
    have hlength : cs.length - start
        = q.length + sep.length + rest.length := by
      simpa [Nat.add_assoc] using congrArg List.length hdrop
    -- the text in front of the first cut, and behind it
    have htake : cs.take (start + q.length) = cs.take start ++ q := by
      rw [List.take_add, hdrop, List.append_assoc, List.take_left]
    have hbehind : cs.drop (start + q.length) = sep ++ rest := by
      rw [← List.drop_drop, hdrop, List.append_assoc, List.drop_left]
    have hnext : cs.drop (start + q.length + sep.length) = rest := by
      rw [← List.drop_drop, hbehind, List.drop_left]
    have htop : ({} : Nest).through (cs.take (start + q.length)) = {} := by
      rw [htake, Nest.through_append, hstart, hq]
    have hthrough : ({} : Nest).through
        (cs.take (start + q.length + sep.length)) = {} := by
      rw [List.take_add, hbehind, List.take_left, Nest.through_append, htop,
        Nest.proper_empty.through_of_plain hsep.plain]
    obtain ⟨places, hcuts, hparts⟩ := exists_cuts hsep cs
      (start + q.length + sep.length) (by omega) hthrough
    refine ⟨(start + q.length) :: places, hcuts.cons (by omega)
      ⟨level_iff.mpr htop, rest, hbehind.symm⟩ fun j hj hmarked => ?_, ?_⟩
    · obtain ⟨back, hback, hfront⟩ := hmarked.behind hj hstart
      rw [hback] at hsplit
      have := length_le_of_splitTop hsep hsplit hfront
      rw [List.length_drop, List.length_take] at this
      omega
    · rw [hsplit, pieces, ← hparts, hnext, htake, List.drop_left']
      rw [List.length_take, Nat.min_eq_left hlen]
termination_by cs.length - start
decreasing_by omega

/-- A part has no mark of its own. -/
theorem not_marked_of_mem_splitTop (hsep : IsSeparator sep)
    {part : List Char} (h : part ∈ splitTop sep {} cs) (place : Nat) :
    ¬ Marked sep part place := by
  obtain ⟨before, behind, hparts⟩ := List.append_of_mem h
  have hnot := (part_of_mem_splitTop hsep hparts).1
  intro hmarked
  obtain ⟨back, hback, htop⟩ :=
    hmarked.behind (Nat.zero_le place) (Nest.through_nil _)
  exact hnot ⟨_, back, hback, Nest.isTop_iff.mpr htop⟩

end

/-- The separators of alternatives, of the tests of an alternative, and of
the literals of a list. -/
def separators : List (List Char) := [['|', '|'], ['&', '&'], [',']]

theorem isSeparator_of_mem {sep : List Char} (h : sep ∈ separators) :
    IsSeparator sep := by
  simp only [separators, List.mem_cons, List.not_mem_nil, or_false] at h
  rcases h with rfl | rfl | rfl
  exacts [isSeparator_or, isSeparator_and, isSeparator_comma]

/-- A text has its cuts, and is cut at these: its parts are the pieces
between them, one more than there are cuts, and joined by the separator they
give the text. There is no mark in any part. On the way, the count of
brackets is never greater than the place that is reached: a counter of 32
bits holds it for every text of fewer than `2 ^ 31` characters. -/
theorem splitTop_at_cuts {sep : List Char} (h : sep ∈ separators)
    (cs : List Char) :
    ∃ places, (∀ others, Cuts sep cs 0 others ↔ others = places)
      ∧ splitTop sep {} cs = pieces sep.length cs 0 places
      ∧ (splitTop sep {} cs).length = places.length + 1
      ∧ sep.intercalate (splitTop sep {} cs) = cs
      ∧ (∀ part ∈ splitTop sep {} cs, ∀ place, ¬ Marked sep part place)
      ∧ ∀ place, (({} : Nest).through (cs.take place)).brackets.natAbs
        ≤ place := by
  have hsep := isSeparator_of_mem h
  obtain ⟨places, hcuts, hparts⟩ :=
    exists_cuts hsep cs 0 (Nat.zero_le _) rfl
  rw [List.drop_zero] at hparts
  refine ⟨places, fun others => ⟨fun hothers => ?_, ?_⟩, hparts, ?_, ?_,
    fun part hpart => not_marked_of_mem_splitTop hsep hpart,
    fun place => ?_⟩
  · exact hothers.unique hsep.ne_nil hcuts
  · rintro rfl
    exact hcuts
  · rw [hparts, length_pieces]
  · rw [hparts, hcuts.intercalate_pieces, List.drop_zero]
  · have hcount := Nest.natAbs_brackets_through {} (cs.take place)
    have hlength : (cs.take place).length ≤ place := List.length_take_le ..
    have hzero : ({} : Nest).brackets.natAbs = 0 := rfl
    omega

/-- A quote and a bracket hold separators that are not marked, and of two
marks that overlap the first one is the cut. -/
theorem splitTop_at_cuts_overlapping :
    let cs := "a||'b||c'||[d||e]|||f".toList
    ['|', '|'] ∈ separators ∧ Marked ['|', '|'] cs 17
      ∧ Marked ['|', '|'] cs 18 ∧ Cuts ['|', '|'] cs 0 [1, 9, 17]
      ∧ splitTop ['|', '|'] {} cs
        = ["a".toList, "'b||c'".toList, "[d||e]".toList, "|f".toList] := by
  intro cs
  have hmem : ['|', '|'] ∈ separators := by simp [separators]
  have hcuts : Cuts ['|', '|'] cs 0 [1, 9, 17] := by
    refine ⟨by decide +kernel, by decide, fun i _ hmarked => ?_⟩
    have hlt : i < cs.length := by
      by_contra hle
      have hprefix := hmarked.2
      rw [List.drop_of_length_le (Nat.not_lt.mp hle)] at hprefix
      exact absurd hprefix (by decide)
    have hall : ∀ i < cs.length, Marked ['|', '|'] cs i →
        ∃ j ∈ [1, 9, 17], j ≤ i ∧ i < j + 2 := by decide +kernel
    exact hall i hlt hmarked
  obtain ⟨places, hplaces, hparts, -⟩ := splitTop_at_cuts hmem cs
  obtain rfl := (hplaces _).mp hcuts
  exact ⟨hmem, by decide +kernel, by decide +kernel, hcuts, hparts⟩

end Overlay.Text
