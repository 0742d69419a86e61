/-
What a cache of patterns answers and holds, whatever it was asked before.

Seen from outside, a cache without a limit would hold every pattern with a
star once, the one used last first (`recent`). A cache with a limit holds
the beginning of that list (`Cache.Holds.cachedMatch`): a pattern that was
forgotten comes to the front again as if it had never been in, and of a
list without repeats the pattern that is taken out of the middle makes
room for one at most (`take_filter_take`). So the patterns that are held
can be told from those that were asked, and there are as many as there is
room for (`cachedMatch_run`). The answers do not depend on any of this.
-/
import Overlay.Proofs.Address.Expressing
import Overlay.Proofs.Address.Matching

namespace Overlay.Wildcard

open Text

-- ============================================================== recent

/-- The patterns with a star among some, each once, the one used last
first. -/
def recent (patterns : List String) : List String :=
  patterns.foldl
    (fun seen p => if isWild p then p :: seen.filter (· != p) else seen) []

section

variable {p q : String} {patterns : List String}

theorem recent_concat_of_wild (h : isWild p = true) :
    recent (patterns ++ [p]) = p :: (recent patterns).filter (· != p) := by
  rw [recent, List.foldl_concat, if_pos h]
  rfl

theorem recent_concat_of_plain (h : ¬ isWild p = true) :
    recent (patterns ++ [p]) = recent patterns := by
  rw [recent, List.foldl_concat, if_neg h]
  rfl

/-- The patterns that were used are those with a wildcard; the others are
compared and not kept. -/
theorem mem_recent_iff :
    q ∈ recent patterns ↔ q ∈ patterns ∧ isWild q = true := by
  induction patterns using List.reverseRecOn with
  | nil => simp [recent]
  | append_singleton patterns p ih =>
      by_cases hp : isWild p = true
      · rw [recent_concat_of_wild hp, List.mem_cons, List.mem_filter, ih]
        by_cases hq : q = p <;> simp [hq, hp]
      · rw [recent_concat_of_plain hp, ih, List.mem_append,
          List.mem_singleton]
        constructor
        · exact fun h => ⟨.inl h.1, h.2⟩
        · rintro ⟨h | rfl, hq⟩
          · exact ⟨h, hq⟩
          · exact absurd hq hp

theorem nodup_recent (patterns : List String) : (recent patterns).Nodup := by
  induction patterns using List.reverseRecOn with
  | nil => exact List.nodup_nil
  | append_singleton patterns p ih =>
      by_cases hp : isWild p = true
      · rw [recent_concat_of_wild hp]
        exact List.nodup_cons.mpr ⟨by simp, ih.filter _⟩
      · rwa [recent_concat_of_plain hp]

/-- There are as many of them as there are different patterns. -/
theorem length_recent (patterns : List String) :
    (recent patterns).length = (patterns.filter isWild).toFinset.card := by
  rw [← List.toFinset_card_of_nodup (nodup_recent patterns)]
  congr 1
  ext q
  simp [mem_recent_iff]

/-- Of the beginning of a list without repeats, one can be taken out and
put in front, and what there is room for is the same as for the list. -/
theorem take_filter_take {xs : List String} (h : xs.Nodup) (n : Nat) :
    (p :: (xs.take n).filter (· != p)).take n
      = (p :: xs.filter (· != p)).take n := by
  have hrest : ∀ m, ((xs.take (m + 1)).filter (· != p)).take m
      = (xs.filter (· != p)).take m := by
    induction xs with
    | nil => simp
    | cons x xs ih =>
        obtain ⟨hx, hxs⟩ := List.nodup_cons.mp h
        intro m
        rw [List.take_succ_cons]
        by_cases hxp : x = p
        · -- nothing else is taken out
          subst hxp
          have hall : xs.filter (· != x) = xs :=
            List.filter_eq_self.mpr fun y hy => by
              simpa using fun heq : y = x => hx (heq ▸ hy)
          have hfront : (xs.take m).filter (· != x) = xs.take m :=
            List.filter_eq_self.mpr fun y hy => by
              simpa using fun heq : y = x => hx (heq ▸ List.mem_of_mem_take hy)
          rw [List.filter_cons_of_neg (by simp),
            List.filter_cons_of_neg (by simp), hall, hfront, List.take_take,
            Nat.min_self]
        · rw [List.filter_cons_of_pos (by simpa using hxp),
            List.filter_cons_of_pos (by simpa using hxp)]
          cases m with
          | zero => rfl
          | succ m => rw [List.take_succ_cons, List.take_succ_cons, ih hxs]
  cases n with
  | zero => rfl
  | succ m => rw [List.take_succ_cons, List.take_succ_cons, hrest]

end

-- =============================================================== cache

theorem pattern_entry (c : Cache) (pattern : String) :
    (c.entry pattern).pattern = pattern := by
  rw [Cache.entry]
  split
  case h_1 e he => simpa using List.find?_some he
  case h_2 => rfl

/-- Whether a cache with room for some patterns holds what it can of those
that were used. -/
structure Cache.Holds (c : Cache) (room : Nat) (used : List String) :
    Prop where
  capacity : c.capacity = room
  entries : c.entries.map (·.pattern) = (recent used).take room

/-- One more question. -/
theorem Cache.Holds.cachedMatch {c : Cache} {room : Nat}
    {used : List String} (h : c.Holds room used) (pattern text : String) :
    ((cachedMatch pattern text).run c).2.Holds room (used ++ [pattern]) := by
  have hrun : ((Wildcard.cachedMatch pattern text).run c).2
      = if isWild pattern then c.use (c.entry pattern) else c := by
    unfold Wildcard.cachedMatch
    split <;> simp_all [StateT.run]
  rw [hrun]
  split
  case isTrue hp =>
      refine ⟨h.capacity, ?_⟩
      have huse : (c.use (c.entry pattern)).entries.map (·.pattern)
          = (pattern :: (c.entries.map (·.pattern)).filter
            (· != pattern)).take c.capacity := by
        rw [Cache.use, List.map_take, List.map_cons, pattern_entry,
          List.filter_map]
        rfl
      rw [huse, h.capacity, h.entries, take_filter_take (nodup_recent used),
        recent_concat_of_wild hp]
  case isFalse hp =>
      exact ⟨h.capacity, by rw [recent_concat_of_plain hp, h.entries]⟩

/-- Questions one after the other. -/
def askAll (calls : List (String × String)) : StateM Cache (List Bool) :=
  calls.mapM fun c => cachedMatch c.1 c.2

/-- What some questions leave, and what they are answered. -/
theorem Cache.Holds.askAll {c : Cache} {room : Nat} {used : List String}
    (h : c.Holds room used) (calls : List (String × String)) :
    ((Wildcard.askAll calls).run c).2.Holds room (used ++ calls.map (·.1))
      ∧ ((Wildcard.askAll calls).run c).1
        = calls.map fun call => isMatch call.1 call.2 := by
  induction calls generalizing c used with
  | nil =>
      rw [List.map_nil, List.append_nil]
      exact ⟨h, rfl⟩
  | cons call calls ih =>
      obtain ⟨hcache, hanswers⟩ := ih (h.cachedMatch call.1 call.2)
      have hrun : (Wildcard.askAll (call :: calls)).run c
          = (((Wildcard.cachedMatch call.1 call.2).run c).1
              :: ((Wildcard.askAll calls).run
                ((Wildcard.cachedMatch call.1 call.2).run c).2).1,
            ((Wildcard.askAll calls).run
              ((Wildcard.cachedMatch call.1 call.2).run c).2).2) := by
        rw [Wildcard.askAll, List.mapM_cons]
        rfl
      rw [hrun, List.map_cons, List.map_cons, hanswers,
        cachedMatch_answers call.1 call.2 c]
      rw [List.append_assoc, List.singleton_append] at hcache
      exact ⟨hcache, rfl⟩

theorem holds_ofCapacity {room : Nat} (h : 1 ≤ room) :
    (Cache.ofCapacity room).Holds room [] :=
  ⟨Nat.max_eq_left h, by simp [Cache.ofCapacity, recent]⟩

/-- Questions that are put to one cache are answered as if there were none:
for a pattern with a star by whether the text fits it, and for any other
one by whether it is the text. The expression of the pattern, which can
always be read, gives the same answer. After them, the cache holds the
patterns with a star that were used last, as many as there were or as
there is room for. -/
theorem cachedMatch_run {room : Nat} (hroom : 1 ≤ room)
    (calls : List (String × String)) :
    let run := (askAll calls).run (Cache.ofCapacity room)
    let patterns := calls.map (·.1)
    List.Forall₂
        (fun call answer =>
          (answer = true ↔ if isWild call.1 = true
            then Fits call.1.toList call.2.toList else call.1 = call.2)
          ∧ ∃ re, Regex.read? (regexText call.1) = some re
            ∧ re.isMatch call.2 = answer)
        calls run.1
      ∧ run.2.entries.map (·.pattern) = (recent patterns).take room
      ∧ run.2.size = min room (patterns.filter isWild).toFinset.card := by
  intro run patterns
  obtain ⟨hcache, hanswers⟩ := (holds_ofCapacity hroom).askAll calls
  refine ⟨?_, hcache.entries, ?_⟩
  · rw [show run.1 = _ from hanswers, List.forall₂_map_right_iff,
      List.forall₂_same]
    intro call _
    have hexpression := isMatch_expression_iff call.1 call.2
    rw [← isMatch_iff, ← Bool.eq_iff_iff] at hexpression
    refine ⟨?_, expression call.1, read?_regexText call.1, hexpression⟩
    rw [isMatch_iff]
    split
    case isTrue => rfl
    case isFalse h =>
        rw [isWild, List.contains_iff_mem] at h
        rw [fits_iff_eq h, String.toList_inj]
  · have hsize := congrArg List.length hcache.entries
    rwa [List.length_map, List.length_take, List.nil_append,
      length_recent] at hsize

/-- A cache for two patterns is asked for three: what it forgets it cuts
anew, and a text with a line feed in it is no stretch. -/
theorem cachedMatch_run_forgetful :
    let calls := [("*A", "xA"), ("B.*", "B.x"), ("*A", "x\nA"), ("C*", "C"),
      ("B.*", "Bxx"), ("C*", "c"), ("plain", "plain")]
    let run := (askAll calls).run (Cache.ofCapacity 2)
    run.1 = [true, true, false, true, false, false, true]
      ∧ ¬ Fits "*A".toList "x\nA".toList
      ∧ run.2.entries.map (·.pattern) = ["C*", "B.*"] ∧ run.2.size = 2 := by
  intro calls run
  obtain ⟨hanswers, hentries, hsize⟩ := cachedMatch_run
    (show 1 ≤ 2 by decide) calls
  have hrun : run.1 = [true, true, false, true, false, false, true] := by
    decide +kernel
  refine ⟨hrun, ?_, hentries, hsize.trans (by decide +kernel)⟩
  rw [show ((askAll calls).run (Cache.ofCapacity 2)).1 = _ from hrun]
    at hanswers
  simp only [calls, List.forall₂_cons] at hanswers
  obtain ⟨-, -, ⟨hthird, -⟩, -⟩ := hanswers
  rw [if_pos (by decide)] at hthird
  exact fun h => absurd (hthird.mpr h) (by decide)

end Overlay.Wildcard
