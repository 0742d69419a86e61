/-
What a supply of rows has handed out, call after call.

# Histories

The history of a template is the list of the indices that were handed out
since it was last rewound, the oldest one first (`history`). Calls extend
it or clear it (`Call.record`); most of them leave it alone.

# What a template knows of its history

A template does not keep its history. It keeps a cursor, a set and a
count, and they agree with it: `Tracks`. One call preserves that
(`Tracks.run`), and so do all of them (`tracks_after`). Where the order of
the rows is fixed the history is even determined by its length, so that
the next row, the number of different rows and the limit of a template
that hands out every row once can be read off the number of draws.

# What does not matter

Calls on other templates, rows that are looked up by their number and
summaries have no part in the above, but for the stream, which only
templates in random order read. So they can be left out of a sequence of
calls (`after_filter`). A reset leaves nothing of a sequence behind
(`reset_after`).
-/
import Overlay.Proofs.Outcome
import Overlay.Proofs.Template.Drawing
import Overlay.Template.Review

namespace Overlay

open RowSupply

-- =============================================================== calls

/-- A call to a supply of rows. -/
inductive Call
  | next (name : String)
  | field (name fieldName : String)
  | rowAt (name : String) (number : Nat)
  | rewind (name : String)
  | reset
  /-- The reset of a supply without a seed, whose stream starts elsewhere. -/
  | reseed (stream : Random.Stream)
  | takeIssues
  | summary
  | review

/-- What a call answers. -/
inductive Reply
  | row (row : Option Row)
  | text (text : Option String)
  | issues (issues : List Issue)
  | summaries (summaries : List TemplateSummary)
  | remarks (remarks : List TemplateRemark)
  | done

namespace Call

/-- Makes a call. -/
def run : Call → StateM RowSupply Reply
  | next name => do return .row (← RowSupply.next name)
  | field name fieldName => do return .text (← RowSupply.field name fieldName)
  | rowAt name number => do return .row (← RowSupply.rowAt name number)
  | rewind name => fun s => (.done, s.rewind name)
  | reset => fun s => (.done, s.reset)
  | reseed stream => fun s => (.done, { s.reset with stream := stream })
  | takeIssues => do return .issues (← RowSupply.takeIssues)
  | summary => fun s => (.summaries s.summary, s)
  | review => fun s => (.remarks s.review, s)

/-- The supply after some calls. -/
def after (s : RowSupply) : List Call → RowSupply :=
  List.foldl (fun s c => (c.run s).2) s

/-- The answers to some calls, one after the other. -/
def replies : List Call → StateM RowSupply (List Reply)
  | [] => pure []
  | c :: rest => do return (← c.run) :: (← replies rest)

/-- What a call does to the template of a name. -/
def effect (name : String) (stream : Random.Stream) (t : Template) :
    Call → Template
  | next n | field n _ => if n = name then t.drawn stream else t
  | rewind n => if n = name then t.rewind else t
  | reset | reseed _ => t.rewind
  | _ => t

/-- Whether a call may change the template of a name. -/
def concerns (name : String) : Call → Bool
  | next n | field n _ | rewind n => n == name
  | reset | reseed _ => true
  | _ => false

end Call

-- =========================================================== histories

/-- The index of the row that the next draw hands out. -/
def RowSupply.nextIndex? (name : String) (s : RowSupply) : Option Nat :=
  (Table.find? name s.templates).bind fun t =>
    (t.advance s.stream).1.map Prod.fst

/-- The history of a template after a call. -/
def Call.record (name : String) (s : RowSupply) (past : List Nat) :
    Call → List Nat
  | next n | field n _ =>
    if n = name then past ++ (nextIndex? name s).toList else past
  | rewind n => if n = name then [] else past
  | reset | reseed _ => []
  | _ => past

/-- The history of a template after some calls, if `past` is the one
before them. -/
def historyFrom (name : String) (s : RowSupply) (past : List Nat) :
    List Call → List Nat
  | [] => past
  | c :: rest => historyFrom name (c.run s).2 (c.record name s past) rest

/-- The indices of the rows that calls have handed out from a template
since it was last rewound, the oldest one first. -/
def history (name : String) (s : RowSupply) (calls : List Call) :
    List Nat := historyFrom name s [] calls

-- ============================================================ one call

variable {s : RowSupply} {name : String} {t t₀ : Template}
  {past : List Nat}

/-- To reset a template rewinds this one and no other. -/
theorem find?_rewind (name other : String) (s : RowSupply) :
    Table.find? other (s.rewind name).templates
      = (Table.find? other s.templates).map fun t =>
          if name = other then t.rewind else t := by
  unfold RowSupply.rewind
  by_cases ho : name = other
  · subst ho
    cases hf : Table.find? name s.templates with
    | none => exact hf
    | some t => simp
  · cases hf : Table.find? name s.templates with
    | none => simp [ho]
    | some t => simp [ho, Table.find?_insertOrdered_of_ne ho]

/-- A call does to the template of a name what `effect` says. -/
theorem find?_run (c : Call) (name : String) (s : RowSupply) :
    Table.find? name (c.run s).2.templates
      = (Table.find? name s.templates).map (c.effect name s.stream) := by
  have hsame : ∀ o : Option Template, o = o.map fun t => t := by simp
  cases c with
  | next n => exact find?_next n name s
  | field n f => exact find?_next n name s
  | rowAt n number =>
      show Table.find? name (rowAt n number s).2.templates = _
      rw [(rowAt_templates n number s).1]
      exact hsame _
  | rewind n => exact find?_rewind n name s
  | reset => exact Table.find?_map Template.rewind name s.templates
  | reseed stream => exact Table.find?_map Template.rewind name s.templates
  | takeIssues => exact hsame _
  | summary => exact hsame _
  | review => exact hsame _

/-- Whether a template agrees with its history; `t₀` is the template as it
was built. -/
structure Tracks (t₀ : Template) (past : List Nat) (t : Template) :
    Prop where
  rewind : t.rewind = t₀
  served : t.served = past.length
  nodup : t.used.Nodup
  mem_used : ∀ i, i ∈ t.used ↔ i ∈ past
  cursor : t₀.cycle ≠ .random → t.cursor = past.length
  order : t₀.cycle ≠ .random →
    past = (List.range past.length).map (· % t₀.rows.length)
  bound : t₀.cycle = .once → past.length ≤ t₀.rows.length

theorem tracks_nil (h : t.rewind = t₀) : Tracks t₀ [] t.rewind where
  rewind := h
  served := rfl
  nodup := List.nodup_nil
  mem_used _ := Iff.rfl
  cursor _ := rfl
  order _ := rfl
  bound _ := Nat.zero_le _

namespace Tracks

theorem rows (h : Tracks t₀ past t) : t.rows = t₀.rows := by
  rw [← h.rewind]
  rfl

theorem cycle (h : Tracks t₀ past t) : t.cycle = t₀.cycle := by
  rw [← h.rewind]
  rfl

theorem completed (h : Tracks t₀ past t) (name : String) (row : Row) :
    t.completed name row = t₀.completed name row := by
  rw [← h.rewind]
  rfl

theorem summary (h : Tracks t₀ past t) (name : String) :
    t.summary name = { t₀.summary name with
      served := past.length, distinctRowsUsed := t.used.length } := by
  rw [← h.rewind, ← h.served]
  rfl

/-- What comes next is what the number of draws so far says. -/
theorem due (h : Tracks t₀ past t) (hc : t₀.cycle ≠ .random) :
    t.due 0 = if t₀.cycle = .once ∧ t₀.rows.length ≤ past.length then none
      else some (past.length % t₀.rows.length) := by
  unfold Template.due
  rw [h.cycle, h.rows, h.cursor hc, Nat.add_zero]
  cases hcycle : t₀.cycle with
  | random => exact absurd hcycle hc
  | sequential => simp
  | infinite => simp
  | once =>
      by_cases hlt : past.length < t₀.rows.length
      · simp [hlt, Nat.mod_eq_of_lt hlt]
      · simp [hlt, Nat.not_lt.mp hlt]

/-- Counting a row keeps a template in step with its history, if the row
is the one that is due. -/
theorem serve (h : Tracks t₀ past t) {i : Nat} {moved : Template}
    {stream : Random.Stream}
    (hd : (t.advance stream).1 = some (i, moved))
    (hrows : t₀.rows ≠ []) : Tracks t₀ (past ++ [i]) (moved.serve i) := by
  have hlen : (past ++ [i]).length = past.length + 1 := by simp
  have hfixed : t₀.cycle ≠ .random →
      t.due 0 = some i ∧ moved = { t with cursor := t.cursor + 1 } := by
    intro hc
    rw [Template.advance_of_fixed (h.rows ▸ hrows) (h.cycle ▸ hc),
      Option.map_eq_some_iff] at hd
    obtain ⟨j, hj, hd⟩ := hd
    cases hd
    exact ⟨hj, rfl⟩
  have hkept : moved.used = t.used ∧ moved.served = t.served := by
    obtain ⟨cursor, rfl⟩ := Template.exists_cursor_of_advance hd
    exact ⟨rfl, rfl⟩
  constructor
  case rewind => exact (Template.rewind_serve hd).trans h.rewind
  case served =>
      show moved.served + 1 = _
      rw [hkept.2, h.served, hlen]
  case nodup =>
      exact Template.nodup_used_serve (hkept.1 ▸ h.nodup) i
  case mem_used =>
      intro j
      rw [Template.mem_used_serve, hkept.1, h.mem_used, List.mem_append,
        List.mem_singleton]
  case cursor =>
      intro hc
      show moved.cursor = _
      rw [(hfixed hc).2, hlen, ← h.cursor hc]
  case order =>
      intro hc
      have hdue := (hfixed hc).1
      rw [h.due hc] at hdue
      split at hdue
      · cases hdue
      · rw [hlen, List.range_succ, List.map_append, ← h.order hc]
        cases hdue
        rfl
  case bound =>
      intro hc
      have hdue := (hfixed (by simp [hc])).1
      rw [h.due (by simp [hc])] at hdue
      by_cases hlt : past.length < t₀.rows.length
      · rw [hlen]
        exact hlt
      · rw [if_pos ⟨hc, Nat.not_lt.mp hlt⟩] at hdue
        cases hdue

/-- A draw is added to what was drawn since the last reset. -/
theorem drawn (h : Tracks t₀ past t) (hrows : t₀.rows ≠ [])
    (stream : Random.Stream) :
    Tracks t₀ (past ++ ((t.advance stream).1.map Prod.fst).toList)
      (t.drawn stream) := by
  unfold Template.drawn
  split
  case h_1 hd =>
      rw [hd]
      simpa using h
  case h_2 i moved hd =>
      rw [hd]
      exact h.serve hd hrows

/-- A call keeps a template in step with its history. -/
theorem run (h : Tracks t₀ past t) (hrows : t₀.rows ≠ [])
    (hf : Table.find? name s.templates = some t) (c : Call) :
    Tracks t₀ (c.record name s past) (c.effect name s.stream t) := by
  have hdraw : ∀ n, Tracks t₀
      (if n = name then past ++ (nextIndex? name s).toList else past)
      (if n = name then t.drawn s.stream else t) := by
    intro n
    split
    · rw [nextIndex?, hf]
      exact h.drawn hrows s.stream
    · exact h
  cases c with
  | next n => exact hdraw n
  | field n f => exact hdraw n
  | rewind n =>
      show Tracks t₀ (if n = name then [] else past)
        (if n = name then t.rewind else t)
      split
      · exact tracks_nil h.rewind
      · exact h
  | reset => exact tracks_nil h.rewind
  | reseed stream => exact tracks_nil h.rewind
  | rowAt n number => exact h
  | takeIssues => exact h
  | summary => exact h
  | review => exact h

/-- The set of a template counts the different rows of its history. -/
theorem length_used (h : Tracks t₀ past t) :
    t.used.length = past.dedup.length := by
  refine ((List.perm_ext_iff_of_nodup h.nodup past.nodup_dedup).mpr
    fun i => ?_).length_eq
  rw [h.mem_used, List.mem_dedup]

/-- Rows in turn are different ones until the first comes again. -/
theorem length_dedup (h : Tracks t₀ past t) (hrows : t₀.rows ≠ [])
    (hc : t₀.cycle ≠ .random) :
    past.dedup.length = min past.length t₀.rows.length := by
  have hpos := List.length_pos_of_ne_nil hrows
  have hset : past.toFinset
      = Finset.range (min past.length t₀.rows.length) := by
    ext i
    rw [h.order hc]
    simp only [List.mem_toFinset, List.mem_map, List.mem_range,
      Finset.mem_range, List.length_map, List.length_range]
    constructor
    · rintro ⟨k, hk, rfl⟩
      have hle := Nat.mod_le k t₀.rows.length
      have hlt := Nat.mod_lt k hpos
      omega
    · intro hi
      exact ⟨i, by omega, Nat.mod_eq_of_lt (by omega)⟩
  rw [← List.card_toFinset, hset, Finset.card_range]

end Tracks

-- =========================================================== all calls

/-- All calls keep a template in step with its history. -/
theorem tracks_after (hrows : t₀.rows ≠ []) (calls : List Call)
    (hf : Table.find? name s.templates = some t) (h : Tracks t₀ past t) :
    ∃ t', Table.find? name (Call.after s calls).templates = some t'
      ∧ Tracks t₀ (historyFrom name s past calls) t' := by
  induction calls generalizing s t past with
  | nil => exact ⟨t, hf, h⟩
  | cons c rest ih =>
      refine ih ?_ (h.run hrows hf c)
      rw [find?_run, hf]
      rfl

/-- The history goes on from the supply that calls have left. -/
theorem historyFrom_append (name : String) (s : RowSupply)
    (past : List Nat) (calls : List Call) (c : Call) :
    historyFrom name s past (calls ++ [c])
      = c.record name (Call.after s calls)
          (historyFrom name s past calls) := by
  induction calls generalizing s past with
  | nil => rfl
  | cons b rest ih => exact ih _ _

namespace Call

/-- No call changes what a template is at its beginning. -/
theorem rewind_effect (c : Call) (name : String) (stream : Random.Stream)
    (t : Template) : (c.effect name stream t).rewind = t.rewind := by
  have hdraw : ∀ n, (if n = name then t.drawn stream else t).rewind
      = t.rewind := by
    intro n
    split
    · exact t.rewind_drawn stream
    · rfl
  cases c with
  | next n => exact hdraw n
  | field n f => exact hdraw n
  | rewind n =>
      show (if n = name then t.rewind else t).rewind = t.rewind
      split <;> rfl
  | _ => rfl

/-- What does not concern a template leaves it and its history alone. -/
theorem of_not_concerns {c : Call} (h : c.concerns name = false)
    (s : RowSupply) (past : List Nat) (t : Template) :
    c.effect name s.stream t = t ∧ c.record name s past = past := by
  cases c with
  | next n =>
      have hn : n ≠ name := by simpa [concerns] using h
      exact ⟨if_neg hn, if_neg hn⟩
  | field n f =>
      have hn : n ≠ name := by simpa [concerns] using h
      exact ⟨if_neg hn, if_neg hn⟩
  | rewind n =>
      have hn : n ≠ name := by simpa [concerns] using h
      exact ⟨if_neg hn, if_neg hn⟩
  | reset => cases h
  | reseed stream => cases h
  | _ => exact ⟨rfl, rfl⟩

/-- Where the order of the rows is fixed, a call does not depend on
anything but the template. -/
theorem of_fixed (hrows : t.rows ≠ []) (hc : t.cycle ≠ .random)
    (c : Call) {s s' : RowSupply} (past : List Nat)
    (hf : Table.find? name s.templates = some t)
    (hf' : Table.find? name s'.templates = some t) :
    c.effect name s.stream t = c.effect name s'.stream t
      ∧ c.record name s past = c.record name s' past := by
  have hadvance : (t.advance s.stream).1 = (t.advance s'.stream).1 := by
    rw [Template.advance_of_fixed hrows hc,
      Template.advance_of_fixed hrows hc]
  have hdrawn : t.drawn s.stream = t.drawn s'.stream := by
    rw [Template.drawn, Template.drawn, hadvance]
  have hnext : nextIndex? name s = nextIndex? name s' := by
    rw [nextIndex?, nextIndex?, hf, hf', Option.bind_some,
      Option.bind_some, hadvance]
  unfold effect record
  rw [hdrawn, hnext]
  exact ⟨rfl, rfl⟩

end Call

/-- Only calls that concern a template in fixed order have a part in what
it is after them, and in its history. -/
theorem after_filter (hrows : t₀.rows ≠ []) (hc : t₀.cycle ≠ .random)
    (calls : List Call) {s' : RowSupply} (hrewind : t.rewind = t₀)
    (hf : Table.find? name s.templates = some t)
    (hf' : Table.find? name s'.templates = some t) :
    Table.find? name (Call.after s calls).templates
        = Table.find? name
            (Call.after s' (calls.filter (·.concerns name))).templates
      ∧ historyFrom name s past calls
        = historyFrom name s' past (calls.filter (·.concerns name)) := by
  induction calls generalizing s s' t past with
  | nil => exact ⟨hf.trans hf'.symm, rfl⟩
  | cons c rest ih =>
      have hrows' : t.rows ≠ [] := by
        rw [← hrewind] at hrows
        exact hrows
      have hc' : t.cycle ≠ .random := by
        rw [← hrewind] at hc
        exact hc
      have hrun : Table.find? name (c.run s).2.templates
          = some (c.effect name s.stream t) := by
        rw [find?_run, hf]
        rfl
      by_cases hcon : c.concerns name = true
      · obtain ⟨heffect, hrecord⟩ := c.of_fixed hrows' hc' past hf hf'
        have hrun' : Table.find? name (c.run s').2.templates
            = some (c.effect name s.stream t) := by
          rw [find?_run, hf', heffect]
          rfl
        rw [List.filter_cons_of_pos hcon, historyFrom, historyFrom,
          hrecord]
        exact ih ((c.rewind_effect ..).trans hrewind) hrun hrun'
      · obtain ⟨heffect, hrecord⟩ :=
          Call.of_not_concerns (Bool.eq_false_iff.mpr hcon) s past t
        rw [heffect] at hrun
        rw [List.filter_cons_of_neg hcon, historyFrom, hrecord]
        exact ih hrewind hrun hf'

-- ============================================================== resets

/-- Whether a table is in order and every template in it is as if nothing
had been drawn. -/
def Fresh (table : Table Template) : Prop :=
  Table.Ordered table ∧ ∀ e ∈ table, e.2.rewind = e.2

/-- A template is taken over as it is at its beginning, with all that were
taken before. -/
theorem Fresh.take {taken : Table Template × Table TemplateSpec}
    (h : Fresh taken.1) (spec : TemplateSpec) :
    Fresh (RowSupply.take taken spec).1 := by
  unfold RowSupply.take
  split
  case h_1 => exact h
  case h_2 =>
      refine ⟨h.1.insertOrdered _ _, fun e he => ?_⟩
      rcases Table.mem_insertOrdered he with rfl | he
      · rfl
      · exact h.2 e he

/-- A supply is built with templates in order, and none is drawn from. -/
theorem fresh_of_ofSpecs {specs : List TemplateSpec} {seed : Nat}
    {built : RowSupply} (h : ofSpecs specs seed = .ok built) :
    Fresh built.templates ∧ built.stream = built.origin
      ∧ built.issues = [] := by
  obtain ⟨templates, htemplates, hbuilt⟩ := ok_of_bind h
  obtain ⟨resolved, -, htaken⟩ := ok_of_bind htemplates
  cases hbuilt
  cases htaken
  have hempty : Fresh [] := ⟨List.Pairwise.nil, by simp⟩
  exact ⟨List.foldlRecOn specs RowSupply.take
    (motive := fun taken => Fresh taken.1) hempty
    fun _ hfresh spec _ => hfresh.take spec, rfl, rfl⟩

/-- A call changes nothing of a supply in order that a reset would not
undo. -/
theorem rewind_run (h : Table.Ordered s.templates) (c : Call) :
    (c.run s).2.templates.map (fun e => (e.1, e.2.rewind))
        = s.templates.map (fun e => (e.1, e.2.rewind))
      ∧ (c.run s).2.origin = s.origin := by
  cases c with
  | next n => exact ⟨rewind_next n h, next_origin n s⟩
  | field n f => exact ⟨rewind_next n h, next_origin n s⟩
  | rowAt n number =>
      obtain ⟨htemplates, horigin⟩ := rowAt_templates n number s
      exact ⟨congrArg _ htemplates, horigin⟩
  | rewind n =>
      show (s.rewind n).templates.map _ = _ ∧ (s.rewind n).origin = _
      unfold RowSupply.rewind
      split
      case h_1 t ht => exact ⟨h.map_insertOrdered Template.rewind ht rfl, rfl⟩
      case h_2 => exact ⟨rfl, rfl⟩
  | reset => exact ⟨List.map_map .., rfl⟩
  | reseed stream => exact ⟨List.map_map .., rfl⟩
  | _ => exact ⟨rfl, rfl⟩

/-- A reset leaves nothing of any calls behind. -/
theorem reset_after (h : Table.Ordered s.templates) (calls : List Call) :
    (Call.after s calls).reset = s.reset
      ∧ Table.Ordered (Call.after s calls).templates := by
  induction calls generalizing s with
  | nil => exact ⟨rfl, h⟩
  | cons c rest ih =>
      obtain ⟨htemplates, horigin⟩ := rewind_run h c
      have hordered : Table.Ordered (c.run s).2.templates := by
        rw [← Table.ordered_map Template.rewind, htemplates,
          Table.ordered_map]
        exact h
      obtain ⟨hreset, hafter⟩ := ih hordered
      refine ⟨hreset.trans ?_, hafter⟩
      unfold reset
      rw [htemplates, horigin]

theorem reset_of_fresh (h : Fresh s.templates)
    (hstream : s.stream = s.origin) (hissues : s.issues = []) :
    s.reset = s := by
  have htemplates :
      s.templates.map (fun e => (e.1, e.2.rewind)) = s.templates := by
    conv_rhs => rw [← List.map_id s.templates]
    exact List.map_congr_left fun e he => by rw [h.2 e he]; rfl
  cases s
  simp_all [reset]

-- ======================================= what follows from the history

namespace Tracks

/-- The next draw answers the row of the next index, completed. -/
theorem next_fst (h : Tracks t₀ past t)
    (hf : Table.find? name s.templates = some t) :
    (next name s).1 = (nextIndex? name s).bind fun i =>
      t₀.rows[i]?.map fun row => (t₀.completed name row).1 := by
  have hnext : nextIndex? name s
      = (t.advance s.stream).1.map Prod.fst := by
    rw [nextIndex?, hf]
    rfl
  rw [RowSupply.next_fst hf, hnext, Option.bind_map, h.rows]
  simp only [h.completed]
  rfl

/-- The next index is what the number of draws so far says, or for random
rows that of one of them. -/
theorem nextIndex (h : Tracks t₀ past t) (hrows : t₀.rows ≠ [])
    (hf : Table.find? name s.templates = some t) :
    match t₀.cycle with
    | .sequential | .infinite =>
      nextIndex? name s = some (past.length % t₀.rows.length)
    | .once =>
      nextIndex? name s
        = if past.length < t₀.rows.length then some past.length else none
    | .random => ∃ i < t₀.rows.length, nextIndex? name s = some i := by
  have hrows' : t.rows ≠ [] := h.rows ▸ hrows
  have hnext : nextIndex? name s
      = (t.advance s.stream).1.map Prod.fst := by
    rw [nextIndex?, hf]
    rfl
  have hdue : t₀.cycle ≠ .random → nextIndex? name s
      = if t₀.cycle = .once ∧ t₀.rows.length ≤ past.length then none
        else some (past.length % t₀.rows.length) := by
    intro hc
    rw [hnext, Template.index_of_fixed hrows' (h.cycle ▸ hc)]
    exact h.due hc
  cases hc : t₀.cycle with
  | random =>
      obtain ⟨i, hi, hd⟩ := Template.advance_of_random hrows'
        (h.cycle.trans hc) s.stream
      rw [h.rows] at hi
      exact ⟨i, hi, by rw [hnext, hd]; rfl⟩
  | sequential => simp [hdue, hc]
  | infinite => simp [hdue, hc]
  | once =>
      dsimp only
      rw [hdue (by simp [hc])]
      by_cases hlt : past.length < t₀.rows.length
      · simp [hlt, Nat.mod_eq_of_lt hlt]
      · simp [hlt, hc, Nat.not_lt.mp hlt]

/-- The number of different rows is what the number of draws says. -/
theorem distinct (h : Tracks t₀ past t) (hrows : t₀.rows ≠ []) :
    match t₀.cycle with
    | .sequential | .infinite =>
      past.dedup.length = min past.length t₀.rows.length
    | .once =>
      past.dedup.length = past.length ∧ past.length ≤ t₀.rows.length
    | .random => True := by
  cases hc : t₀.cycle with
  | random => trivial
  | sequential => exact h.length_dedup hrows (by simp [hc])
  | infinite => exact h.length_dedup hrows (by simp [hc])
  | once =>
      have hle := h.bound hc
      have hmin := h.length_dedup hrows (by simp [hc])
      rw [Nat.min_eq_left hle] at hmin
      exact ⟨hmin, hle⟩

/-- There is one summary of the name, and it counts the history. -/
theorem summaries (h : Tracks t₀ past t)
    (hordered : Table.Ordered s.templates)
    (hf : Table.find? name s.templates = some t) :
    s.summary.filter (·.name == name)
      = [{ t₀.summary name with
            served := past.length
            distinctRowsUsed := past.dedup.length }] := by
  have hfilter := hordered.filter_name hf
  show (s.templates.map fun e => e.2.summary e.1).filter
    (·.name == name) = _
  rw [List.filter_map]
  show (s.templates.filter (·.1 == name)).map _ = _
  rw [hfilter, List.map_singleton, h.summary, h.length_used]

end Tracks

/-- What follows from the history of a template in every state that calls
can bring about: which row is handed out next, what the summary counts,
which calls have a part in it, and that a reset starts all over. -/
theorem next_of_history {specs : List TemplateSpec} {seed : Nat}
    {built : RowSupply} (h : ofSpecs specs seed = .ok built)
    (ht : Table.find? name built.templates = some t) (hrows : t.rows ≠ [])
    (calls : List Call) :
    let s := Call.after built calls
    let past := history name built calls
    let distinct := past.dedup.length
    (∃ due : Option Nat,
      (next name s).1 = due.bind (fun i =>
          t.rows[i]?.map fun row => (t.completed name row).1)
        ∧ history name built (calls ++ [.next name]) = past ++ due.toList
        ∧ match t.cycle with
          | .sequential | .infinite =>
            due = some (past.length % t.rows.length)
          | .once =>
            due = if past.length < t.rows.length then some past.length
              else none
          | .random => ∃ i < t.rows.length, due = some i)
    ∧ s.summary.filter (·.name == name)
        = [{ t.summary name with
              served := past.length, distinctRowsUsed := distinct }]
    ∧ (match t.cycle with
        | .sequential | .infinite =>
          distinct = min past.length t.rows.length
        | .once => distinct = past.length ∧ past.length ≤ t.rows.length
        | .random => True)
    ∧ (t.cycle ≠ .random →
        let own := calls.filter (·.concerns name)
        history name built own = past
          ∧ (next name (Call.after built own)).1 = (next name s).1)
    ∧ s.reset = built
    ∧ ∀ later, (Call.replies later (Call.after built (calls ++ [.reset]))).1
        = (Call.replies later built).1 := by
  obtain ⟨hfresh, hstream, hissues⟩ := fresh_of_ofSpecs h
  have hrewind : t.rewind = t := hfresh.2 _ (Table.mem_of_find? ht)
  have hbegin : Tracks t [] t := by
    have := tracks_nil hrewind
    rwa [hrewind] at this
  obtain ⟨t', ht', htracks⟩ := tracks_after hrows calls ht hbegin
  obtain ⟨hafter, hordered⟩ := reset_after hfresh.1 calls
  have hreset : (Call.after built calls).reset = built :=
    hafter.trans (reset_of_fresh hfresh hstream hissues)
  intro s past distinct
  refine ⟨⟨nextIndex? name s, htracks.next_fst ht', ?_,
    htracks.nextIndex hrows ht'⟩, htracks.summaries hordered ht',
    htracks.distinct hrows, ?_, hreset, ?_⟩
  · -- the history goes on with the next index
    show historyFrom name built [] (calls ++ [.next name]) = _
    rw [historyFrom_append]
    exact if_pos rfl
  · -- calls that do not concern the template have no part in it
    intro hc own
    obtain ⟨hfind, hpast⟩ := after_filter hrows hc calls hrewind ht ht
    rw [ht'] at hfind
    have hrows' : t'.rows ≠ [] := htracks.rows ▸ hrows
    refine ⟨hpast.symm, ?_⟩
    rw [next_fst hfind.symm, next_fst ht',
      Template.advance_of_fixed hrows' (htracks.cycle ▸ hc),
      Template.advance_of_fixed hrows' (htracks.cycle ▸ hc)]
  · -- after a reset all is as it was built
    intro later
    have hrun : Call.after built (calls ++ [.reset]) = s.reset := by
      rw [Call.after, List.foldl_append]
      rfl
    rw [hrun, hreset]

/-- A template of two rows, each of which is handed out once. -/
def pairOnce : TemplateSpec :=
  { name := "P", rows := [[("n", "1")], [("n", "2")]], cycle := .once }

/-- The supply of that template. -/
def pairSupply : RowSupply :=
  ⟨[("P", .ofSpec pairOnce)], .ofSeed 7, .ofSeed 7, []⟩

/-- After a draw and a lookup the second row is next. -/
theorem next_of_history_pair :
    ofSpecs [pairOnce] 7 = .ok pairSupply
      ∧ Table.find? "P" pairSupply.templates = some (.ofSpec pairOnce)
      ∧ (Template.ofSpec pairOnce).rows ≠ []
      ∧ history "P" pairSupply [.next "P", .rowAt "P" 1] = [0]
      ∧ (next "P" (Call.after pairSupply [.next "P", .rowAt "P" 1])).1
        = some [("n", "2")] := by
  have h : ofSpecs [pairOnce] 7 = .ok pairSupply := rfl
  have ht : Table.find? "P" pairSupply.templates
      = some (.ofSpec pairOnce) := rfl
  have hrows : (Template.ofSpec pairOnce).rows ≠ [] := by decide
  have hpast : history "P" pairSupply [.next "P", .rowAt "P" 1] = [0] := rfl
  obtain ⟨⟨due, hnext, -, hdue⟩, -⟩ :=
    next_of_history h ht hrows [.next "P", .rowAt "P" 1]
  refine ⟨h, ht, hrows, hpast, ?_⟩
  rw [hpast] at hdue
  have hdue : due = some 1 := hdue
  rw [hnext, hdue]
  rfl

end Overlay
