/-
Rows with their computed fields.

# Turns

Computed fields have their turns one after the other. `Turn` says what
one of them makes of a row: a field with all its inputs and a value for
its formula is set to that value, and every other one is left as it is;
one that lacks an input, or whose formula fails, is noted, once. `InTurn`
is the list of all turns, each from the row that the one before has left.

# What is left in the end

What is found under a name is what the last turn that yields a value for
that name has put there (`InTurn.find?_of_yields`); if there was none, it
is what was found there to begin with (`InTurn.find?_of_none`). So a field
that cannot be computed is missing from the row exactly if it was missing
before: failing takes no stored value away.
-/
import Overlay.Proofs.Template.History

namespace Overlay

open RowSupply

namespace Computed

variable {template name : String} {c : Computed} {row : Row}

-- =============================================================== turns

/-- Whether a row has all that a computed field asks for. -/
def Ready (c : Computed) (row : Row) : Prop :=
  ∀ i ∈ c.inputs, Table.has i row = true

instance : Decidable (c.Ready row) :=
  inferInstanceAs (Decidable (∀ i ∈ c.inputs, Table.has i row = true))

/-- Whether a computed field has all its inputs in a row, and its formula
this value. -/
def Yields (c : Computed) (row : Row) (value : String) : Prop :=
  c.Ready row ∧ c.formula.eval row = .ok (some value)

/-- Whether a computed field lacks an input in a row, or its formula fails
there. -/
def Fails (c : Computed) (row : Row) : Prop :=
  ¬ c.Ready row ∨ ∃ fault, c.formula.eval row = .error fault

/-- What the turn of a computed field makes of a row, and what it notes. -/
structure Turn (template : String) (c : Computed) (row row' : Row)
    (noted : List Issue) : Prop where
  set : ∀ value, c.Yields row value →
    row' = Table.insertOrdered c.name value row
  unset : (∀ value, ¬ c.Yields row value) → row' = row
  failure : c.Fails row → ∃ message,
    noted = [⟨.computationFailure, template ++ "." ++ c.name, message⟩]
  silent : ¬ c.Fails row → noted = []

/-- A field that fails yields nothing. -/
theorem Fails.not_yields (h : c.Fails row) (value : String) :
    ¬ c.Yields row value := by
  rintro ⟨hready, heval⟩
  rcases h with hno | ⟨fault, hfault⟩
  · exact hno hready
  · rw [heval] at hfault
    cases hfault

/-- A field that fails leaves the row as it is. -/
theorem Fails.turn (h : c.Fails row) (template message : String) :
    c.Turn template row row [c.failure template message] where
  set value hv := absurd hv (h.not_yields value)
  unset _ := rfl
  failure _ := ⟨message, rfl⟩
  silent hno := absurd h hno

/-- What a computed field does in its turn. The cases are those of its
evaluation: an input is missing, the formula fails or does not apply, or a text
comes out and is put into the row. -/
theorem turn_apply (template : String) (c : Computed) (row : Row) :
    c.Turn template row (c.apply template row).1
      (c.apply template row).2 := by
  unfold apply
  split
  case h_1 missing hfind =>
      have hmem := List.mem_of_find?_eq_some hfind
      have hmissing : Table.has missing row = false := by
        simpa using List.find?_some hfind
      have hno : ¬ c.Ready row := fun hready => by
        rw [hready missing hmem] at hmissing
        cases hmissing
      exact Fails.turn (.inl hno) template _
  case h_2 hfind =>
      have hready : c.Ready row := by
        intro i hi
        simpa using List.find?_eq_none.mp hfind i hi
      have hfails : c.Fails row
          ↔ ∃ fault, c.formula.eval row = .error fault :=
        or_iff_right (not_not.mpr hready)
      cases heval : c.formula.eval row with
      | error fault =>
          exact Fails.turn (hfails.mpr ⟨fault, heval⟩) template _
      | ok value? =>
          have hno : ¬ c.Fails row := by
            rw [hfails, heval]
            rintro ⟨fault, hfault⟩
            cases hfault
          cases value? with
          | none =>
              refine ⟨fun value hv => ?_, fun _ => rfl,
                fun h => absurd h hno, fun _ => rfl⟩
              cases heval.symm.trans hv.2
          | some found =>
              refine ⟨fun value hv => ?_, fun h => ?_,
                fun h => absurd h hno, fun _ => rfl⟩
              · cases heval.symm.trans hv.2
                rfl
              · exact absurd ⟨hready, heval⟩ (h found)

-- =========================================================== all turns

/-- Whether computed fields have their turns one after the other: `rows k`
is the row before the turn of the `k`-th one, and `notes k` is what that
turn notes. -/
structure InTurn (template : String) (cs : List Computed)
    (stored answer : Row) (noted : List Issue) (rows : Nat → Row)
    (notes : Nat → List Issue) : Prop where
  first : rows 0 = stored
  last : rows cs.length = answer
  noted_eq : noted = (List.range cs.length).flatMap notes
  turn : ∀ (k : Nat) (c : Computed), cs[k]? = some c →
    c.Turn template (rows k) (rows (k + 1)) (notes k)

/-- And computed fields take turns, each with the row that the one before it
left. -/
theorem exists_inTurn (template : String) (cs : List Computed) (row : Row) :
    ∃ rows notes, InTurn template cs row (applyAll template cs row).1
      (applyAll template cs row).2 rows notes := by
  induction cs generalizing row with
  | nil => exact ⟨fun _ => row, fun _ => [], rfl, rfl, rfl, by simp⟩
  | cons c cs ih =>
      obtain ⟨rows, notes, h⟩ := ih (c.apply template row).1
      refine ⟨fun k => Nat.rec row (fun k _ => rows k) k,
        fun k => Nat.rec (c.apply template row).2 (fun k _ => notes k) k,
        rfl, h.last, ?_, ?_⟩
      · rw [List.length_cons, List.range_succ_eq_map, List.flatMap_cons,
          List.flatMap_map, ← h.noted_eq]
        rfl
      · rintro (_ | k) d hd
        · obtain rfl : c = d := by simpa using hd
          show c.Turn template row (rows 0) _
          rw [h.first]
          exact turn_apply template c row
        · exact h.turn k d (by simpa using hd)

namespace InTurn

variable {cs : List Computed} {stored answer : Row} {noted : List Issue}
  {rows : Nat → Row} {notes : Nat → List Issue}

/-- A turn leaves every name alone that it yields no value for. -/
theorem find?_step (h : InTurn template cs stored answer noted rows notes)
    {k : Nat} (hk : cs[k]? = some c)
    (hno : c.name = name → ∀ value, ¬ c.Yields (rows k) value) :
    Table.find? name (rows (k + 1)) = Table.find? name (rows k) := by
  have hturn := h.turn k c hk
  by_cases hany : ∃ value, c.Yields (rows k) value
  · obtain ⟨value, hv⟩ := hany
    have hname : c.name ≠ name := fun hname => hno hname value hv
    rw [hturn.set value hv, Table.find?_insertOrdered_of_ne hname]
  · rw [hturn.unset fun value hv => hany ⟨value, hv⟩]

/-- What is found under a name stays, if no further turn yields a value
for it. -/
theorem find?_rest (h : InTurn template cs stored answer noted rows notes)
    {k : Nat} (hk : k ≤ cs.length)
    (hno : ∀ j, k ≤ j → ∀ c, cs[j]? = some c → c.name = name →
      ∀ value, ¬ c.Yields (rows j) value) :
    Table.find? name answer = Table.find? name (rows k) := by
  rw [← h.last]
  induction hk using Nat.decreasingInduction with
  | self => rfl
  | of_succ j hj ih =>
      have hget := List.getElem?_eq_getElem hj
      rw [ih fun i hi => hno i (by omega)]
      exact h.find?_step hget (hno j (Nat.le_refl j) _ hget)

/-- The last turn that yields a value for a name decides. -/
theorem find?_of_yields
    (h : InTurn template cs stored answer noted rows notes) {k : Nat}
    (hk : cs[k]? = some c) {value : String} (hv : c.Yields (rows k) value)
    (hlast : ∀ j, k < j → ∀ d, cs[j]? = some d → d.name = c.name →
      ∀ other, ¬ d.Yields (rows j) other) :
    Table.find? c.name answer = some value := by
  have hlt : k < cs.length := (List.getElem?_eq_some_iff.mp hk).1
  rw [h.find?_rest hlt hlast, (h.turn k c hk).set value hv,
    Table.find?_insertOrdered_self]

/-- Without such a turn, what was found to begin with is found in the
end. -/
theorem find?_of_none
    (h : InTurn template cs stored answer noted rows notes)
    (hno : ∀ (k : Nat) (c : Computed), cs[k]? = some c → c.name = name →
      ∀ value, ¬ c.Yields (rows k) value) :
    Table.find? name answer = Table.find? name stored := by
  rw [h.find?_rest (Nat.zero_le _) fun j _ => hno j, h.first]

end InTurn

end Computed

-- ================================================================ rows

/-- Asks a supply for the next row of a template, or for the row of a
number. -/
def RowSupply.ask (name : String) : Option Nat →
    StateM RowSupply (Option Row)
  | none => next name
  | some number => rowAt name number

/-- The index of the row that is asked for. -/
def RowSupply.asked? (name : String) (s : RowSupply) :
    Option Nat → Option Nat
  | none => nextIndex? name s
  | some number => if number = 0 then none else some (number - 1)

namespace RowSupply

variable {s : RowSupply} {name : String} {t : Template}

/-- Whichever way a row is asked for, it is handed out completed, with the
notes behind those that are there already. -/
theorem ask_eq (h : Table.find? name s.templates = some t)
    (number? : Option Nat) :
    let row? := (asked? name s number?).bind (t.rows[·]?)
    (ask name number? s).1 = row?.map (fun row => (t.completed name row).1)
      ∧ (ask name number? s).2.issues
        = s.issues
          ++ (row?.map fun row => (t.completed name row).2).getD [] := by
  cases number? with
  | none =>
      have hindex : nextIndex? name s
          = (t.advance s.stream).1.map Prod.fst := by
        rw [nextIndex?, h]
        rfl
      dsimp only [ask, asked?]
      rw [hindex]
      unfold next
      rw [h]
      dsimp only
      rcases t.advance s.stream with ⟨_ | ⟨i, moved⟩, stream⟩
      · exact ⟨rfl, (List.append_nil _).symm⟩
      · dsimp only [Option.map_some, Option.bind_some]
        cases t.rows[i]? with
        | none => exact ⟨rfl, (List.append_nil _).symm⟩
        | some row => exact ⟨rfl, rfl⟩
  | some number =>
      dsimp only [ask, asked?]
      unfold rowAt
      rw [h]
      by_cases hz : number = 0
      · simp [hz]
      · cases hrow : t.rows[number - 1]? with
        | none => simp [hz, hrow]
        | some row => simp [hz, hrow, finish]

/-- No call changes the rows of a template, or what is computed for
them. -/
theorem find?_after (h : Table.find? name s.templates = some t)
    (calls : List Call) :
    ∃ t', Table.find? name (Call.after s calls).templates = some t'
      ∧ t'.rewind = t.rewind := by
  induction calls generalizing s t with
  | nil => exact ⟨t, h, rfl⟩
  | cons c rest ih =>
      have hrun := find?_run c name s
      rw [h, Option.map_some] at hrun
      obtain ⟨t', ht', hsame⟩ := ih hrun
      exact ⟨t', ht', hsame.trans (Call.rewind_effect c name s.stream t)⟩

/-- A row that is asked for is a stored one with a turn for each computed
field, whatever calls were made before; no other notes are added, and none
at all where there is no row. In the end the last value of a name stands
under it. A name that no turn yields a value for is as it was stored, so
that a field that cannot be computed is missing exactly if it is missing
from the stored row. -/
theorem answer_inTurn {built : RowSupply}
    (ht : Table.find? name built.templates = some t) (calls : List Call)
    (number? : Option Nat) :
    let s := Call.after built calls
    let out := ask name number? s
    match (asked? name s number?).bind (t.rows[·]?) with
    | none => out.1 = none ∧ out.2.issues = s.issues
    | some stored => ∃ answer noted rows notes,
        out.1 = some answer ∧ out.2.issues = s.issues ++ noted
          ∧ Computed.InTurn name t.computed stored answer noted rows notes
          ∧ (∀ (k : Nat) (c : Computed) (value : String),
            t.computed[k]? = some c → c.Yields (rows k) value →
            (∀ j, k < j → ∀ d, t.computed[j]? = some d → d.name = c.name →
              ∀ other, ¬ d.Yields (rows j) other) →
            Table.find? c.name answer = some value)
          ∧ ∀ field, (∀ (k : Nat) (c : Computed), t.computed[k]? = some c →
              c.name = field → ∀ value, ¬ c.Yields (rows k) value) →
            Table.find? field answer = Table.find? field stored := by
  intro s out
  obtain ⟨t', ht', hsame⟩ := find?_after ht calls
  have hrows : t'.rows = t.rows := (congrArg Template.rows hsame :)
  have hcompleted : ∀ row, t'.completed name row = t.completed name row := by
    intro row
    show t'.rewind.completed name row = t.rewind.completed name row
    rw [hsame]
  obtain ⟨hanswer, hissues⟩ := ask_eq ht' number?
  simp only [hrows, hcompleted] at hanswer hissues
  cases hrow : (asked? name s number?).bind (t.rows[·]?) with
  | none =>
      rw [hrow] at hanswer hissues
      exact ⟨hanswer, hissues.trans (List.append_nil _)⟩
  | some stored =>
      rw [hrow] at hanswer hissues
      obtain ⟨rows, notes, hturns⟩ :=
        Computed.exists_inTurn name t.computed stored
      exact ⟨_, _, rows, notes, hanswer, hissues, hturns,
        fun _ _ _ hk hv hlast => hturns.find?_of_yields hk hv hlast,
        fun _ hno => hturns.find?_of_none hno⟩

/-- A template with a full name, and a title that asks for a rank. -/
def people : TemplateSpec :=
  { name := "people"
    rows := [[("First", "Jane"), ("Last", "Doe")]]
    computed := [⟨"Full", "concat(First, ' ', Last)", []⟩,
      ⟨"Title", "concat(Rank, ' ', Full)", ["Full", "Rank"]⟩] }

/-- The supply of that template. -/
def peopleSupply : RowSupply :=
  ⟨[("people", .ofSpec people)], .ofSeed 7, .ofSeed 7, []⟩

/-- The row is handed out again with a full name, and without a title,
which is noted once. -/
theorem answer_inTurn_people :
    let calls : List Call := [.next "people", .takeIssues]
    ofSpecs [people] 7 = .ok peopleSupply
      ∧ Table.find? "people" peopleSupply.templates = some (.ofSpec people)
      ∧ ∃ answer message,
        (ask "people" none (Call.after peopleSupply calls)).1 = some answer
          ∧ (ask "people" none (Call.after peopleSupply calls)).2.issues
            = [⟨.computationFailure, "people.Title", message⟩]
          ∧ Table.find? "Full" answer = some "Jane Doe"
          ∧ Table.find? "Title" answer = none := by
  intro calls
  have ht : Table.find? "people" peopleSupply.templates
      = some (.ofSpec people) := rfl
  have hrow : (asked? "people" (Call.after peopleSupply calls) none).bind
      ((Template.ofSpec people).rows[·]?)
        = some [("First", "Jane"), ("Last", "Doe")] := rfl
  have h := answer_inTurn ht calls none
  dsimp only at h
  rw [hrow] at h
  obtain ⟨answer, noted, rows, notes, hanswer, hissues, hturns, hlast,
    hkept⟩ := h
  -- the first field has its value in the stored row
  have hfull : (Computed.ofSpec people.computed[0]).Yields (rows 0)
      "Jane Doe" := by
    rw [hturns.first]
    exact ⟨by decide, by decide +kernel⟩
  have hfirst := hturns.turn 0 _ rfl
  have hnext := hfirst.set _ hfull
  rw [hturns.first] at hnext
  -- the second one lacks a rank in what the first one leaves
  have htitle : (Computed.ofSpec people.computed[1]).Fails (rows 1) := by
    rw [hnext]
    exact .inl (by decide)
  obtain ⟨message, hmessage⟩ :=
    (hturns.turn 1 _ rfl).failure htitle
  have hsilent := hfirst.silent fun hfails => hfails.not_yields _ hfull
  have hnoted : noted = notes 0 ++ (notes 1 ++ []) := hturns.noted_eq
  refine ⟨rfl, ht, answer, message, hanswer, ?_, ?_, ?_⟩
  · rw [hissues, hnoted, hsilent, hmessage]
    rfl
  · refine hlast 0 _ _ rfl hfull fun j hj d hd hname => ?_
    match j, hj with
    | 1, _ =>
        cases hd
        exact absurd hname (by decide)
    | j + 2, _ => cases hd
  · refine (hkept "Title" fun k c hc hname => ?_).trans rfl
    match k with
    | 0 =>
        cases hc
        exact absurd hname (by decide)
    | 1 =>
        cases hc
        exact htitle.not_yields
    | k + 2 => cases hc

/-- Where the row that is stored has a field of the name, failing to
compute it leaves the stored value there. -/
theorem failed_field_keeps_stored :
    ∃ supply, ofSpecs [{ name := "t", rows := [[("x", "1")]]
                         computed := [⟨"x", "x + y", []⟩] }] 7 = .ok supply
      ∧ (next "t" supply).1 = some [("x", "1")]
      ∧ (next "t" supply).2.issues
        = [⟨.computationFailure, "t.x", "field 'y' is missing"⟩] :=
  ⟨_, rfl, rfl, rfl⟩

end RowSupply

end Overlay
