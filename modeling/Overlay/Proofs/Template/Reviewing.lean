/-
What a review of templates vouches for.

# What is said to be missing

Two kinds of notes say that something is missing from a row: that a declared
input is, or a field that a formula reads. Their texts end like those of no
other notes, and tell the name (`eq_missing_of_message`). What they name is
missing indeed from the row as the computed fields before have left it
(`before`), and is a declared input or a field that the formula reads
(`missing_of_mem_apply`).

# What a review has seen

A review without remarks has found every field of the template in every
stored row (`has_of_reviewRows`), and for every required input a field of
the template, a field of some stored row, or a computed field before
(`known_of_reviewComputed`). No turn takes a name out of a row
(`has_before`). So there are three ways only in which an input can be
missing after all; `Excused` lists them.
-/
import Overlay.Proofs.Outcome
import Overlay.Proofs.Template.Computing

namespace Overlay

open RowSupply

-- ============================================================== faults

/-- Whether a text says that a field, or a declared input, is missing. -/
def SaysMissing (message field : String) : Prop :=
  message = "field '" ++ field ++ "' is missing"
    ∨ message = "declared input '" ++ field ++ "' is missing"

theorem getLast?_toList_append (front : String) {back : String} {c : Char}
    (h : back.toList.getLast? = some c) :
    (front ++ back).toList.getLast? = some c := by
  rw [String.toList_append, List.getLast?_append, h, Option.some_or]

/-- The name of what is missing is read off a text again. -/
theorem SaysMissing.unique {message field other : String}
    (h : SaysMissing message field) (h' : SaysMissing message other) :
    field = other := by
  have hname : ∀ {lead : String}, lead ++ field ++ "' is missing"
      = lead ++ other ++ "' is missing" → field = other := by
    intro lead heq
    exact (String.append_right_inj lead).mp
      ((String.append_left_inj _).mp heq)
  have hlead : ∀ {a b : String}, "field '" ++ a ++ "' is missing"
      ≠ "declared input '" ++ b ++ "' is missing" := by
    intro a b heq
    have hhead := congrArg (fun s => s.toList.head?) heq
    simp at hhead
  rcases h with h | h <;> rcases h' with h' | h'
  · exact hname (h.symm.trans h')
  · exact absurd (h.symm.trans h') hlead
  · exact absurd (h'.symm.trans h) hlead
  · exact hname (h.symm.trans h')

namespace Formula

variable {row : Row} {field : String}

/-- No other fault says that something is missing. -/
theorem eq_missing_of_message {fault : Fault}
    (h : SaysMissing fault.message field) : fault = .missing field := by
  have hlast : fault.message.toList.getLast? = some 'g' := by
    rcases h with h | h <;> rw [h] <;> exact getLast?_toList_append _ rfl
  have hother : ∀ (c : Char) {front back : String},
      back.toList.getLast? = some c → c ≠ 'g' →
      (front ++ back).toList.getLast? ≠ some 'g' := by
    intro c front back hc hne hg
    rw [getLast?_toList_append front hc] at hg
    exact hne (Option.some.inj hg)
  cases fault with
  | missing other => rw [(SaysMissing.unique (.inl rfl) h : other = field)]
  | notNumeric other raw =>
      exact absurd hlast (hother ')' rfl (by decide))
  | literalNotNumeric text =>
      exact absurd hlast (hother 'c' rfl (by decide))
  | shift why =>
      cases why <;> exact absurd hlast (hother 'e' rfl (by decide))

theorem of_fieldOf {name : String} {fault : Fault}
    (h : fieldOf row name = .error fault) :
    Table.find? name row = none ∧ fault = .missing name := by
  unfold fieldOf at h
  split at h <;> cases h
  exact ⟨‹_›, rfl⟩

theorem of_numberOf {name : String}
    (h : numberOf row name = .error (.missing field)) :
    Table.find? name row = none ∧ field = name := by
  rcases error_of_bind h with h | ⟨raw, -, h⟩
  · obtain ⟨hnone, heq⟩ := of_fieldOf h
    cases heq
    exact ⟨hnone, rfl⟩
  · split at h <;> cases h

/-- The operands of an addition or subtraction. -/
theorem of_operands {left : String} {right : Operand}
    {g : Float → Float → Option String}
    (h : (do
        let a ← numberOf row left
        let b ← operandNumber row right
        return g a b) = .error (.missing field)) :
    Table.find? field row = none
      ∧ field ∈ left :: (Operand.field? right).toList := by
  rcases error_of_bind h with h | ⟨a, -, h⟩
  · obtain ⟨hnone, rfl⟩ := of_numberOf h
    exact ⟨hnone, List.mem_cons_self ..⟩
  · rcases error_of_bind h with h | ⟨b, -, h⟩
    · cases right with
      | field name =>
          obtain ⟨hnone, rfl⟩ := of_numberOf h
          exact ⟨hnone, by simp [Operand.field?]⟩
      | number x => cases h
      | literal text =>
          simp only [operandNumber] at h
          split at h <;> cases h
    · cases h

/-- A formula fails for a missing field only if it reads that field, and is
no plain lookup. -/
theorem missing_of_eval {f : Formula}
    (h : f.eval row = .error (.missing field)) :
    Table.find? field row = none ∧ field ∈ f.inputs
      ∧ ∀ name, f ≠ .lookup name := by
  cases f with
  | lookup name => cases h
  | sum operands => cases h
  | concat operands =>
      rcases error_of_bind h with h | ⟨texts, -, h⟩
      · obtain ⟨operand, hmem, h⟩ := error_of_mapM h
        cases operand with
        | field name =>
            obtain ⟨hnone, heq⟩ := of_fieldOf h
            cases heq
            exact ⟨hnone, List.mem_filterMap.mpr ⟨_, hmem, rfl⟩, nofun⟩
        | literal text => cases h
        | number x => cases h
      · cases h
  | add left right =>
      obtain ⟨hnone, hmem⟩ := of_operands h
      exact ⟨hnone, hmem, nofun⟩
  | sub left right =>
      obtain ⟨hnone, hmem⟩ := of_operands h
      exact ⟨hnone, hmem, nofun⟩
  | shift name minutes =>
      rcases error_of_bind h with h | ⟨raw, -, h⟩
      · obtain ⟨hnone, heq⟩ := of_fieldOf h
        cases heq
        exact ⟨hnone, List.mem_singleton_self _, nofun⟩
      · split at h <;> cases h

end Formula

-- =============================================================== turns

namespace Computed

variable {template field : String} {c : Computed} {cs : List Computed}
  {row : Row} {issue : Issue}

/-- What a note of a turn says to be missing is missing, and is a declared
input or, if all of those are there, a field that the formula reads. -/
theorem missing_of_mem_apply (h : issue ∈ (c.apply template row).2)
    (hnamed : SaysMissing issue.message field) :
    issue.subject = template ++ "." ++ c.name
      ∧ Table.has field row = false
      ∧ (field ∈ c.inputs
        ∨ field ∈ c.formula.inputs ∧ ∀ name, c.formula ≠ .lookup name) := by
  unfold apply at h
  split at h
  case h_1 missing hfind =>
      obtain rfl := List.mem_singleton.mp h
      obtain rfl : field = missing := hnamed.unique (.inr rfl)
      exact ⟨rfl, by simpa using List.find?_some hfind,
        .inl (List.mem_of_find?_eq_some hfind)⟩
  case h_2 =>
      split at h
      case h_1 => cases h
      case h_2 => cases h
      case h_3 fault heval =>
          obtain rfl := List.mem_singleton.mp h
          obtain rfl := Formula.eq_missing_of_message hnamed
          obtain ⟨hnone, hreads⟩ := Formula.missing_of_eval heval
          exact ⟨rfl, by rw [Table.has, hnone]; rfl, .inr hreads⟩

/-- The row as the first `k` computed fields leave it. -/
def before (template : String) (cs : List Computed) (stored : Row)
    (k : Nat) : Row := (applyAll template (cs.take k) stored).1

theorem applyAll_append (template : String) (cs ds : List Computed)
    (row : Row) :
    (applyAll template (cs ++ ds) row).1
      = (applyAll template ds (applyAll template cs row).1).1 := by
  induction cs generalizing row with
  | nil => rfl
  | cons c cs ih => exact ih _

theorem before_succ {k : Nat} (h : cs[k]? = some c) (template : String)
    (stored : Row) :
    before template cs stored (k + 1)
      = (c.apply template (before template cs stored k)).1 := by
  rw [before, List.take_add_one, h, applyAll_append]
  rfl

/-- Each note comes from one turn. -/
theorem exists_of_mem_applyAll (h : issue ∈ (applyAll template cs row).2) :
    ∃ (k : Nat) (c : Computed), cs[k]? = some c
      ∧ issue ∈ (c.apply template (before template cs row k)).2 := by
  induction cs generalizing row with
  | nil => cases h
  | cons c cs ih =>
      rcases List.mem_append.mp h with h | h
      · exact ⟨0, c, rfl, h⟩
      · obtain ⟨k, d, hd, h⟩ := ih h
        exact ⟨k + 1, d, hd, h⟩

/-- No turn takes a name out of a row. -/
theorem has_apply (template : String) (c : Computed)
    (h : Table.has field row = true) :
    Table.has field (c.apply template row).1 = true := by
  have hturn := turn_apply template c row
  by_cases hany : ∃ value, c.Yields row value
  · obtain ⟨value, hv⟩ := hany
    rw [hturn.set value hv]
    exact Table.has_insertOrdered value (.inr h)
  · rw [hturn.unset fun value hv => hany ⟨value, hv⟩]
    exact h

/-- A field that is there before one turn is there before each later one. -/
theorem has_before {stored : Row} {j k : Nat} (hjk : j ≤ k)
    (h : Table.has field (before template cs stored j) = true) :
    Table.has field (before template cs stored k) = true := by
  induction hjk with
  | refl => exact h
  | @step k _ ih =>
      cases hk : cs[k]? with
      | none =>
          have htake : cs.take (k + 1) = cs.take k := by
            rw [List.take_add_one, hk]
            exact List.append_nil _
          rwa [before, htake]
      | some c =>
          rw [before_succ hk]
          exact has_apply template c ih

/-- So a name that is missing has been given a value by no turn before. -/
theorem not_yields_of_missing {stored : Row} {j k : Nat} {d : Computed}
    (hjk : j < k) (hd : cs[j]? = some d)
    (h : Table.has d.name (before template cs stored k) = false)
    (value : String) : ¬ d.Yields (before template cs stored j) value := by
  intro hv
  have hset :=
    (turn_apply template d (before template cs stored j)).set value hv
  have hthere :
      Table.has d.name (before template cs stored (j + 1)) = true := by
    rw [before_succ hd, hset]
    exact Table.has_insertOrdered value (.inl rfl)
  rw [has_before hjk hthere] at h
  cases h

end Computed

-- ============================================================= reviews

namespace Template

variable {t : Template} {name field : String}

/-- Every stored row has every field of a template that a review has no
remark about. -/
theorem has_of_reviewRows (h : t.reviewRows name = []) {row : Row}
    (hrow : row ∈ t.rows) (hfield : field ∈ t.fields) :
    Table.has field row = true := by
  obtain ⟨i, hi⟩ := List.mem_iff_getElem?.mp hrow
  have hmem : (row, i) ∈ t.rows.zipIdx := List.mem_zipIdx_iff_getElem?.mpr hi
  have hnone := List.map_eq_nil_iff.mp
    (List.flatMap_eq_nil_iff.mp h (row, i) hmem)
  simpa using List.filter_eq_nil_iff.mp hnone field hfield

/-- A required input that a review has no remark about is known from the
start, or the name of a computed field before. -/
theorem known_of_reviewComputed {known : List String} {cs : List Computed}
    (h : reviewComputed name known cs = []) {k : Nat} {c : Computed}
    (hk : cs[k]? = some c) (hfield : field ∈ requiredInputs c) :
    field ∈ known
      ∨ ∃ j < k, ∃ d, cs[j]? = some d ∧ d.name = field := by
  induction cs generalizing known k with
  | nil => cases hk
  | cons d cs ih =>
      obtain ⟨hd, hcs⟩ := List.append_eq_nil_iff.mp h
      cases k with
      | zero =>
          obtain rfl : d = c := by simpa using hk
          have hall := List.filter_eq_nil_iff.mp (List.map_eq_nil_iff.mp hd)
          exact .inl (by simpa using hall field hfield)
      | succ k =>
          rcases ih hcs (by simpa using hk) with hknown | ⟨j, hj, e, he, hname⟩
          · rcases List.mem_cons.mp hknown with rfl | hknown
            · exact .inr ⟨0, Nat.succ_pos k, d, rfl, rfl⟩
            · exact .inl hknown
          · exact .inr ⟨j + 1, Nat.succ_lt_succ hj, e, he, hname⟩

/-- What is declared is required; without declarations it is what the
formula reads, but for a plain lookup. -/
theorem mem_requiredInputs {c : Computed} :
    field ∈ requiredInputs c ↔ field ∈ c.inputs
      ∨ c.inputs = [] ∧ field ∈ c.formula.inputs
        ∧ ∀ name, c.formula ≠ .lookup name := by
  obtain ⟨own, formula, inputs⟩ := c
  cases inputs with
  | cons i is => simp [requiredInputs]
  | nil => cases formula <;> simp [requiredInputs]

/-- Why an input of the `k`-th computed field may be missing from a stored
row, though a review of the template has no remarks. -/
inductive Excused (name : String) (t : Template) (stored : Row) (k : Nat)
    (c : Computed) (field : String) : Prop
  /-- A computed field before is to provide it, and has no value here. -/
  | uncomputed {j : Nat} {d : Computed} (hj : j < k)
    (hd : t.computed[j]? = some d) (hname : d.name = field)
    (hno : ∀ value,
      ¬ d.Yields (Computed.before name t.computed stored j) value)
  /-- It is in another stored row. -/
  | elsewhere {other : Row} (hother : other ∈ t.rows)
    (hthere : Table.has field other = true)
  /-- The inputs are declared, but this one is not among them. -/
  | undeclared (hdeclared : c.inputs ≠ []) (hno : field ∉ c.inputs)
    (hreads : field ∈ c.formula.inputs)

/-- What a note about a stored row says to be missing, if a review of the
template has no remarks. -/
theorem excused_of_missing (hreview : t.review name = []) {stored : Row}
    (hstored : stored ∈ t.rows) {issue : Issue}
    (hissue : issue ∈ (t.completed name stored).2)
    (hnamed : SaysMissing issue.message field) :
    ∃ (k : Nat) (c : Computed), t.computed[k]? = some c
      ∧ issue.subject = name ++ "." ++ c.name
      ∧ (field ∈ c.inputs ∨ field ∈ c.formula.inputs)
      ∧ field ∉ t.fields ∧ Table.has field stored = false
      ∧ Excused name t stored k c field := by
  obtain ⟨hrows, hcomputed⟩ := List.append_eq_nil_iff.mp hreview
  obtain ⟨k, c, hk, hturn⟩ := Computed.exists_of_mem_applyAll hissue
  obtain ⟨hsubject, hmissing, hinput⟩ :=
    Computed.missing_of_mem_apply hturn hnamed
  have hnot : ¬ Table.has field stored = true := by
    intro hthere
    rw [Computed.has_before (j := 0) (Nat.zero_le k) hthere] at hmissing
    cases hmissing
  have hundeclared : field ∉ t.fields :=
    fun hfield => hnot (has_of_reviewRows hrows hstored hfield)
  refine ⟨k, c, hk, hsubject, hinput.imp_right And.left, hundeclared,
    Bool.eq_false_iff.mpr hnot, ?_⟩
  by_cases hrequired : field ∈ requiredInputs c
  · rcases known_of_reviewComputed hcomputed hk hrequired with
      hknown | ⟨j, hj, d, hd, rfl⟩
    · obtain ⟨other, hother, hname⟩ := List.mem_flatMap.mp
        ((List.mem_append.mp hknown).resolve_left hundeclared)
      exact .elsewhere hother (Table.has_iff_mem_names.mpr hname)
    · exact .uncomputed hj hd rfl
        (Computed.not_yields_of_missing hj hd hmissing)
  · rw [mem_requiredInputs, not_or] at hrequired
    obtain ⟨hreads, hlookup⟩ := hinput.resolve_left hrequired.1
    exact .undeclared (fun hnil => hrequired.2 ⟨hnil, hreads, hlookup⟩)
      hrequired.1 hreads

end Template

-- ================================================================ rows

namespace RowSupply

variable {built : RowSupply} {name : String} {t : Template}

/-- A template of a supply that a review has no remarks about. -/
theorem review_of_find? (hreview : built.review = [])
    (ht : Table.find? name built.templates = some t) :
    t.review name = [] :=
  List.flatMap_eq_nil_iff.mp hreview (name, t) (Table.mem_of_find? ht)

/-- A row that is handed out, after whatever calls, is a stored one that
was completed, with the notes behind those that are there already. -/
theorem of_ask_after (ht : Table.find? name built.templates = some t)
    {calls : List Call} {number? : Option Nat} {answer : Row}
    (hanswer : (ask name number? (Call.after built calls)).1
      = some answer) :
    ∃ stored ∈ t.rows, answer = (t.completed name stored).1
      ∧ (ask name number? (Call.after built calls)).2.issues
        = (Call.after built calls).issues
          ++ (t.completed name stored).2 := by
  obtain ⟨t', ht', hsame⟩ := find?_after ht calls
  have hrows : t'.rows = t.rows := (congrArg Template.rows hsame :)
  have hcompleted : ∀ row, t'.completed name row = t.completed name row := by
    intro row
    show t'.rewind.completed name row = t.rewind.completed name row
    rw [hsame]
  obtain ⟨hrow, hissues⟩ := ask_eq ht' number?
  simp only [hrows, hcompleted] at hrow hissues
  rw [hanswer] at hrow
  obtain ⟨stored, hstored, rfl⟩ := Option.map_eq_some_iff.mp hrow.symm
  rw [hstored] at hissues
  obtain ⟨i, -, hi⟩ := Option.bind_eq_some_iff.mp hstored
  exact ⟨stored, List.mem_of_getElem? hi, rfl, hissues⟩

/-- If a review has no remarks, then whatever the notes about a row that is
handed out say to be missing is an input of the computed field that they are
about, is no field of the template, is not in the stored row, and is
excused. -/
theorem missing_is_excused (hreview : built.review = [])
    (ht : Table.find? name built.templates = some t) (calls : List Call)
    (number? : Option Nat) {answer : Row}
    (hanswer : (ask name number? (Call.after built calls)).1
      = some answer) :
    ∃ stored ∈ t.rows, ∃ noted,
      answer = (t.completed name stored).1
        ∧ (ask name number? (Call.after built calls)).2.issues
          = (Call.after built calls).issues ++ noted
        ∧ ∀ issue ∈ noted, ∀ field, SaysMissing issue.message field →
          ∃ (k : Nat) (c : Computed), t.computed[k]? = some c
            ∧ issue.subject = name ++ "." ++ c.name
            ∧ (field ∈ c.inputs ∨ field ∈ c.formula.inputs)
            ∧ field ∉ t.fields ∧ Table.has field stored = false
            ∧ Template.Excused name t stored k c field := by
  obtain ⟨stored, hstored, hcompleted, hissues⟩ := of_ask_after ht hanswer
  refine ⟨stored, hstored, _, hcompleted, hissues,
    fun issue hissue field hnamed => ?_⟩
  exact Template.excused_of_missing (review_of_find? hreview ht) hstored
    hissue hnamed

/-- A template whose second row lacks what the first one has, with a
computed field that reads this, one whose declared inputs leave out what it
reads, and one that reads the one before. -/
def uneven : TemplateSpec :=
  { name := "t"
    fields := ["a"]
    rows := [[("a", "1"), ("b", "2")], [("a", "3")]]
    computed := [⟨"c", "concat(a, b)", []⟩, ⟨"d", "concat(a, z)", ["a"]⟩,
      ⟨"e", "concat(d)", []⟩] }

/-- The supply of that template. -/
def unevenSupply : RowSupply :=
  ⟨[("t", .ofSpec uneven)], .ofSeed 7, .ofSeed 7, []⟩

/-- The second row lacks what the last computed field reads, since the one
before has no value. -/
theorem missing_is_excused_uneven :
    let calls : List Call := [.next "t", .takeIssues]
    ofSpecs [uneven] 7 = .ok unevenSupply ∧ unevenSupply.review = []
      ∧ Table.find? "t" unevenSupply.templates = some (.ofSpec uneven)
      ∧ (ask "t" none (Call.after unevenSupply calls)).1
        = some [("a", "3")]
      ∧ ∃ (k : Nat) (c : Computed),
        (Template.ofSpec uneven).computed[k]? = some c ∧ c.name = "e"
          ∧ Template.Excused "t" (.ofSpec uneven) [("a", "3")] k c "d" := by
  intro calls
  have hreview : unevenSupply.review = [] := by decide +kernel
  have ht : Table.find? "t" unevenSupply.templates
      = some (.ofSpec uneven) := rfl
  have hanswer : (ask "t" none (Call.after unevenSupply calls)).1
      = some [("a", "3")] := by decide +kernel
  obtain ⟨stored, hstored, noted, hcompleted, hissues, hall⟩ :=
    missing_is_excused hreview ht calls none hanswer
  obtain rfl : stored = [("a", "3")] := by
    rcases List.mem_pair.mp hstored with rfl | rfl
    · exact absurd hcompleted (by decide +kernel)
    · rfl
  have hnote : ⟨.computationFailure, "t.e", "field 'd' is missing"⟩
      ∈ noted := by
    have hnoted : (ask "t" none (Call.after unevenSupply calls)).2.issues
        = noted := hissues
    rw [← hnoted]
    decide +kernel
  obtain ⟨k, c, hk, hsubject, -, -, -, hexcused⟩ :=
    hall _ hnote "d" (.inl rfl)
  have hname : c.name = "e" := by
    have hsplit : "t." ++ "e" = "t." ++ c.name := hsubject
    exact ((String.append_right_inj "t.").mp hsplit).symm
  exact ⟨rfl, hreview, ht, hanswer, k, c, hk, hname, hexcused⟩

/-- What another row has, and what is read without being declared, goes
unnoticed, and is not the name of any computed field. -/
theorem review_overlooks_missing_fields :
    ofSpecs [uneven] 7 = .ok unevenSupply ∧ unevenSupply.review = []
      ∧ (ask "t" (some 2) unevenSupply).1 = some [("a", "3")]
      ∧ (ask "t" (some 2) unevenSupply).2.issues
        = [⟨.computationFailure, "t.c", "field 'b' is missing"⟩,
          ⟨.computationFailure, "t.d", "field 'z' is missing"⟩,
          ⟨.computationFailure, "t.e", "field 'd' is missing"⟩]
      ∧ ∀ c ∈ (Template.ofSpec uneven).computed,
        c.name ≠ "b" ∧ c.name ≠ "z" :=
  ⟨rfl, by decide +kernel, by decide +kernel, by decide +kernel,
    by decide +kernel⟩

end RowSupply

end Overlay
