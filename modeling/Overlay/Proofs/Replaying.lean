/-
Generations that begin anew.

# What stays behind

A generation leaves much behind: rows that were drawn, streams that have
moved on, caches of patterns. All but the caches begins anew with the next
patch, and the caches have no part in anything (`Forgetting`). So of the
state that a generation leaves, what counts is what it begins with
(`Sources.begun`, up to `Generation.begun`).

# Why nothing of it changes

Whatever is drawn from a supply, resetting it undoes (`reset_after`), and
a source of values keeps the beginning of its stream. Hence a pass leaves
sources that begin like those it was given (`Overrides.begun_apply`); a
generation that fails, or whose baseline is no document, does not even
begin. So each call leaves what counts as it is
(`Generation.Ready.begun_answer`), and after any number of them a call
gives the same as at first.
-/
import Overlay.Proofs.Generation
import Overlay.Proofs.Override.Forgetting
import Overlay.Proofs.Override.Sharing
import Overlay.Proofs.Template.History

namespace Overlay

open Xml

-- ============================================================= sources

namespace Sources

/-- The sources as they are at the beginning of the next patch. -/
def begun (s : Sources) : Sources := s.reset.beginPass

/-- Rows are drawn by calls. -/
theorem exists_calls_of_drawRows (name : String) (n : Nat)
    (rows : RowSupply) :
    ∃ calls, (drawRows name n rows).2 = Call.after rows calls := by
  induction n generalizing rows with
  | zero => exact ⟨[], rfl⟩
  | succ n ih =>
      have hafter : ∀ calls, Call.after rows (.next name :: calls)
          = Call.after (RowSupply.next name rows).2 calls := fun _ => rfl
      cases hn : (RowSupply.next name rows).1 with
      | none =>
          refine ⟨[.next name], ?_⟩
          rw [drawRows_of_none hn]
          rfl
      | some row =>
          obtain ⟨calls, hcalls⟩ := ih (RowSupply.next name rows).2
          refine ⟨.next name :: calls, ?_⟩
          rw [drawRows_of_some hn, hafter, ← hcalls]

/-- A supply that calls were made to begins as before. -/
theorem begun_after {s : Sources}
    (h : Table.Ordered s.rows.templates) (calls : List Call)
    (drawn : Table (List Row)) :
    begun { s with rows := Call.after s.rows calls, drawn := drawn }
      = s.begun := by
  have hreset := (reset_after h calls).1
  simp only [begun, reset, beginPass, hreset]

theorem ordered_begun (s : Sources) :
    Table.Ordered s.begun.rows.templates
      ↔ Table.Ordered s.rows.templates :=
  Table.ordered_map Template.rewind s.rows.templates

@[simp] theorem begun_begun (s : Sources) : s.begun.begun = s.begun := by
  have htemplates : s.begun.begun.rows.templates = s.begun.rows.templates :=
    List.map_map ..
  simp only [begun, reset, beginPass, RowSupply.reset] at htemplates ⊢
  rw [htemplates]
  rfl

/-- Draws do not change what sources begin with. -/
theorem begun_kept {s₀ : Sources}
    (h : Table.Ordered s₀.rows.templates) :
    Pass.KeptByDraws fun _ s => s.begun = s₀ where
  generate spec _ s hs := hs
  lookup r k _ s hs := by
    have hordered : Table.Ordered s.rows.templates :=
      s.ordered_begun.mp (hs ▸ h)
    subst hs
    unfold sharedRow
    cases r.row with
    | some number =>
        exact begun_after hordered [.rowAt r.template number] s.drawn
    | none =>
        obtain ⟨calls, hcalls⟩ := exists_calls_of_drawRows r.template
          (k + 1 - (s.drawnFrom r.template).length) s.rows
        show begun { s with rows := (drawRows _ _ s.rows).2, drawn := _ } = _
        rw [hcalls]
        exact begun_after hordered calls _

end Sources

-- =========================================================== overrides

namespace Overrides

/-- The overrides as they are at the beginning of the next patch. -/
def begun (o : Overrides) : Overrides :=
  { o with
    resolver := .ofAliases o.resolver.aliases, sources := o.sources.begun }

@[simp] theorem begun_begun (o : Overrides) : o.begun.begun = o.begun := by
  simp only [begun, Sources.begun_begun]
  rfl

/-- Overrides that are reset apply like those that begin. -/
theorem apply_reset (o : Overrides) (doc : Document) :
    ∃ cache, o.reset.apply doc
      = ((o.begun.apply doc).1, (o.begun.apply doc).2.1,
        (o.begun.apply doc).2.2.withCache cache) :=
  o.begun.apply_withCache o.resolver.cache doc

/-- A pass over a document leaves overrides that begin as before. -/
theorem begun_apply (o : Overrides) {doc : Document} (hdoc : doc.Sound)
    (h : Table.Ordered o.sources.rows.templates) :
    (o.apply doc).2.2.begun = o.begun := by
  have hkept : (o.assigned doc).sources.begun = o.sources.begun :=
    keeps_seen (Sources.begun_kept (o.sources.ordered_begun.mpr h)).values o doc
      rfl
  have hsources : (o.apply doc).2.2.sources.begun = o.sources.begun := by
    rw [apply_sources, ← hkept]
    rfl
  simp only [begun, hsources, o.apply_aliases hdoc]
  rfl

end Overrides

-- ============================================================= choices

namespace Choices

/-- The choices as they are at the beginning of the next patch. -/
def begun (c : Choices) : Choices :=
  { c with resolver := .ofAliases c.resolver.aliases }

theorem apply_begun (c : Choices) (doc : Document) :
    ∃ cache, c.apply doc = ((c.begun.apply doc).1, (c.begun.apply doc).2.1,
      (c.begun.apply doc).2.2.withCache cache) :=
  c.begun.apply_withCache c.resolver.cache doc

/-- Carrying choices out leaves choices that begin as before, once their
notes are taken. -/
theorem begun_apply (c : Choices) (doc : Document) (h : c.issues = []) :
    (c.apply doc).2.2.takeIssues.2.begun = c.begun := by
  have haliases : (c.apply doc).2.2.resolver.aliases = c.resolver.aliases :=
    List.foldlRecOn (c.select (.capture doc)) Pruning.carryOut
      (b := { doc := doc, resolver := c.resolver })
      (motive := fun p => p.resolver.aliases = c.resolver.aliases) rfl
      fun _ hp s _ => Pruning.carryOut_induct
        (P := fun p => p.resolver.aliases = c.resolver.aliases)
        (fun _ _ _ _ hp => hp) (fun _ _ _ _ hp => hp)
        (fun _ _ hr hp => hr.trans hp) s hp
  simp only [begun, takeIssues, haliases, h]
  rfl

end Choices

-- ============================================================= patches

namespace Enhancement

/-- A configuration as it is at the beginning of the next patch. -/
def begun (e : Enhancement) : Enhancement :=
  { e with overrides := e.overrides.begun, choices := e.choices.begun }

/-- What was patched so far has no part in a patch. -/
theorem patch_begun (e : Enhancement) (doc : Document)
    (report : GenerationReport) :
    (e.begun.patch doc report).1 = (e.patch doc report).1
      ∧ (e.begun.patch doc report).2.1 = (e.patch doc report).2.1
      ∧ (e.begun.patch doc report).2.2.isBroken
        = (e.patch doc report).2.2.isBroken := by
  obtain ⟨cache, hpass⟩ := e.overrides.apply_reset doc
  obtain ⟨cache', hbegun⟩ := e.begun.overrides.apply_reset doc
  obtain ⟨cache'', hchoices⟩ :=
    e.choices.apply_begun (e.overrides.begun.apply doc).2.1
  have htwice : e.begun.overrides.begun = e.overrides.begun :=
    e.overrides.begun_begun
  have hsame : e.begun.choices = e.choices.begun := rfl
  rw [htwice] at hbegun
  simp only [patch, hpass, hbegun, hchoices, hsame]
  exact ⟨trivial, rfl, rfl⟩

/-- Whether a configuration is as it was built, but for what patches
leave behind. -/
structure Ready (e : Enhancement) : Prop where
  ordered : Table.Ordered e.overrides.sources.rows.templates
  issues : e.choices.issues = []
  unbroken : e.overrides.sources.values.origin.isBroken = false

theorem ready_begun (e : Enhancement) : e.begun.Ready ↔ e.Ready := by
  have hordered := e.overrides.sources.ordered_begun
  exact ⟨fun h => ⟨hordered.mp h.ordered, h.issues, h.unbroken⟩,
    fun h => ⟨hordered.mpr h.ordered, h.issues, h.unbroken⟩⟩

/-- A patch leaves a configuration that begins as before. -/
theorem Ready.begun_patch {e : Enhancement} (h : e.Ready) {doc : Document}
    (hdoc : doc.Sound) (report : GenerationReport) :
    (e.patch doc report).2.2.begun = e.begun := by
  have hordered : Table.Ordered e.overrides.reset.sources.rows.templates :=
    e.overrides.sources.ordered_begun.mpr h.ordered
  have hpass : (e.overrides.reset.apply doc).2.2.begun
      = e.overrides.begun := by
    rw [e.overrides.reset.begun_apply hdoc hordered]
    exact e.overrides.begun_begun
  have hchoices := e.choices.begun_apply (e.overrides.reset.apply doc).2.1
    h.issues
  show Enhancement.mk (e.overrides.reset.apply doc).2.2.begun
    (e.choices.apply (e.overrides.reset.apply doc).2.1).2.2.takeIssues.2.begun
    e.notes = _
  rw [hpass, hchoices]
  rfl

/-- A configuration that was made ready has its templates in order, no note
of a choice that was not taken, and a stream to begin with. -/
theorem ready_of_ofConfig {c : Config} {freshSeed : Nat}
    {today : Calendar.Date} {e : Enhancement}
    (h : ofConfig c freshSeed today = .ok e) : e.Ready := by
  obtain ⟨o, ho, he⟩ := ok_of_bind h
  obtain ⟨sources, hsources, ho⟩ := ok_of_bind ho
  obtain ⟨rows, hrows, hsources⟩ := ok_of_bind hsources
  cases he
  cases ho
  cases hsources
  exact ⟨(fresh_of_ofSpecs hrows).1.1, rfl, rfl⟩

/-- Where there is a seed, no other one counts. -/
theorem ofConfig_of_seed {c : Config} {seed : Nat}
    (h : c.seed = some seed) (freshSeed other : Nat)
    (today : Calendar.Date) :
    ofConfig c freshSeed today = ofConfig c other today := by
  simp only [ofConfig, Overrides.ofConfig, h, Option.getD_some]

end Enhancement

-- ========================================================= generations

/-- A call for a generation: what the caller asks for, and what the maker
of baselines answers to it. -/
structure GenerationCall where
  mode : Option Mode
  choices : Table String
  repeats : Table Nat
  baseline : BaselineRequest → Except Failure String

namespace Generation

/-- Makes a call. -/
def answer (g : Generation) (call : GenerationCall) :
    Except GenerationStop GenerationResult × Generation :=
  g.run call.baseline (g.request call.mode call.choices call.repeats)

/-- Generations after some calls. -/
def after (g : Generation) (calls : List GenerationCall) : Generation :=
  calls.foldl (fun g call => (g.answer call).2) g

/-- Generations as they are at the beginning of the next patch. -/
def begun (g : Generation) : Generation :=
  { g with enhancement := g.enhancement.map Enhancement.begun }

/-- Whether the configuration of generations, if there is one, is as it
was built, but for what patches leave behind. -/
def Ready (g : Generation) : Prop :=
  ∀ e, g.enhancement = .ok e → e.Ready

theorem ready_begun (g : Generation) : g.begun.Ready ↔ g.Ready := by
  unfold Ready begun
  cases g.enhancement with
  | error problems => simp [Except.map]
  | ok e => simp [Except.map, Enhancement.ready_begun]

theorem request_begun (g : Generation) (mode : Option Mode)
    (choices : Table String) (repeats : Table Nat) :
    g.begun.request mode choices repeats
      = g.request mode choices repeats := by
  obtain ⟨xsd, own, output, enhancement⟩ := g
  cases enhancement <;> rfl

/-- What was patched so far has no part in a call. -/
theorem answer_begun (g : Generation) (call : GenerationCall) :
    (g.begun.answer call).1 = (g.answer call).1 := by
  have hconclude : ∀ request text,
      (g.begun.complete request text).2.conclude
          (g.begun.complete request text).1
        = (g.complete request text).2.conclude
          (g.complete request text).1 := by
    intro request text
    obtain ⟨xsd, mode, output, enhancement⟩ := g
    cases enhancement with
    | error problems => rfl
    | ok e =>
        cases hdoc : Document.parse text with
        | none =>
            simp only [complete, begun, Except.map, hdoc]
            rfl
        | some doc =>
            obtain ⟨hpatched, hreport, hbroken⟩ := e.patch_begun doc
              (baseReport request (e.notes.map Issue.render))
            have hnotes : e.begun.notes = e.notes := rfl
            simp only [complete, begun, Except.map, hdoc, hnotes, hpatched,
              hreport]
            -- what the patches leave behind differs, but not in this
            refine (conclude_of_enhanced rfl rfl).trans
              (Eq.trans ?_ (conclude_of_enhanced rfl rfl).symm)
            rw [hbroken]
  simp only [answer, run, request_begun]
  split
  · rfl
  · exact hconclude _ _

/-- A call leaves generations that begin as before. -/
theorem Ready.begun_answer {g : Generation} (h : g.Ready)
    (call : GenerationCall) : (g.answer call).2.begun = g.begun := by
  have hcomplete : ∀ request text,
      (g.complete request text).2.begun = g.begun := by
    intro request text
    obtain ⟨xsd, mode, output, enhancement⟩ := g
    cases enhancement with
    | error problems => rfl
    | ok e =>
        simp only [complete]
        cases hdoc : Document.parse text with
        | none => rfl
        | some doc =>
            have hbegun := (h e rfl).begun_patch (Document.sound_of_parse hdoc)
              (baseReport request (e.notes.map Issue.render))
            exact congrArg (fun e => Generation.mk xsd mode output (.ok e))
              hbegun
  simp only [answer, run]
  split
  · rfl
  · exact hcomplete _ _

/-- So do any number of calls. -/
theorem Ready.begun_after {g : Generation} (h : g.Ready)
    (calls : List GenerationCall) : (g.after calls).begun = g.begun := by
  induction calls generalizing g with
  | nil => rfl
  | cons call rest ih =>
      have hcall := h.begun_answer call
      have hready : (g.answer call).2.Ready := by
        rw [← ready_begun, hcall, ready_begun]
        exact h
      exact (ih hready).trans hcall

theorem Ready.after {g : Generation} (h : g.Ready)
    (calls : List GenerationCall) : (g.after calls).Ready := by
  rw [← ready_begun, h.begun_after calls, ready_begun]
  exact h

/-- Generations by a configuration, whether one that cannot be used is
refused or left out. -/
def BuiltBy (g : Generation) (xsd : String) (c : Config) (freshSeed : Nat)
    (today : Calendar.Date) : Prop :=
  strict xsd c freshSeed today = .ok g
    ∨ g = lenient xsd (.ok c) freshSeed today

variable {g : Generation} {xsd : String} {c : Config} {freshSeed : Nat}
  {today : Calendar.Date}

theorem lenient_of_seed {seed : Nat} (h : c.seed = some seed)
    (freshSeed other : Nat) :
    lenient xsd (.ok c) freshSeed today = lenient xsd (.ok c) other today := by
  have hstrict : strict xsd c freshSeed today = strict xsd c other today := by
    simp only [strict, Enhancement.ofConfig_of_seed h freshSeed other]
  have hbind : ∀ seed, ((.ok c : Except Failure Config) >>= fun c =>
      strict xsd c seed today) = strict xsd c seed today := fun _ => rfl
  simp only [lenient, hbind, hstrict]

theorem BuiltBy.eq_lenient (h : g.BuiltBy xsd c freshSeed today) :
    g = lenient xsd (.ok c) freshSeed today := by
  rcases h with h | h
  · have hbind : ((.ok c : Except Failure Config) >>= fun c =>
        strict xsd c freshSeed today) = .ok g := h
    rw [lenient, hbind]
  · exact h

/-- A generation that was built is ready: its templates are in order, its
choices have told what they had to, and no draw has broken off. -/
theorem BuiltBy.ready (h : g.BuiltBy xsd c freshSeed today) : g.Ready := by
  intro e he
  have hstrict : ∀ g, strict xsd c freshSeed today = .ok g →
      g.enhancement = .ok e → e.Ready := by
    intro g hg he
    obtain ⟨e', he', hg⟩ := ok_of_bind hg
    cases hg
    cases he
    exact Enhancement.ready_of_ofConfig he'
  rcases h with h | rfl
  · exact hstrict g h he
  · unfold lenient at he
    split at he
    case h_1 g hg => exact hstrict g hg he
    case h_2 => cases he

/-- With a seed, a call gives the same whatever was generated before: the
same failure, or the same document and the same report as from generations
that are built anew. Calls before it may have asked for anything, and their
baselines may have failed or may have been no documents. -/
theorem answer_after_of_seed {seed : Nat} (hseed : c.seed = some seed)
    {otherSeed : Nat} {built fresh : Generation}
    (hbuilt : built.BuiltBy xsd c freshSeed today)
    (hfresh : fresh.BuiltBy xsd c otherSeed today)
    (output : WriteOptions) (past : List GenerationCall)
    (call : GenerationCall) :
    ((after { built with output := output } past).answer call).1
      = (answer { fresh with output := output } call).1 := by
  have hsame : built = fresh := by
    rw [hbuilt.eq_lenient, hfresh.eq_lenient]
    exact lenient_of_seed hseed freshSeed otherSeed
  have hready : Ready { built with output := output } := hbuilt.ready
  rw [← answer_begun, hready.begun_after past, answer_begun, hsame]

/-- A configuration with a seed, whose template hands out its only row
once. -/
def singleRow : String :=
  "\x7b\"schema\": \"s\", \"mode\": \"complete\", \"seed\": 7,"
    ++ " \"templates\": \x7b\"t\": \x7b\"cycle\": \"once\","
    ++ " \"rows\": [\x7b\"n\": \"1\"\x7d]\x7d\x7d,"
    ++ " \"values\": \x7b\"b\": \"@t.n\"\x7d\x7d"

/-- A call that asks for nothing, and the answer to it. -/
def plainCall (baseline : Except Failure String) : GenerationCall :=
  ⟨none, [], [], fun _ => baseline⟩

/-- The row is there again although it was handed out before. Of the calls
in between, one fails and one is given no document. -/
theorem answer_after_of_seed_single_row :
    ∃ c, Config.ofText .json singleRow = .ok c ∧ c.seed = some 7
      ∧ (configuredBy singleRow).BuiltBy "s" c 0 default
      ∧ (let call := plainCall (.ok "<b/>")
        let past := [call, plainCall (.error (.baselineFailed "")),
          plainCall (.ok "<a>"), call]
        let g := configuredBy singleRow
        ((g.after past).answer call).1 = (g.answer call).1
          ∧ ((g.after past).answer call).1.toOption.map
              (fun r => (r.report.kind, r.report.errors, r.xml))
            = some (.enhanced, [],
              "<?xml version=\"1.0\" encoding=\"UTF-8\"?>\n<b>1</b>")) := by
  have hseed : (Config.ofText .json singleRow).toOption.map (·.seed)
      = some (some 7) := by
    decide +kernel
  have hresult : ((configuredBy singleRow).answer
      (plainCall (.ok "<b/>"))).1.toOption.map
        (fun r => (r.report.kind, r.report.errors, r.xml))
      = some (.enhanced, [],
        "<?xml version=\"1.0\" encoding=\"UTF-8\"?>\n<b>1</b>") := by
    decide +kernel
  obtain ⟨c, hc, hseed⟩ := Option.map_eq_some_iff.mp hseed
  have hc : Config.ofText .json singleRow = .ok c := toOption_eq_some_iff.mp hc
  have hbuilt : (configuredBy singleRow).BuiltBy "s" c 0 default :=
    .inr (by rw [configuredBy, hc])
  have hsame : ∀ g : Generation, g.BuiltBy "s" c 0 default →
      ∀ past call, ((g.after past).answer call).1 = (g.answer call).1 :=
    fun g hg past call => answer_after_of_seed hseed hg hg g.output past call
  refine ⟨c, hc, hseed, hbuilt, hsame _ hbuilt _ _, ?_⟩
  rw [hsame _ hbuilt]
  exact hresult

end Generation

end Overlay
