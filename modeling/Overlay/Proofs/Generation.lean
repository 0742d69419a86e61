/-
Whether a generated document can be read.

# What a generation does to a baseline

A baseline is read, patched, and written again. The patch is made of
changes of four kinds: texts and attributes that a pass writes, attributes
that declare namespaces, elements with another name, and elements that
choices take out. So what all of these keep, a patch keeps
(`Overrides.apply_induct`, `Choices.apply_induct`).

# When its result can be read

Every change leaves elements, and names that end where they should
(`Document.Keeps`); then the tree of the patched document decides whether
it can be read where it is written. Texts, attributes without a prefix
and choices do no harm (`Document.Spares`). What is left are attributes
with a prefix, declarations and new names: an attribute whose prefix is
not declared is written all the same (`undeclared_prefix_is_written`),
while an element is never given such a prefix.
-/
import Overlay.Config.File
import Overlay.Generation
import Overlay.Proofs.Override.Passing
import Overlay.Proofs.Xml.Patching

namespace Overlay

open Xml

-- ============================================================== writes

namespace Slot

variable {doc doc' : Document} {slot : Slot} {value : String}

theorem keeps_put (h : slot.put doc value = .ok doc') :
    doc.Keeps doc' := by
  rw [put] at h
  split at h
  · exact Document.keeps_setAttribute h
  · exact Document.keeps_setText h

/-- Whether a write to the slot can do no harm. -/
def IsBare (slot : Slot) : Prop :=
  ∀ name, slot.attr = some name → Xml.IsBare name

theorem spares_put (hbare : slot.IsBare)
    (h : slot.put doc value = .ok doc') : doc.Spares doc' := by
  rw [put] at h
  split at h
  case h_1 name hname =>
      exact Document.spares_setAttribute (hbare name hname) h
  case h_2 => exact Document.spares_setText h

end Slot

/-- What every write keeps is kept along a trace. -/
theorem Pass.Trace.induct {doc : Document} {P : Document → Prop}
    {p q : Pass} {ws : List Write} (h : Trace doc p ws q)
    (hput : ∀ w ∈ ws, ∀ d d', w.slot.put d w.value = .ok d' → P d → P d')
    (hp : P p.doc) : P q.doc := by
  induction h with
  | refl => exact hp
  | quiet _ hdoc _ _ _ ih =>
      rw [hdoc]
      exact ih hput
  | @write q ws w _ _ ih =>
      have hq := ih fun v hv => hput v (List.mem_append_left _ hv)
      rcases write_cases w q with
        ⟨_, -, -, heq⟩ | ⟨-, ⟨_, -, heq⟩ | ⟨d, hd, heq⟩⟩
      · rw [heq]
        exact hq
      · rw [heq]
        exact hq
      · rw [heq]
        exact hput w (by simp) _ _ hd hq

-- ============================================================= patches

namespace Overrides

variable {doc : Document} {P : Document → Prop}

/-- The writes that a pass asks for. -/
def writes (o : Overrides) (doc : Document) : List Write :=
  (o.apply doc).1.events.filterMap Event.write?

/-- What the writes keep holds when all assignments are through. -/
theorem assigned_induct (o : Overrides) (hdoc : doc.Sound)
    (hput : ∀ w ∈ o.writes doc, ∀ d d',
      w.slot.put d w.value = .ok d' → P d → P d')
    (h : P doc) : P (o.assigned doc).doc := by
  obtain ⟨ws, htrace⟩ := o.assigned_trace hdoc
  have hws : o.writes doc = ws :=
    (apply_after_assigned o doc).1.trans htrace.calls
  exact htrace.induct (hws ▸ hput) h

/-- What the writes, the declarations and the new names keep holds at the
end of a pass. -/
theorem apply_induct (o : Overrides) (hdoc : doc.Sound)
    (hput : ∀ w ∈ o.writes doc, ∀ d d',
      w.slot.put d w.value = .ok d' → P d → P d')
    (hset : ∀ d d' id name value,
      d.setAttribute id name value = .ok d' → P d → P d')
    (hrename : ∀ d d' id name, d.rename id name = .ok d' → P d → P d')
    (h : P doc) : P (o.apply doc).2.1 := by
  rw [(apply_after_assigned o doc).2]
  exact Pass.applyNamespaces_induct (P := fun p => P p.doc)
    (fun _ _ _ hp => hp)
    (fun p id name value d hd hp => hset p.doc d id name value hd hp)
    (fun p id name d hd hp => hrename p.doc d id name hd hp)
    (fun _ _ _ hp => hp) _ _ (o.assigned_induct hdoc hput h)

/-- Without namespaces a pass ends with its assignments. -/
theorem apply_of_isEmpty (o : Overrides) (doc : Document)
    (h : o.config.namespaces.isEmpty = true) :
    (o.apply doc).2.1 = (o.assigned doc).doc := by
  rw [(apply_after_assigned o doc).2]
  simp only [NamespaceRules.isEmpty, Bool.and_eq_true,
    Option.isNone_iff_eq_none, List.isEmpty_iff] at h
  obtain ⟨⟨hdefault, hprefixes⟩, helements⟩ := h
  rw [Pass.applyNamespaces, hdefault, hprefixes, helements]
  rfl

end Overrides

/-- What choices do: they take elements out, get to know patterns, and
note what they did. -/
theorem Pruning.carryOut_induct {P : Pruning → Prop}
    (hnote : ∀ p removed remarks issues, P p →
      P { p with removed := removed, remarks := remarks, issues := issues })
    (hdetach : ∀ p id doc, p.doc.detach id = .ok doc →
      P p → P { p with doc := doc })
    (hresolver : ∀ p r, r.aliases = p.resolver.aliases →
      P p → P { p with resolver := r })
    {p : Pruning} (s : Selection) (hp : P p) : P (p.carryOut s) := by
  have hremove : ∀ (key : String) (p : Pruning) (id : Nat),
      P p → P (p.remove key id) := by
    intro key p id hp
    rw [Pruning.remove]
    split
    case h_1 d hd => exact hnote _ _ _ _ (hdetach p id d hd hp)
    case h_2 => exact hnote p _ _ _ hp
  have hcontainer : ∀ (key option : String) (p : Pruning) (id : Nat),
      P p → P (Pruning.pruneContainer key option p id) := by
    intro key option p id hp
    rw [Pruning.pruneContainer]
    split
    · exact List.foldlRecOn _ _ hp fun p hp id _ => hremove key p id hp
    · exact hnote p _ _ _ hp
  rw [Pruning.carryOut]
  cases s.selected with
  | none => exact hnote p _ _ _ hp
  | some option =>
      have hfound : P { p with
          resolver := (PathResolver.resolve (.ofDocument p.doc) s.target
            p.resolver).2 } := hresolver p _ rfl hp
      generalize PathResolver.resolve (.ofDocument p.doc) s.target p.resolver
        = z at hfound ⊢
      obtain ⟨found, resolver⟩ := z
      dsimp only at hfound ⊢
      split
      · exact hnote _ _ _ _ hfound
      · exact List.foldlRecOn _ _ hfound
          fun p hp id _ => hcontainer s.key option p id hp

namespace Choices

variable {doc : Document} {P : Document → Prop}

/-- What taking elements out keeps holds when choices have been carried
out. -/
theorem apply_induct (c : Choices)
    (hdetach : ∀ d d' id, d.detach id = .ok d' → P d → P d')
    (h : P doc) : P (c.apply doc).2.1 :=
  List.foldlRecOn (c.select (.capture doc)) Pruning.carryOut
    (b := { doc := doc, resolver := c.resolver })
    (motive := fun p => P p.doc) h fun _ hp s _ =>
      Pruning.carryOut_induct (P := fun p => P p.doc)
        (fun _ _ _ _ hp => hp)
        (fun p id d hd hp => hdetach p.doc d id hd hp)
        (fun _ _ _ hp => hp) s hp

end Choices

namespace Enhancement

variable {doc : Document} {text : String}

/-- A patch leaves elements, and names that end where they should. -/
theorem keeps_patch (e : Enhancement) (hdoc : Document.parse text = some doc)
    (report : GenerationReport) : doc.Keeps (e.patch doc report).1 := by
  have hpass : doc.Keeps (e.overrides.reset.apply doc).2.1 :=
    e.overrides.reset.apply_induct (Document.sound_of_parse hdoc)
      (fun _ _ _ _ h hd => hd.trans (Slot.keeps_put h))
      (fun _ _ _ _ _ h hd => hd.trans (Document.keeps_setAttribute h))
      (fun _ _ _ _ h hd => hd.trans (Document.keeps_rename h)) (.refl doc)
  exact e.choices.apply_induct
    (fun _ _ _ h hd => hd.trans (Document.keeps_detach h)) hpass

/-- Whether a patch can do no harm: it has nothing to do with namespaces,
and no attribute that it writes has a prefix. -/
structure Harmless (e : Enhancement) (doc : Document) : Prop where
  namespaces : e.overrides.config.namespaces.isEmpty = true
  writes : ∀ w ∈ e.overrides.reset.writes doc, w.slot.IsBare

theorem Harmless.spares_patch {e : Enhancement} (h : e.Harmless doc)
    (hdoc : doc.Sound) (report : GenerationReport) :
    doc.Spares (e.patch doc report).1 := by
  have hpass : doc.Spares (e.overrides.reset.apply doc).2.1 := by
    rw [e.overrides.reset.apply_of_isEmpty doc h.namespaces]
    exact e.overrides.reset.assigned_induct hdoc
      (fun w hw _ _ hput hd => hd.trans (Slot.spares_put (h.writes w hw) hput))
      (.refl doc)
  exact e.choices.apply_induct
    (fun _ _ _ h hd => hd.trans (Document.spares_detach h)) hpass

end Enhancement

-- ========================================================= generations

namespace Generation

/-- A document is patched, and written. -/
theorem complete_of_parse {g : Generation} {request : BaselineRequest}
    {text : String} {e : Enhancement} {doc : Document}
    (he : g.enhancement = .ok e) (hdoc : Document.parse text = some doc) :
    let patched := e.patch doc (baseReport request (e.notes.map Issue.render))
    (g.complete request text).1
      = ⟨patched.1.write g.output, patched.2.1⟩ := by
  simp only [complete, he, hdoc]

/-- A patched baseline is a result unless the patch was broken off. -/
theorem conclude_of_enhanced {g : Generation} {result : GenerationResult}
    {e : Enhancement} (h : result.report.kind = .enhanced)
    (he : g.enhancement = .ok e) :
    g.conclude result
      = if e.isBroken then .error .broken else .ok result := by
  simp only [conclude, h, he]

/-- What is handed on is handed on as it is. -/
theorem eq_of_conclude {g : Generation} {result handed : GenerationResult}
    (h : g.conclude result = .ok handed) : result = handed := by
  unfold conclude at h
  split at h
  case h_1 =>
      split at h
      · cases h
      · exact Except.ok.inj h
  case h_2 => exact Except.ok.inj h

/-- Where a generation is enhanced, there is a configuration, and the
baseline is a document. -/
theorem of_enhanced {g : Generation}
    {make : BaselineRequest → Except Failure String}
    {request : BaselineRequest} {result : GenerationResult}
    (hrun : (g.run make request).1 = .ok result)
    (hkind : result.report.kind = .enhanced) :
    ∃ text e doc, make request = .ok text ∧ g.enhancement = .ok e
      ∧ Document.parse text = some doc
      ∧ (g.complete request text).1 = result := by
  rw [run] at hrun
  split at hrun
  case h_1 => cases hrun
  case h_2 text htext =>
      obtain rfl : (g.complete request text).1 = result :=
        eq_of_conclude hrun
      cases he : g.enhancement with
      | error problems =>
          simp only [complete, he] at hkind
          cases hkind
      | ok e =>
          cases hdoc : Document.parse text with
          | none =>
              simp only [complete, he, hdoc] at hkind
              cases hkind
          | some doc => exact ⟨text, e, doc, htext, rfl, hdoc, rfl⟩

/-- The result of an enhanced generation is the patched baseline, written.
It can be read exactly if the tree of the patched baseline can; and if the
patch does no harm, it can be read if the baseline can be read where it is
written. -/
theorem accepted_iff {g : Generation}
    {make : BaselineRequest → Except Failure String}
    {request : BaselineRequest} {result : GenerationResult}
    (hrun : (g.run make request).1 = .ok result)
    (hkind : result.report.kind = .enhanced) :
    ∃ text e doc, make request = .ok text ∧ g.enhancement = .ok e
      ∧ Document.parse text = some doc
      ∧ (let patched := (e.patch doc
          (baseReport request (e.notes.map Issue.render))).1
        result.xml = patched.write g.output
          ∧ ((Document.parse result.xml).isSome = true
            ↔ patched.content.Wellformed g.output.declaration)
          ∧ (e.Harmless doc →
            (Document.parse (doc.write g.output)).isSome = true →
              (Document.parse result.xml).isSome = true)) := by
  obtain ⟨text, e, doc, htext, he, hdoc, rfl⟩ := of_enhanced hrun hkind
  refine ⟨text, e, doc, htext, he, hdoc, ?_⟩
  intro patched
  have hxml : (g.complete request text).1.xml = patched.write g.output := by
    rw [complete_of_parse he hdoc]
  have hread : (Document.parse (patched.write g.output)).isSome = true
      ↔ patched.content.Wellformed g.output.declaration :=
    Document.isSome_parse_write_iff
      ((e.keeps_patch hdoc _).plain_content hdoc) g.output
  refine ⟨hxml, hxml ▸ hread, fun hharmless hback => ?_⟩
  rw [hxml]
  refine hread.mpr ((hharmless.spares_patch
    (Document.sound_of_parse hdoc) _).wellformed hdoc ?_)
  exact (Document.isSome_parse_write_iff
    ((Document.Keeps.refl doc).plain_content hdoc) g.output).mp hback

/-- Generations by a configuration in JSON. -/
def configuredBy (config : String) : Generation :=
  .lenient "s" (Config.ofText .json config) 0 default

/-- What such a generation makes of an element without content. -/
def onEmptyElement (config : String) :
    Except GenerationStop GenerationResult :=
  ((configuredBy config).run (fun _ => .ok "<a/>")
    ((configuredBy config).request none [] [])).1

/-- A configuration that sets an attribute without a prefix. -/
def bareAttribute : String :=
  "\x7b\"schema\": \"s\", \"mode\": \"complete\","
    ++ " \"attributes\": \x7b\"a@k\": \"1\"\x7d\x7d"

/-- An attribute without a prefix does no harm. -/
theorem accepted_iff_bare_attribute :
    ∃ result e doc, onEmptyElement bareAttribute = .ok result
      ∧ result.report.kind = .enhanced
      ∧ (configuredBy bareAttribute).enhancement = .ok e
      ∧ Document.parse "<a/>" = some doc
      ∧ e.Harmless doc
      ∧ (Document.parse result.xml).isSome = true := by
  have hkind : (onEmptyElement bareAttribute).toOption.map
      (·.report.kind) = some .enhanced := by
    decide +kernel
  have hview : ((configuredBy bareAttribute).enhancement.toOption.bind
      fun e => (Document.parse "<a/>").map fun doc =>
        (e.overrides.config.namespaces.isEmpty,
          (e.overrides.reset.writes doc).map (·.slot.attr),
          (Document.parse
            (doc.write (configuredBy bareAttribute).output)).isSome))
      = some (true, [some "k"], true) := by
    decide +kernel
  have hchars : "k".toList.all isNameChar = true := by decide +kernel
  have hbare : Xml.IsBare "k" :=
    ⟨⟨by decide, List.all_eq_true.mp hchars, by decide⟩, by decide⟩
  obtain ⟨result, hresult, hkind⟩ := Option.map_eq_some_iff.mp hkind
  have hrun := toOption_eq_some_iff.mp hresult
  obtain ⟨text, e, doc, htext, he, hdoc, -, -, haccepted⟩ :=
    accepted_iff hrun hkind
  cases htext
  rw [he, hdoc] at hview
  simp only [Except.toOption, Option.bind_some, Option.map_some,
    Option.some.injEq, Prod.mk.injEq] at hview
  obtain ⟨hnamespaces, hslots, hback⟩ := hview
  have hharmless : e.Harmless doc := by
    refine ⟨hnamespaces, fun w hw name hname => ?_⟩
    have hmem := List.mem_map_of_mem (f := (·.slot.attr)) hw
    rw [hslots, List.mem_singleton, hname] at hmem
    cases hmem
    exact hbare
  exact ⟨result, e, doc, hrun, hkind, he, hdoc, hharmless,
    haccepted hharmless hback⟩

/-- A configuration that sets an attribute with a prefix. -/
def prefixedAttribute : String :=
  "\x7b\"schema\": \"s\", \"mode\": \"complete\","
    ++ " \"attributes\": \x7b\"a@p:x\": \"1\"\x7d\x7d"

/-- An attribute is written although its prefix is not declared; the
result cannot be read. -/
theorem undeclared_prefix_is_written :
    ∃ result, onEmptyElement prefixedAttribute = .ok result
      ∧ result.report.kind = .enhanced ∧ result.report.errors = []
      ∧ Document.parse result.xml = none := by
  have hview : (onEmptyElement prefixedAttribute).toOption.map
      (fun r => (r.report.kind, r.report.errors,
        (Document.parse r.xml).isSome)) = some (.enhanced, [], false) := by
    decide +kernel
  obtain ⟨result, hresult, hreport⟩ := Option.map_eq_some_iff.mp hview
  simp only [Prod.mk.injEq] at hreport
  obtain ⟨hkind, herrors, hnone⟩ := hreport
  exact ⟨result, toOption_eq_some_iff.mp hresult, hkind, herrors,
    by simpa using hnone⟩

end Generation

end Overlay
