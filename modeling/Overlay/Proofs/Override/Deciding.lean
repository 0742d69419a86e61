/-
Which write a slot holds in the end.

# The deciding write

Writes to a slot come in any order, and a pass keeps a claim for each
slot: what is less specific than the claim is left out. Of all valid
writes that were asked for, the one that stays is the last one of the
greatest precedence. `decisive` computes it along a list of writes, and
`decisive_append` says what it is in terms of the list as a whole.

# The run invariant

`Pass.Over doc p` ties a pass to the document that it started from and to
the list of writes that were asked for so far (`Pass.calls`): the claim of
a slot is that of its deciding write, and the slot holds that write's
value. One write keeps it (`Over.write`). Three things can happen to a
write, and the three cases meet the three branches of `decisive`: it is
shadowed, and the deciding write stays; it is refused, and was not valid;
it is carried out, and decides from now on.

Whatever else a pass does (drawing rows, looking up addresses, noting
events) does not touch what the invariant is about. `Pass.Trace` says
this once: a pass comes from another one by writes and by quiet changes,
and `Trace.invariant` carries the invariant along.
-/
import Overlay.Override
import Overlay.Proofs.Xml.Edits

namespace Overlay

open Text Xml

-- ===================================================== deciding writes

/-- Whether a write can be carried out on an element. -/
def Write.isValid (w : Write) : Bool :=
  w.value.toList.all isXmlChar && w.slot.attr.all isValidName

/-- What a slot holds after a write; an empty text counts as none. -/
def Write.held (w : Write) : Option String :=
  if w.slot.attr = none ∧ w.value = "" then none else some w.value

/-- The claim of a write. -/
def Write.claim (w : Write) : Claim := ⟨w.key, w.precedence⟩

/-- The last write of the greatest precedence. -/
def decisive (writes : List Write) : Option Write :=
  writes.foldl
    (fun best w =>
      if best.any (·.precedence > w.precedence) then best else some w) none

theorem decisive_concat (writes : List Write) (w : Write) :
    decisive (writes ++ [w])
      = if (decisive writes).any (·.precedence > w.precedence)
        then decisive writes else some w := by
  rw [decisive, List.foldl_append]
  rfl

theorem mem_of_decisive {writes : List Write} {w : Write}
    (h : decisive writes = some w) : w ∈ writes := by
  induction writes using List.reverseRecOn with
  | nil => cases h
  | append_singleton writes v ih =>
      rw [decisive_concat] at h
      split at h
      · exact List.mem_append_left _ (ih h)
      · cases h
        simp

/-- What decides, in terms of the whole list. -/
theorem decisive_append {before after : List Write} {w : Write}
    (hbefore : ∀ v ∈ before, v.precedence ≤ w.precedence)
    (hafter : ∀ v ∈ after, v.precedence < w.precedence) :
    decisive (before ++ w :: after) = some w := by
  induction after using List.reverseRecOn with
  | nil =>
      rw [decisive_concat]
      cases hbest : decisive before with
      | none => rfl
      | some v =>
          have := hbefore v (mem_of_decisive hbest)
          simp [UInt32.not_lt.mpr this]
  | append_singleton after v ih =>
      have ih := ih fun u hu => hafter u (List.mem_append_left _ hu)
      have hv := hafter v (by simp)
      rw [← List.cons_append, ← List.append_assoc, decisive_concat, ih]
      simp [hv]

/-- Some write decides unless there is none at all. -/
theorem exists_split_of_ne_nil {writes : List Write} (h : writes ≠ []) :
    ∃ before w after, writes = before ++ w :: after
      ∧ (∀ v ∈ before, v.precedence ≤ w.precedence)
      ∧ ∀ v ∈ after, v.precedence < w.precedence := by
  induction writes using List.reverseRecOn with
  | nil => exact absurd rfl h
  | append_singleton writes v ih =>
      by_cases hw : writes = []
      · exact ⟨[], v, [], by simp [hw], by simp, by simp⟩
      obtain ⟨before, w, after, rfl, hbefore, hafter⟩ := ih hw
      by_cases hv : v.precedence < w.precedence
      · refine ⟨before, w, after ++ [v], by simp, hbefore, fun u hu => ?_⟩
        rcases List.mem_append.mp hu with hu | hu
        · exact hafter u hu
        · exact List.mem_singleton.mp hu ▸ hv
      · have hwv := UInt32.not_lt.mp hv
        refine ⟨before ++ w :: after, v, [], rfl, fun u hu => ?_, by simp⟩
        rcases List.mem_append.mp hu with hu | hu
        · exact UInt32.le_trans (hbefore u hu) hwv
        · rcases List.mem_cons.mp hu with rfl | hu
          · exact hwv
          · exact UInt32.le_trans (UInt32.le_of_lt (hafter u hu)) hwv

-- =============================================================== slots

/-- A valid write to an element is carried out; its slot holds the value,
and other slots hold what they held. -/
theorem put_of_isValid {doc : Document} {w : Write} (h : doc.Sound)
    (hel : doc.isElement w.slot.node = true) (hw : w.isValid = true) :
    ∃ doc', w.slot.put doc w.value = .ok doc' ∧ doc'.Sound
      ∧ doc.SameShape doc' ∧ w.slot.read doc' = w.held
      ∧ ∀ slot, slot ≠ w.slot → slot.read doc' = slot.read doc := by
  obtain ⟨key, ⟨node, attr⟩, precedence, value⟩ := w
  rw [Write.isValid, Bool.and_eq_true] at hw
  obtain ⟨hvalue, hname⟩ := hw
  cases attr with
  | none =>
      have hid := Document.lt_of_isElement hel
      refine ⟨doc.retext node value,
        Document.setText_eq_ok_iff.mpr ⟨hvalue, hel, rfl⟩,
        Document.sound_retext h hid value,
        Document.sameShape_retext hid value, ?_, ?_⟩
      · simpa [Slot.read, Write.held]
          using Document.text?_retext_self h hid value
      · -- no attribute is a text, and no other element was written to
        rintro ⟨other, attr⟩ hne
        cases attr with
        | none =>
            have hother : other ≠ node := fun e => hne (e ▸ rfl)
            exact Document.text?_retext_of_ne h hid hother value
        | some name =>
            simp only [Slot.read, Document.attribute?,
              Document.attributes, Document.element?_retext]
  | some name =>
      obtain ⟨e, he⟩ := Option.isSome_iff_exists.mp hel
      have hid := Document.lt_of_isElement hel
      refine ⟨doc.putElement node { e with
          attributes := Document.writeAttribute name value e.attributes },
        Document.setAttribute_eq_ok_iff.mpr
          ⟨by simpa using hname, hvalue, e, he, rfl⟩,
        Document.sound_putElement h he,
        Document.sameShape_putElement he rfl, ?_, ?_⟩
      · simpa [Slot.read, Write.held, Document.attribute?,
            Document.attributes, Document.element?_putElement hid]
          using Document.find?_writeAttribute_self name value e.attributes
      · rintro ⟨other, attr⟩ hne
        cases attr with
        | none => exact Document.text?_putElement he
        | some name' =>
            simp only [Slot.read, Document.attribute?,
              Document.attributes, Document.element?_putElement hid]
            by_cases ho : other = node
            · subst ho
              have hn : name' ≠ name := fun e => hne (e ▸ rfl)
              simpa [he] using
                Document.find?_writeAttribute_of_ne hn value e.attributes
            · rw [if_neg ho]

/-- A write that is not valid is refused. -/
theorem put_of_not_isValid (doc : Document) {w : Write}
    (hw : w.isValid = false) :
    ∃ why, w.slot.put doc w.value = .error why := by
  cases hput : w.slot.put doc w.value with
  | error why => exact ⟨why, rfl⟩
  | ok doc' =>
      have hvalid : w.isValid = true := by
        rw [Write.isValid, Bool.and_eq_true]
        rw [Slot.put] at hput
        split at hput
        case h_1 name hattr =>
            obtain ⟨hn, hc, -⟩ := Document.setAttribute_eq_ok_iff.mp hput
            exact ⟨hc, by simpa [hattr] using hn⟩
        case h_2 hattr =>
            obtain ⟨hc, -⟩ := Document.setText_eq_ok_iff.mp hput
            exact ⟨hc, by simp [hattr]⟩
      rw [hw] at hvalid
      cases hvalid

-- ======================================================= the invariant

namespace Pass

/-- The writes that were asked for so far, in order of time. -/
def calls (p : Pass) : List Write := p.events.filterMap Event.write?

/-- The valid ones for a slot. -/
def callsOn (p : Pass) (slot : Slot) : List Write :=
  p.calls.filter fun w => w.slot == slot && w.isValid

/-- Asking for a write puts it on record, whatever becomes of it. -/
theorem calls_write (w : Write) (p : Pass) :
    (p.write w).1.calls = p.calls ++ [w] := by
  have hput : (p.put w).1.calls = p.calls ++ [w] := by
    rw [put]
    split <;> simp [calls, note, Event.write?]
  rw [write]
  split
  · split
    · simp [calls, note, Event.write?]
    · exact hput
  · exact hput

/-- A pass over a document: what it has changed are texts and attributes,
the claim of each slot is that of the deciding write, and the slot holds
its value. -/
structure Over (doc : Document) (p : Pass) : Prop where
  shape : doc.SameShape p.doc
  sound : p.doc.Sound
  claims : ∀ slot, p.claim? slot = (decisive (p.callsOn slot)).map (·.claim)
  holds : ∀ slot w, decisive (p.callsOn slot) = some w →
    slot.read p.doc = w.held

/-- What can become of a write. -/
theorem write_cases (w : Write) (p : Pass) :
    (∃ holder, p.claim? w.slot = some holder
        ∧ holder.precedence > w.precedence
        ∧ (p.write w).1
          = p.note (.shadowed w (w.slot.path p.doc) holder))
      ∨ (∀ holder, p.claim? w.slot = some holder →
          ¬ holder.precedence > w.precedence)
        ∧ ((∃ why, w.slot.put p.doc w.value = .error why
            ∧ (p.write w).1 = p.note (.refused w (w.slot.path p.doc) why))
          ∨ ∃ doc, w.slot.put p.doc w.value = .ok doc
            ∧ (p.write w).1 = { p with
                doc := doc
                claims := (w.slot, w.claim) :: p.claims
                events := p.events ++ [.written w] }) := by
  have hput : (∃ why, w.slot.put p.doc w.value = .error why
        ∧ (p.put w).1 = p.note (.refused w (w.slot.path p.doc) why))
      ∨ ∃ doc, w.slot.put p.doc w.value = .ok doc
        ∧ (p.put w).1 = { p with
            doc := doc
            claims := (w.slot, w.claim) :: p.claims
            events := p.events ++ [.written w] } := by
    rw [put]
    cases hw : w.slot.put p.doc w.value with
    | error why => exact .inl ⟨why, rfl, rfl⟩
    | ok doc => exact .inr ⟨doc, rfl, rfl⟩
  rw [Pass.write]
  cases hc : p.claim? w.slot with
  | none => exact .inr ⟨fun _ h => by (cases h), hput⟩
  | some holder =>
      by_cases hgt : holder.precedence > w.precedence
      · exact .inl ⟨holder, rfl, hgt, by simp only [if_pos hgt]⟩
      · refine .inr ⟨fun _ h => by (cases h; exact hgt), ?_⟩
        simp only [if_neg hgt]
        exact hput

theorem callsOn_of_calls {p q : Pass} {w : Write}
    (h : q.calls = p.calls ++ [w]) (slot : Slot) :
    q.callsOn slot
      = p.callsOn slot
        ++ if w.slot = slot ∧ w.isValid = true then [w] else [] := by
  rw [callsOn, callsOn, h, List.filter_append, List.filter_cons,
    List.filter_nil]
  simp only [Bool.and_eq_true, beq_iff_eq]

/-- The invariant looks at a pass through its document, its claims and
the writes that decide. -/
theorem Over.congr {doc : Document} {p q : Pass} (h : p.Over doc)
    (hdoc : q.doc = p.doc) (hclaims : q.claims = p.claims)
    (hdec : ∀ slot, decisive (q.callsOn slot) = decisive (p.callsOn slot)) :
    q.Over doc := by
  refine ⟨hdoc ▸ h.shape, hdoc ▸ h.sound, fun slot => ?_,
    fun slot w hw => ?_⟩
  · rw [hdec slot, ← h.claims slot, claim?, claim?, hclaims]
  · rw [hdoc]
    exact h.holds slot w (hdec slot ▸ hw)

/-- One write keeps the invariant. -/
theorem Over.write {doc : Document} {p : Pass} (h : p.Over doc)
    {w : Write} (hel : doc.isElement w.slot.node = true) :
    (p.write w).1.Over doc := by
  have hcalls := callsOn_of_calls (calls_write w p)
  have hclaim := h.claims w.slot
  rcases write_cases w p with
    ⟨holder, hc, hgt, heq⟩ | ⟨hfree, ⟨why, hput, heq⟩ | ⟨doc', hput, heq⟩⟩
  · -- shadowed: the deciding write has the greater precedence
    refine h.congr (by rw [heq]; rfl) (by rw [heq]; rfl) fun slot => ?_
    rw [hcalls slot]
    split
    case isFalse => rw [List.append_nil]
    case isTrue hw =>
        rw [hc, hw.1] at hclaim
        obtain ⟨v, hv, hholder⟩ := Option.map_eq_some_iff.mp hclaim.symm
        have hgt : v.precedence > w.precedence := by
          rw [← hholder] at hgt
          exact hgt
        rw [decisive_concat, hv]
        simp [hgt]
  · -- refused: the write was not valid and does not count
    refine h.congr (by rw [heq]; rfl) (by rw [heq]; rfl) fun slot => ?_
    have hinvalid : ¬ w.isValid = true := by
      intro hw
      obtain ⟨doc', hok, -⟩ := put_of_isValid h.sound
        (h.shape.isElement _ ▸ hel) hw
      rw [hok] at hput
      cases hput
    rw [hcalls slot, if_neg fun hw => hinvalid hw.2, List.append_nil]
  · -- carried out: from now on it decides
    have hvalid : w.isValid = true := by
      by_contra hw
      obtain ⟨why, herr⟩ := put_of_not_isValid p.doc
        (by simpa using hw)
      rw [herr] at hput
      cases hput
    obtain ⟨doc'', hok, hsound, hshape, hread, hothers⟩ :=
      put_of_isValid h.sound (h.shape.isElement _ ▸ hel) hvalid
    rw [hok] at hput
    cases hput
    have hdecides : decisive ((p.write w).1.callsOn w.slot) = some w := by
      rw [hcalls, if_pos ⟨rfl, hvalid⟩, decisive_concat, if_neg]
      intro hany
      obtain ⟨v, hv, hgt⟩ := (Option.any_eq_true _ _).mp hany
      rw [hv] at hclaim
      exact hfree _ hclaim (by simpa [Write.claim] using hgt)
    have hsame : ∀ slot, slot ≠ w.slot →
        (p.write w).1.callsOn slot = p.callsOn slot := by
      intro slot hne
      rw [hcalls, if_neg fun hw => hne hw.1.symm, List.append_nil]
    rw [heq] at hdecides hsame ⊢
    refine ⟨h.shape.trans hshape, hsound, fun slot => ?_,
      fun slot v hv => ?_⟩
    · by_cases hslot : slot = w.slot
      · subst hslot
        rw [hdecides]
        simp [claim?]
      · rw [hsame slot hslot, ← h.claims slot]
        have hb : (w.slot == slot) = false := by
          simpa using fun e => hslot e.symm
        simp [claim?, hb]
    · by_cases hslot : slot = w.slot
      · subst hslot
        rw [hdecides] at hv
        cases hv
        exact hread
      · rw [hsame slot hslot] at hv
        exact (hothers slot hslot).trans (h.holds slot v hv)

/-- A pass that begins. -/
theorem over_start {doc : Document} (h : doc.Sound)
    (resolver : PathResolver) (sources : Sources) :
    Over doc { doc := doc, resolver := resolver, sources := sources } :=
  ⟨.refl doc, h, fun _ => rfl, fun _ _ hw => by cases hw⟩

-- ============================================================== traces

/-- How a pass over a document comes from another one: by writes to its
elements, and by changes that touch neither the document nor the claims
nor what was asked for. -/
inductive Trace (doc : Document) : Pass → List Write → Pass → Prop
  | refl (p : Pass) : Trace doc p [] p
  | quiet {p q r : Pass} {ws : List Write} : Trace doc p ws q →
      r.doc = q.doc → r.claims = q.claims → r.calls = q.calls →
      r.resolver.aliases = q.resolver.aliases → Trace doc p ws r
  | write {p q : Pass} {ws : List Write} (w : Write) : Trace doc p ws q →
      doc.isElement w.slot.node = true →
      Trace doc p (ws ++ [w]) (q.write w).1

namespace Trace

variable {doc : Document} {p q r : Pass} {ws vs : List Write}

theorem trans (h : Trace doc p ws q) (h' : Trace doc q vs r) :
    Trace doc p (ws ++ vs) r := by
  induction h' with
  | refl => rwa [List.append_nil]
  | quiet _ hdoc hclaims hcalls haliases ih =>
      exact ih.quiet hdoc hclaims hcalls haliases
  | write w _ hel ih =>
      rw [← List.append_assoc]
      exact ih.write w hel

/-- What a pass asks for on its way is on record at the end. -/
theorem calls (h : Trace doc p ws q) : q.calls = p.calls ++ ws := by
  induction h with
  | refl => rw [List.append_nil]
  | quiet _ _ _ hcalls _ ih => rw [hcalls, ih]
  | write w _ _ ih => rw [calls_write, ih, List.append_assoc]

/-- The invariant holds along the way. -/
theorem invariant (h : Trace doc p ws q) (hp : p.Over doc) : q.Over doc := by
  induction h with
  | refl => exact hp
  | quiet _ hdoc hclaims hcalls _ ih =>
      refine ih.congr hdoc hclaims fun slot => ?_
      rw [callsOn, callsOn, hcalls]
  | write w _ hel ih => exact ih.write hel

/-- The aliases of namespaces stay. -/
theorem aliases (h : Trace doc p ws q) :
    q.resolver.aliases = p.resolver.aliases := by
  induction h with
  | refl => rfl
  | quiet _ _ _ _ haliases ih => rw [haliases, ih]
  | @write q ws w _ _ ih =>
      rcases write_cases w q with
        ⟨_, -, -, heq⟩ | ⟨-, ⟨_, -, heq⟩ | ⟨_, -, heq⟩⟩ <;>
        rw [heq] <;> exact ih

/-- Noting an event that is no write is quiet. -/
theorem note {e : Event} (h : Trace doc p ws q) (he : e.write? = none) :
    Trace doc p ws (q.note e) := by
  refine h.quiet rfl rfl ?_ rfl
  simp [Pass.calls, Pass.note, he]

end Trace

end Pass

end Overlay
