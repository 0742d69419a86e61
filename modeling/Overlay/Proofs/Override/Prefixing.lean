/-
Prefixes that a pass gives to elements.

# What stands where

Declarations are written on the root, and a rule gives its prefix to the
elements that it resolves to, wherever they stand. An element that is
renamed gets the URI that its new prefix stands for there, which is that
of the nearest declaration: an element in between, in the document or by
an entry for attributes, may declare the prefix otherwise
(`nearer_declaration_wins`). Nor can a declaration make `xml` stand for
anything else.

# Why it stays

A rule leaves its mark on an element (`Pass.Prefixed`): the new name and
the URI, or an event that says why there is none. What comes later gives
names to other elements, and names change no declarations, so the mark
stays (`Prefixed.addPrefix`). The same goes for the declaration itself
(`Pass.Declares`), which other declarations do not touch.
-/
import Overlay.Proofs.Address.Pointing
import Overlay.Proofs.Generation
import Overlay.Proofs.Override.Accounting
import Overlay.Proofs.Override.Confining
import Overlay.Proofs.Xml.Forests
import Overlay.Proofs.Xml.Prefixes

namespace Overlay

open Xml Document

-- =============================================================== rules

/-- Whether an element can take the prefix of a rule: the name is one that
may be put into a document, and the prefix stands for something there. -/
def PrefixRule.Takes (rule : PrefixRule) (doc : Document) (n : Nat) : Prop :=
  isValidName (QName.qualified ⟨some rule.nsPrefix, doc.localName n⟩) = true
    ∧ doc.lookupNamespace n (some rule.nsPrefix) ≠ none

/-- The URI that is configured for a prefix; of several ones, the last. -/
def NamespaceRules.uriOf? (rules : NamespaceRules) (nsPrefix : String) :
    Option String :=
  Table.find? nsPrefix rules.prefixes.reverse

namespace PrefixRule

variable {rule : PrefixRule} {doc : Document} {n : Nat}

/-- Elements that can take the prefix are those that can be renamed. -/
theorem takes_iff_rename (hn : doc.isElement n = true) :
    rule.Takes doc n
      ↔ ∃ doc', doc.rename n ⟨some rule.nsPrefix, doc.localName n⟩
        = .ok doc' := by
  rw [Takes, Option.ne_none_iff_isSome]
  constructor
  · rintro ⟨hvalid, hfound⟩
    obtain ⟨e, he⟩ := Option.isSome_iff_exists.mp hn
    refine ⟨_, rename_eq_ok_iff.mpr ⟨hvalid, fun p hp => ?_, e, he, rfl⟩⟩
    exact hfound
  · rintro ⟨doc', h⟩
    obtain ⟨hvalid, hfound, -⟩ := rename_eq_ok_iff.mp h
    exact ⟨hvalid, hfound _ rfl⟩

end PrefixRule

namespace Pass

variable {o : Overrides} {doc : Document} {p : Pass} {acc : Pass × Nat}
  {rule : PrefixRule} {n : Nat}

-- ================================================== a rule, one by one

/-- What notes and prefixes keep is kept by a rule. -/
theorem Settled.applyPrefix_induct {P : Pass → Prop}
    (hnotes : ∀ p es, P p → P { p with events := p.events ++ es })
    (hresolver : ∀ p r, P p → P { p with resolver := r })
    (hadd : ∀ acc : Pass × Nat, ∀ m ∈ rule.nodes doc o.resolver.aliases,
      P acc.1 → P (Pass.addPrefix rule acc m).1)
    (h : p.Settled o doc) (hp : P p) :
    P (p.applyPrefix (.ofDocument doc) rule) := by
  obtain ⟨es, hrule⟩ := applyPrefix_notes (.ofDocument doc) p rule
  rw [hrule, (h.resolve rule).1]
  refine hnotes _ es (List.foldlRecOn _ _
    (motive := fun acc : Pass × Nat => P acc.1) (hresolver p _ hp) ?_)
  exact fun acc hacc m hm => hadd acc m hm hacc

/-- Rules may be carried out one after the other. -/
theorem Settled.rules_induct {P : Pass → Prop} {rules : List PrefixRule}
    (hrules : rules ⊆ o.config.namespaces.elements)
    (hnotes : ∀ p es, P p → P { p with events := p.events ++ es })
    (hresolver : ∀ p r, P p → P { p with resolver := r })
    (hadd : ∀ rule ∈ rules, ∀ acc : Pass × Nat,
      ∀ m ∈ rule.nodes doc o.resolver.aliases,
        P acc.1 → P (Pass.addPrefix rule acc m).1)
    (h : p.Settled o doc) (hp : P p) :
    let q := rules.foldl (Pass.applyPrefix (.ofDocument doc)) p
    q.Settled o doc ∧ P q :=
  List.foldlRecOn _ _ (motive := fun p : Pass => p.Settled o doc ∧ P p)
    ⟨h, hp⟩ fun _ hq rule hrule =>
      ⟨hq.1.applyPrefix (hrules hrule),
        hq.1.applyPrefix_induct hnotes hresolver (hadd rule hrule) hq.2⟩

-- ============================================================ elements

/-- What a rule has left behind at an element: its prefix and the URI for
which the prefix stands there, if the element can take it; else a note. -/
structure Prefixed (doc : Document) (rule : PrefixRule) (n : Nat)
    (p : Pass) : Prop where
  renamed : rule.Takes p.doc n →
    p.doc.name? n = some ⟨some rule.nsPrefix, doc.localName n⟩
      ∧ p.doc.uri? n = p.doc.lookupNamespace n (some rule.nsPrefix)
  noted : (∀ why, .notRenamed rule.key (doc.pathOf n) why ∉ p.events) →
    rule.Takes p.doc n

theorem Prefixed.notes (h : p.Prefixed doc rule n) (es : List Event) :
    Prefixed doc rule n { p with events := p.events ++ es } :=
  ⟨h.renamed, fun hno =>
    h.noted fun why hmem => hno why (List.mem_append_left es hmem)⟩

/-- A new name for another element leaves it there. -/
theorem Prefixed.addPrefix (h : acc.1.Prefixed doc rule n)
    {other : PrefixRule} {m : Nat} (hm : n ≠ m) :
    (Pass.addPrefix other acc m).1.Prefixed doc rule n := by
  rw [Pass.addPrefix]
  split
  case h_2 why _ => exact h.notes [_]
  case h_1 d hd =>
      have hfound := lookupNamespace_rename hd (some rule.nsPrefix) n
      have helement : d.element? n = acc.1.doc.element? n := by
        obtain ⟨-, -, e, he, rfl⟩ := rename_eq_ok_iff.mp hd
        rw [element?_putElement (lt_of_element? he), if_neg hm]
      have hname : d.name? n = acc.1.doc.name? n := by
        rw [name?, helement, name?]
      have huri : d.uri? n = acc.1.doc.uri? n := by
        rw [uri?, helement, uri?]
      have htakes : rule.Takes d n ↔ rule.Takes acc.1.doc n := by
        rw [PrefixRule.Takes, localName, hname, hfound]
        rfl
      refine ⟨fun ht => ?_, fun hno => htakes.mpr (h.noted hno)⟩
      rw [hname, huri, hfound]
      exact h.renamed (htakes.mp ht)

/-- A rule leaves its mark on an element that it comes to. -/
theorem prefixed_addPrefix (hl : doc.Linked) (hn : doc.isElement n = true)
    (h : doc.SameOutline acc.1.doc) (rule : PrefixRule) :
    (Pass.addPrefix rule acc n).1.Prefixed doc rule n := by
  have hiff : rule.Takes acc.1.doc n ↔ _ :=
    PrefixRule.takes_iff_rename ((h.isElement n).trans hn)
  rw [Pass.addPrefix]
  cases hd : acc.1.doc.rename n
      ⟨some rule.nsPrefix, acc.1.doc.localName n⟩ with
  | error why =>
      have hnot : ¬ rule.Takes acc.1.doc n := by
        intro ht
        obtain ⟨d, hok⟩ := hiff.mp ht
        cases hd.symm.trans hok
      refine ⟨fun ht => absurd ht hnot, fun hno => absurd ?_ (hno why)⟩
      refine List.mem_append_right _ (List.mem_singleton.mpr ?_)
      rw [h.pathOf hl hn]
  | ok d =>
      have hfound := lookupNamespace_rename hd (some rule.nsPrefix) n
      have htakes := hiff.mpr ⟨d, hd⟩
      have hname : d.name? n
          = some ⟨some rule.nsPrefix, acc.1.doc.localName n⟩ := by
        obtain ⟨-, -, e, he, rfl⟩ := rename_eq_ok_iff.mp hd
        rw [name?, element?_putElement (lt_of_element? he), if_pos rfl]
        rfl
      have huri : d.uri? n
          = acc.1.doc.lookupNamespace n (some rule.nsPrefix) := by
        obtain ⟨-, -, e, he, rfl⟩ := rename_eq_ok_iff.mp hd
        rw [uri?, element?_putElement (lt_of_element? he), if_pos rfl]
        rfl
      have hlocal : d.localName n = acc.1.doc.localName n := by
        rw [localName, hname]
        rfl
      refine ⟨fun _ => ⟨?_, huri.trans hfound.symm⟩, fun _ => ?_⟩
      · rw [hname, h.localName n]
      · rw [PrefixRule.Takes, hlocal, hfound]
        exact htakes

/-- So it does on every element that it resolves to. -/
theorem Settled.prefixed (h : p.Settled o doc) (hl : doc.Linked)
    (hrule : rule ∈ o.config.namespaces.elements)
    (hmem : n ∈ rule.nodes doc o.resolver.aliases)
    (hn : doc.isElement n = true) :
    (p.applyPrefix (.ofDocument doc) rule).Prefixed doc rule n := by
  obtain ⟨es, heq⟩ := applyPrefix_notes (.ofDocument doc) p rule
  rw [heq, (h.resolve rule).1]
  refine Prefixed.notes ?_ es
  obtain ⟨before, after, hsplit⟩ := List.append_of_mem hmem
  rw [hsplit, List.foldl_append, List.foldl_cons]
  have hbefore : (before.foldl (Pass.addPrefix rule)
      ((p.resolve (.ofDocument doc) rule.address).2, 0)).1.Settled o doc :=
    List.foldlRecOn _ _
      (motive := fun acc : Pass × Nat => acc.1.Settled o doc)
      (h.resolve rule).2 fun acc hacc m hm =>
        hacc.addPrefix hrule (hsplit ▸ List.mem_append_left _ hm)
  -- the element may come again
  refine (List.foldlRecOn after _ (motive := fun acc : Pass × Nat =>
      acc.1.Settled o doc ∧ acc.1.Prefixed doc rule n)
    ⟨hbefore.addPrefix hrule hmem,
      prefixed_addPrefix hl hn hbefore.confines.outline rule⟩ ?_).2
  rintro acc ⟨hsettled, hmarked⟩ m hm
  have hnext : m ∈ rule.nodes doc o.resolver.aliases :=
    hsplit ▸ List.mem_append_right _ (List.mem_cons_of_mem n hm)
  refine ⟨hsettled.addPrefix hrule hnext, ?_⟩
  by_cases hsame : n = m
  · rw [← hsame]
    exact prefixed_addPrefix hl hn hsettled.confines.outline rule
  · exact hmarked.addPrefix hsame

/-- The rules that come later leave an element alone to which none of them
resolves. -/
theorem Settled.prefixed_rules (h : p.Settled o doc) (hl : doc.Linked)
    {before after : List PrefixRule}
    (hrules : before ++ rule :: after ⊆ o.config.namespaces.elements)
    (hmem : n ∈ rule.nodes doc o.resolver.aliases)
    (hlast : ∀ later ∈ after, n ∉ later.nodes doc o.resolver.aliases)
    (hn : doc.isElement n = true) :
    ((before ++ rule :: after).foldl (Pass.applyPrefix (.ofDocument doc))
      p).Prefixed doc rule n := by
  rw [List.append_subset, List.cons_subset] at hrules
  obtain ⟨hfront, hrule, hback⟩ := hrules
  have hbefore : (before.foldl (Pass.applyPrefix (.ofDocument doc))
      p).Settled o doc :=
    List.foldlRecOn _ _ (motive := fun p : Pass => p.Settled o doc) h
      fun q hq earlier hearlier => hq.applyPrefix (hfront hearlier)
  rw [List.foldl_append, List.foldl_cons]
  refine ((hbefore.applyPrefix hrule).rules_induct hback
    (fun _ es hq => hq.notes es) (fun _ _ hq => ⟨hq.renamed, hq.noted⟩)
    (fun later hlater acc m hm hq => hq.addPrefix ?_)
    (hbefore.prefixed hl hrule hmem hn)).2
  rintro rfl
  exact hlast later hlater hm

-- ======================================================== declarations

/-- Whether the root declares a prefix, unless that was refused. -/
def Declares (nsPrefix uri : String) (p : Pass) : Prop :=
  (∀ why, .undeclared (QName.declaring (some nsPrefix)).qualified why
    ∉ p.events) →
  p.doc.attribute? p.doc.root (QName.declaring (some nsPrefix)).qualified
    = some uri

variable {nsPrefix uri : String}

theorem Declares.notes (h : p.Declares nsPrefix uri) (es : List Event) :
    Declares nsPrefix uri { p with events := p.events ++ es } :=
  fun hno => h fun why hmem => hno why (List.mem_append_left es hmem)

/-- A prefix is declared once its declaration has been written to the root. -/
theorem declares_declare (nsPrefix uri : String) (p : Pass) :
    (p.declare (.declaring (some nsPrefix)) uri).Declares nsPrefix uri := by
  rw [declare]
  split
  case h_1 d hd =>
      have hroot : d.root = p.doc.root := by
        obtain ⟨-, -, e, he, rfl⟩ := setAttribute_eq_ok_iff.mp hd
        rfl
      intro _
      exact hroot ▸ attribute?_setAttribute_self hd
  case h_2 why hd =>
      exact fun hno => absurd
        (List.mem_append_right _ (List.mem_singleton.mpr rfl)) (hno why)

/-- Another declaration leaves it there. -/
theorem Declares.declare (h : p.Declares nsPrefix uri) {other : String}
    (hne : other ≠ nsPrefix) (value : String) :
    (p.declare (.declaring (some other)) value).Declares nsPrefix uri := by
  rw [Pass.declare]
  split
  case h_2 why _ => exact h.notes [_]
  case h_1 d hd =>
      have hroot : d.root = p.doc.root := by
        obtain ⟨-, -, e, he, rfl⟩ := setAttribute_eq_ok_iff.mp hd
        rfl
      have hspelled : (QName.declaring (some nsPrefix)).qualified
          ≠ (QName.declaring (some other)).qualified := by
        intro heq
        simp only [QName.declaring, QName.qualified,
          String.append_right_inj] at heq
        exact hne heq.symm
      refine Declares.notes (p := { p with doc := d }) (fun hno => ?_) [_]
      show d.attribute? d.root _ = _
      rw [attribute?_setAttribute_of_ne hd hspelled, hroot]
      exact h hno

/-- So does a new name. -/
theorem Declares.addPrefix (h : acc.1.Declares nsPrefix uri)
    (rule : PrefixRule) (m : Nat) :
    (Pass.addPrefix rule acc m).1.Declares nsPrefix uri := by
  rw [Pass.addPrefix]
  split
  case h_2 why _ => exact h.notes [_]
  case h_1 d hd =>
      have hroot : d.root = acc.1.doc.root := by
        obtain ⟨-, -, e, he, rfl⟩ := rename_eq_ok_iff.mp hd
        rfl
      intro hno
      show d.attribute? d.root _ = _
      rw [attribute?, attributes_rename hd, hroot]
      exact h hno

/-- Of several declarations of a prefix the last one stays. -/
theorem declares_foldl {entries : Table String}
    (h : Table.find? nsPrefix entries = some uri) (p : Pass) :
    (entries.reverse.foldl
      (fun p (name, uri) => p.declare (.declaring (some name)) uri)
      p).Declares nsPrefix uri := by
  induction entries with
  | nil => cases h
  | cons entry entries ih =>
      rw [List.reverse_cons, List.foldl_append, List.foldl_cons,
        List.foldl_nil]
      rw [Table.find?] at h
      split at h
      case isTrue hname =>
          cases h
          rw [← beq_iff_eq.mp hname]
          exact declares_declare _ _ _
      case isFalse hname =>
          exact (ih h).declare (fun heq => hname (beq_iff_eq.mpr heq)) _

/-- When the declarations are made, each prefix is declared as it is
configured. -/
theorem declares_declared {rules : NamespaceRules}
    (h : rules.uriOf? nsPrefix = some uri) (p : Pass) :
    (p.declared rules).Declares nsPrefix uri := by
  rw [declared, ← List.reverse_reverse rules.prefixes]
  exact declares_foldl h _

end Pass

namespace Overrides

variable {doc : Document}

/-- Rules resolve to elements that are attached. -/
theorem element_of_mem_nodes (hl : doc.Linked) (hs : doc.Sound)
    {rule : PrefixRule} {aliases : Table String} {n : Nat}
    (hn : n ∈ rule.nodes doc aliases) :
    doc.isElement n = true ∧ doc.isAttached n = true := by
  obtain ⟨entry, hentry, rfl⟩ :=
    ElementIndex.exists_entry_of_mem_resolve hn
  have hof := ElementIndex.isOf_of_mem_entries hl hs.root hentry
  exact ⟨hof.element, hof.attached⟩

/-- The names of attributes are those of their spelling after a pass. -/
theorem canonical_apply {s : String} (hdoc : parse s = some doc)
    (o : Overrides) : (o.apply doc).2.1.Canonical := by
  refine o.apply_induct (sound_of_parse hdoc) (fun w _ d d' hput h => ?_)
    (fun _ _ _ _ _ hset h => h.setAttribute hset)
    (fun _ _ _ _ hrename h => h.rename hrename) (canonical_of_parse hdoc)
  rw [Slot.put] at hput
  split at hput
  · exact h.setAttribute hput
  · exact h.setText hput

/-- What a rule for prefixes makes of an element for which no later rule
comes. Unless the rule logs an error for the element, it can take the
prefix; and if it can, it has the prefix of the rule, and the URI for
which this prefix stands there at the end. That is the configured URI if
the prefix is not `xml`, if its declaration was not refused, and if nobody
on the way up from the element declares it but the root. -/
theorem apply_gives_prefixes {s : String} (hdoc : parse s = some doc)
    (o : Overrides) {before after : List PrefixRule} {rule : PrefixRule}
    (hrules : o.config.namespaces.elements = before ++ rule :: after)
    {n : Nat} (hn : n ∈ rule.nodes doc o.resolver.aliases)
    (hlast : ∀ later ∈ after, n ∉ later.nodes doc o.resolver.aliases) :
    let out := (o.apply doc).2.1
    let events := (o.apply doc).1.events
    let found := out.lookupNamespace n (some rule.nsPrefix)
    ((∀ why, .notRenamed rule.key (doc.pathOf n) why ∉ events) →
        rule.Takes out n)
      ∧ (rule.Takes out n →
        out.name? n = some ⟨some rule.nsPrefix, doc.localName n⟩
          ∧ out.uri? n = found)
      ∧ ∀ uri, o.config.namespaces.uriOf? rule.nsPrefix = some uri →
        rule.Takes out n → rule.nsPrefix ≠ "xml" →
        (∀ why, .undeclared
          (QName.declaring (some rule.nsPrefix)).qualified why ∉ events) →
        (∀ a ∈ out.lineage n, a ≠ out.root →
          out.declaration? (some rule.nsPrefix) a = none) →
        found = some uri := by
  intro out events found
  have hl := linked_of_parse hdoc
  have hs := sound_of_parse hdoc
  have houtline := (o.confines_apply hdoc).outline
  have hcanonical := o.canonical_apply hdoc
  obtain ⟨hel, hattached⟩ := element_of_mem_nodes hl hs hn
  have hsettled := (o.settled_assigned hdoc).declared
  have hmarked : Pass.Prefixed doc rule n
      ((o.assigned doc).applyNamespaces (.ofDocument doc)
        o.config.namespaces) := by
    rw [Pass.applyNamespaces_eq, hrules]
    exact hsettled.prefixed_rules hl (hrules ▸ List.Subset.refl _) hn
      hlast hel
  refine ⟨hmarked.noted, hmarked.renamed,
    fun uri huri htakes hxml hmade honly => ?_⟩
  have hdeclares : Pass.Declares rule.nsPrefix uri
      ((o.assigned doc).applyNamespaces (.ofDocument doc)
        o.config.namespaces) :=
    (hsettled.rules_induct (List.Subset.refl _) (fun _ es hq => hq.notes es)
      (fun _ _ hq => hq) (fun later _ acc m _ hq => hq.addPrefix later m)
      (Pass.declares_declared huri _)).2
  have hne : rule.nsPrefix ≠ "" := by
    intro hempty
    have hnone := htakes.2
    rw [hempty] at hnone
    exact hnone (hcanonical.lookupNamespace_empty n)
  have hroot : out.root ∈ out.lineage n := by
    rw [houtline.lineage hl hel, houtline.root]
    exact List.contains_iff_mem.mp hattached
  have hdecl : out.declaration? (some rule.nsPrefix) out.root = some uri :=
    (hcanonical.declaration?_eq hne _).trans (hdeclares hmade)
  have hfound : found = (some uri).filter (· != "") :=
    lookupNamespace_of_only hxml hroot hdecl fun a ha hd =>
      by_contra fun hother => hd (honly a ha hother)
  obtain ⟨value, hvalue⟩ := Option.ne_none_iff_exists'.mp htakes.2
  obtain ⟨huri, -⟩ :=
    Option.filter_eq_some_iff.mp (hfound.symm.trans hvalue)
  exact hvalue.trans huri.symm

/-- A configuration that gives a prefix to elements. -/
def prefixing : String :=
  "\x7b\"schema\": \"s\", \"mode\": \"complete\", \"namespaces\":"
    ++ " \x7b\"prefixes\": \x7b\"p\": \"urn:p\"\x7d,"
    ++ " \"elements\": \x7b\"a\": \"p\"\x7d\x7d\x7d"

/-- An element below the root gets the prefix and its URI. -/
theorem apply_gives_prefixes_below_root :
    ∃ doc o rule, parse "<r><a/></r>" = some doc
      ∧ configuredBy prefixing = some o
      ∧ o.config.namespaces.elements = [] ++ rule :: []
      ∧ 1 ∈ rule.nodes doc o.resolver.aliases
      ∧ (o.apply doc).1.issues = []
      ∧ (o.apply doc).2.1.name? 1 = some ⟨some "p", "a"⟩
      ∧ (o.apply doc).2.1.uri? 1 = some "urn:p" := by
  have hview : ((configuredBy prefixing).bind fun o =>
      (parse "<r><a/></r>").map fun doc =>
        (o.config.namespaces.elements.map fun rule =>
            (rule.nsPrefix, rule.nodes doc o.resolver.aliases),
          o.config.namespaces.uriOf? "p", (o.apply doc).1.issues,
          doc.localName 1,
          decide (∀ a ∈ (o.apply doc).2.1.lineage 1,
            a ≠ (o.apply doc).2.1.root →
              (o.apply doc).2.1.declaration? (some "p") a = none)))
      = some ([("p", [1])], some "urn:p", [], "a", true) := by
    decide +kernel
  obtain ⟨o, ho, hview⟩ := Option.bind_eq_some_iff.mp hview
  obtain ⟨doc, hdoc, hview⟩ := Option.map_eq_some_iff.mp hview
  simp only [Prod.mk.injEq, List.map_eq_singleton_iff,
    decide_eq_true_eq] at hview
  obtain ⟨⟨rule, hrules, hgiven, hnodes⟩, huri, hissues, hlocal, honly⟩ :=
    hview
  have hmem : 1 ∈ rule.nodes doc o.resolver.aliases := by simp [hnodes]
  have hquiet : ∀ e ∈ (o.apply doc).1.events, e.issue? = none := by
    rw [PassReport.issues, List.append_eq_nil_iff,
      List.filterMap_eq_nil_iff] at hissues
    exact hissues.1
  have hsplit : o.config.namespaces.elements = [] ++ rule :: [] := hrules
  obtain ⟨hnoted, hrenamed, hfound⟩ :=
    apply_gives_prefixes hdoc o hsplit hmem fun _ hlater =>
      absurd hlater List.not_mem_nil
  have htakes := hnoted fun why he => by cases hquiet _ he
  obtain ⟨hname, hurl⟩ := hrenamed htakes
  have hstands := hfound "urn:p" (hgiven ▸ huri) htakes
    (by simp [hgiven]) (fun why he => by cases hquiet _ he)
    (hgiven ▸ honly)
  exact ⟨doc, o, rule, hdoc, ho, hsplit, hmem, hissues,
    by rw [hname, hgiven, hlocal], hurl.trans hstands⟩

/-- An element that stands below another declaration of the prefix gets
that namespace. No error is logged. -/
theorem nearer_declaration_wins :
    ∃ doc o rule,
      parse "<r><x xmlns:p=\"urn:other\"><a/></x></r>" = some doc
        ∧ configuredBy prefixing = some o
        ∧ o.config.namespaces.elements = [rule]
        ∧ 2 ∈ rule.nodes doc o.resolver.aliases
        ∧ rule.nsPrefix = "p"
        ∧ o.config.namespaces.uriOf? "p" = some "urn:p"
        ∧ (o.apply doc).1.issues = []
        ∧ (o.apply doc).2.1.name? 2 = some ⟨some "p", "a"⟩
        ∧ (o.apply doc).2.1.uri? 2 = some "urn:other" := by
  have hview : ((configuredBy prefixing).bind fun o =>
      (parse "<r><x xmlns:p=\"urn:other\"><a/></x></r>").map fun doc =>
        (o.config.namespaces.elements.map fun rule =>
            (rule.nsPrefix, rule.nodes doc o.resolver.aliases),
          o.config.namespaces.uriOf? "p", (o.apply doc).1.issues,
          decide ((o.apply doc).2.1.name? 2 = some ⟨some "p", "a"⟩
            ∧ (o.apply doc).2.1.uri? 2 = some "urn:other")))
      = some ([("p", [2])], some "urn:p", [], true) := by
    decide +kernel
  obtain ⟨o, ho, hview⟩ := Option.bind_eq_some_iff.mp hview
  obtain ⟨doc, hdoc, hview⟩ := Option.map_eq_some_iff.mp hview
  simp only [Prod.mk.injEq, List.map_eq_singleton_iff,
    decide_eq_true_eq] at hview
  obtain ⟨⟨rule, hrules, hgiven, hnodes⟩, huri, hissues, hout⟩ := hview
  exact ⟨doc, o, rule, hdoc, ho, hrules, by simp [hnodes], hgiven, huri,
    hissues, hout⟩

end Overrides

end Overlay
