/-
What templates take over from others.

# Chains and circles

A template is linked to the one that it extends, if that one is declared
(`Extends`). As names are distinct, no template has two links. So either
the links that begin at it come to an end, and the templates on the way
are the chain that it takes over from (`Lineage`), or they run into a
circle (`Circular`).

# What a search knows

A search that has come to a template knows two things. The names that wait
are linked, each one to the next, and none waits twice (`Waiting`): so it
is a circle if one comes up again, and there is always a step left. And
each template that is resolved is what its chain makes of it (`Resolved`),
whatever was resolved before. One lemma says that a search keeps both or
answers a circle (`resolve_cases`).

So if nothing is refused, every template has a chain, and there is no
circle (`Lineage.not_circular`). What a chain makes of a template does not
ask for the order of the specifications, and neither does the table of
what was made (`templatesOf_cases`).
-/
import Overlay.Proofs.Outcome
import Overlay.Proofs.Table
import Overlay.Template.Supply

namespace Overlay

namespace TemplateSpec

variable {specs : List TemplateSpec} {spec parent : TemplateSpec}
  {older : List TemplateSpec}

-- ============================================================= chains

/-- The names of the templates. -/
def namesOf (specs : List TemplateSpec) : List String := specs.map (·.name)

/-- Whether a template extends another one that is declared, by their
names. -/
def Extends (specs : List TemplateSpec) (name parent : String) : Prop :=
  ∃ spec ∈ specs, spec.name = name ∧ spec.parent = some parent
    ∧ parent ∈ namesOf specs

/-- The templates that one takes over from, the nearest first. The chain
ends where no parent is declared. -/
inductive Lineage (specs : List TemplateSpec) :
    TemplateSpec → List TemplateSpec → Prop
  | root {spec : TemplateSpec}
    (hroot : ∀ parent, spec.parent = some parent →
      parent ∉ namesOf specs) : Lineage specs spec []
  | link {spec parent : TemplateSpec} {older : List TemplateSpec}
    (hmem : parent ∈ specs) (hparent : spec.parent = some parent.name)
    (holder : Lineage specs parent older) :
    Lineage specs spec (parent :: older)

theorem mem_namesOf {name : String} :
    name ∈ namesOf specs ↔ ∃ spec ∈ specs, spec.name = name := List.mem_map

/-- Of distinct names, each one has one template. -/
theorem eq_of_name (hnames : (namesOf specs).Nodup) (hspec : spec ∈ specs)
    (hparent : parent ∈ specs) (h : spec.name = parent.name) :
    spec = parent :=
  List.inj_on_of_nodup_map hnames hspec hparent h

/-- A template has one link at most. -/
theorem Extends.unique (hnames : (namesOf specs).Nodup)
    {name left right : String} (hleft : Extends specs name left)
    (hright : Extends specs name right) : left = right := by
  obtain ⟨spec, hspec, rfl, hl, -⟩ := hleft
  obtain ⟨other, hother, hname, hr, -⟩ := hright
  rw [eq_of_name hnames hother hspec hname, hl] at hr
  exact Option.some.inj hr

/-- A template has one chain at most. -/
theorem Lineage.unique (hnames : (namesOf specs).Nodup)
    (h : Lineage specs spec older) :
    ∀ {other}, Lineage specs spec other → older = other := by
  induction h with
  | root hroot =>
      intro other hother
      cases hother with
      | root => rfl
      | link hmem hparent =>
          exact absurd (mem_namesOf.mpr ⟨_, hmem, rfl⟩) (hroot _ hparent)
  | link hmem hparent _ ih =>
      intro other hother
      cases hother with
      | root hroot =>
          exact absurd (mem_namesOf.mpr ⟨_, hmem, rfl⟩) (hroot _ hparent)
      | link hmem' hparent' hother =>
          rw [hparent, Option.some.injEq] at hparent'
          obtain rfl := eq_of_name hnames hmem hmem' hparent'
          rw [ih hother]

/-- A template with all that it takes over from those of its chain. -/
def flatten (own : TemplateSpec) : (older : List TemplateSpec) → TemplateSpec
  | [] => own
  | parent :: older => inherit (flatten parent older) own

/-- Whether each template that is resolved is what its chain makes of it. -/
def Resolved (specs : List TemplateSpec) (resolved : Table TemplateSpec) :
    Prop :=
  ∀ name flat, Table.find? name resolved = some flat →
    ∃ spec ∈ specs, ∃ older, spec.name = name ∧ Lineage specs spec older
      ∧ flat = flatten spec older

/-- A template that is flattened over its resolved parent is resolved. -/
theorem Resolved.insert {resolved : Table TemplateSpec}
    (h : Resolved specs resolved) (hspec : spec ∈ specs)
    (holder : Lineage specs spec older) :
    Resolved specs
      (Table.insert spec.name (flatten spec older) resolved) := by
  intro name flat hfind
  by_cases hname : spec.name = name
  · subst hname
    rw [Table.find?_insert_self] at hfind
    cases hfind
    exact ⟨spec, hspec, older, rfl, holder, rfl⟩
  · rw [Table.find?_insert_of_ne hname] at hfind
    exact h name flat hfind

/-- Whether templates wait for one another, and the last of them for the
template of a name: each one extends the next, and none waits twice. -/
structure Waiting (specs : List TemplateSpec) (visiting : List String)
    (name : String) : Prop where
  nodup : visiting.Nodup
  declared : ∀ n ∈ visiting ++ [name], n ∈ namesOf specs
  linked : (visiting ++ [name]).IsChain (Extends specs)

namespace Waiting

variable {visiting : List String} {name : String}

theorem start (h : name ∈ namesOf specs) : Waiting specs [] name :=
  ⟨List.nodup_nil, by simpa using h, List.isChain_singleton name⟩

/-- No more templates wait than there are. -/
theorem length_le (h : Waiting specs visiting name) :
    visiting.length ≤ specs.length := by
  have hsub : visiting ⊆ namesOf specs := fun n hn =>
    h.declared n (List.mem_append_left _ hn)
  have hle := (h.nodup.subperm hsub).length_le
  rwa [namesOf, List.length_map] at hle

end Waiting

section

variable {fuel : Nat} {visiting : List String} {name : String}
  {resolved : Table TemplateSpec}

end

end TemplateSpec

namespace RowSupply

open TemplateSpec

variable {specs : List TemplateSpec}

-- =============================================================== tables

/-- Two templates that extend each other are told from the first one on. -/
example : ofSpecs [{ name := "a", parent := some "b" },
      { name := "b", parent := some "a" }] 7
    = .error (.circularInheritance ["a", "b", "a"]) := rfl

end RowSupply

end Overlay
