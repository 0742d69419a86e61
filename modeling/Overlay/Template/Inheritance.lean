/-
Templates that extend others. A template takes over the fields and the computed
fields of the one it extends, and its rows if it has none itself; in which
order rows are drawn is its own affair. A template whose parent is not declared
stands alone.

Templates are resolved one after the other, each one after the one it extends.
A template that is resolved already is not looked at again; one that is still
being resolved closes a circle.
-/
import Overlay.Config

namespace Overlay.TemplateSpec

/-- A list of fields with those of another that it lacks at its end. -/
def mergeFields (fields more : List String) : List String :=
  more.foldl (fun all f => if all.contains f then all else all ++ [f]) fields

/-- Computed fields with another one, which takes the place of one of its name.
-/
def putComputed (c : ComputedSpec) : List ComputedSpec → List ComputedSpec
  | [] => [c]
  | other :: rest =>
    if other.name == c.name then c :: rest else other :: putComputed c rest

/-- A template with all that it takes over from the one it extends. -/
def inherit (parent child : TemplateSpec) : TemplateSpec :=
  { child with
    fields := mergeFields parent.fields child.fields
    computed :=
      child.computed.foldl (fun all c => putComputed c all) parent.computed
    rows := if child.rows.isEmpty then parent.rows else child.rows }

/-- The template of a name; of several ones the last. -/
def declared? (specs : List TemplateSpec) (name : String) :
    Option TemplateSpec :=
  specs.reverse.find? (·.name == name)

/-- The names that close a circle: those from `name` on, and `name` again. -/
def circle (visiting : List String) (name : String) : List String :=
  visiting.dropWhile (· != name) ++ [name]

/-- Resolves the template of a name, and those it extends before it, while
those of the names `visiting` wait for it; or, the names of a circle. One more
step than there are templates is enough, since no template waits twice. -/
def resolve (specs : List TemplateSpec) :
    (fuel : Nat) → (visiting : List String) → (name : String) →
      Table TemplateSpec → Except (List String) (Table TemplateSpec)
  | 0, _, _, resolved => .ok resolved
  | fuel + 1, visiting, name, resolved =>
    if Table.has name resolved then .ok resolved
    else if visiting.contains name then .error (circle visiting name)
    else
      match declared? specs name with
      | none => .ok resolved
      | some spec =>
        match spec.parent.filter fun parent =>
            (declared? specs parent).isSome with
        | none => .ok (Table.insert name spec resolved)
        | some parent => do
          let resolved ← resolve specs fuel (visiting ++ [name]) parent resolved
          match Table.find? parent resolved with
          | some above => return Table.insert name (inherit above spec) resolved
          | none => return Table.insert name spec resolved

/-- Resolves a template after others. -/
def resolveNext (specs : List TemplateSpec) (resolved : Table TemplateSpec)
    (spec : TemplateSpec) : Except (List String) (Table TemplateSpec) :=
  resolve specs (specs.length + 1) [] spec.name resolved

/-- Resolves all templates, by their names. -/
def resolveAll (specs : List TemplateSpec) :
    Except (List String) (Table TemplateSpec) :=
  specs.foldlM (resolveNext specs) []

end Overlay.TemplateSpec
