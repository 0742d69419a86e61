/-
Checking configurations: whether a file holds one that can be used, what is in
it, and what is odd about its templates.
-/
import Overlay.Config.File
import Overlay.Template.Review

namespace Overlay

/-- How many entries the parts of a configuration have. -/
structure SectionCounts where
  values : Nat
  patterns : Nat
  choices : Nat
  templates : Nat
  repeats : Nat
  attributes : Nat
  /-- The rules that give elements a prefix. -/
  prefixRules : Nat
  deriving DecidableEq, Repr

/-- How many entries the parts of a configuration have. -/
def Config.counts (c : Config) : SectionCounts :=
  { values := c.values.length
    patterns := c.patterns.length
    choices := c.choices.length
    templates := c.templates.length
    repeats := c.repeats.length
    attributes := c.attributes.length
    prefixRules := c.namespaces.elements.length }

/-- What is told about a file that is checked. -/
structure ConfigCheck where
  path : String
  /-- The configuration, if there is one; its templates may still be unusable.
  -/
  config : Option Config
  /-- Why the file cannot be used; none if it can be. -/
  problems : List String
  /-- What is odd about the templates. -/
  remarks : List String

namespace ConfigCheck

/-- Whether the file can be used. -/
def isValid (c : ConfigCheck) : Bool := c.problems.isEmpty

/-- Checks a file, by its path and what reading it has given. -/
def ofFile (path : String) (content : Except FileFault String) : ConfigCheck :=
  match Config.ofFile path content with
  | .error why => ⟨path, none, why.problems, []⟩
  | .ok c =>
    match RowSupply.ofSpecs c.templates 0 with
    | .error why => ⟨path, some c, why.problems, []⟩
    | .ok rows => ⟨path, some c, [], rows.review.map TemplateRemark.message⟩

end ConfigCheck

end Overlay
