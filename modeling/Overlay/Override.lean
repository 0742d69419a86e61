/-
Overrides: a configuration together with the sources of its values. They are
applied to documents in passes; what a pass draws from the sources stays drawn
until they are reset.
-/
import Overlay.Override.Pass

namespace Overlay

/-- The overrides of a configuration. -/
structure Overrides where
  config : Config
  resolver : PathResolver
  sources : Sources
  deriving Inhabited

namespace Overrides

/-- The overrides of a configuration. Random values come from its seed, or from
`freshSeed` if it has none. -/
def ofConfig (config : Config) (freshSeed : Nat) (today : Calendar.Date) :
    Except Failure Overrides := do
  let sources ←
    Sources.ofSpecs config.templates (config.seed.getD freshSeed) today
  return {
    config := config, resolver := .ofAliases config.namespaces.prefixes,
    sources := sources }

/-- The overrides as they were at the beginning. -/
def reset (o : Overrides) : Overrides := { o with sources := o.sources.reset }

/-- The templates in a few words. -/
def templates (o : Overrides) : List TemplateSummary := o.sources.rows.summary

/-- Applies the overrides to a document. -/
def apply (o : Overrides) (doc : Xml.Document) :
    PassReport × Xml.Document × Overrides :=
  let start : Pass :=
    { doc := doc, resolver := o.resolver, sources := o.sources.beginPass }
  let done := start.run (.ofDocument doc) o.config
  let (notes, rows) := RowSupply.takeIssues done.sources.rows
  (⟨done.events, notes⟩, done.doc,
    { o with
      resolver := done.resolver,
      sources := { done.sources with rows := rows } })

end Overrides

end Overlay
