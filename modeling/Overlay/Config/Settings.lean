/-
The defaults of the tool, from a settings file. Every setting may be missing;
of several files the first one that has a setting decides about it. The command
that makes a baseline and its arguments belong together: arguments are only
taken over along with a command.

A group of settings is a table, or a list of all its settings in order. A time
in the place of a group is taken for a group without settings.
-/
import Overlay.Toml.Reader

namespace Overlay

/-- How documents are written. -/
structure OutputSettings where
  indent : Option Nat := none
  declaration : Option Bool := none
  deriving DecidableEq, Repr, Inhabited

/-- The command that makes a baseline. -/
structure BaselineSettings where
  command : Option String := none
  args : Option (List String) := none
  deriving DecidableEq, Repr, Inhabited

/-- Where messages are logged. -/
structure LogSettings where
  dir : Option String := none
  level : Option String := none
  deriving DecidableEq, Repr, Inhabited

/-- Where schemas are written. -/
structure SchemaSettings where
  outDir : Option String := none
  deriving DecidableEq, Repr, Inhabited

/-- The settings of the tool. -/
structure Settings where
  mode : Option String := none
  seed : Option Nat := none
  strict : Option Bool := none
  output : Option OutputSettings := none
  baseline : Option BaselineSettings := none
  log : Option LogSettings := none
  schema : Option SchemaSettings := none
  deriving DecidableEq, Repr, Inhabited

namespace Settings

-- ===== reading

/-- A boolean. -/
def bool? : Json → Option Bool
  | .bool b => some b
  | _ => none

/-- A natural of 63 bits; settings have no greater ones. -/
def natural? (v : Json) : Option Nat := v.natural? (twoTo 63)

/-- A list of texts. -/
def texts? (v : Json) : Option (List String) :=
  v.list?.bind fun items => items.mapM Json.text?

/-- A setting that may be missing, but not malformed. -/
def optional {α : Type} (read : Json → Option α) (fields : Json.Fields)
    (name : String) : Option (Option α) :=
  match Table.find? name fields with
  | none => some none
  | some v => (read v).map some

/-- The fields of a group with these names: those of a table, or the items of a
list, which must be as many at least. -/
def group? (names : List String) (v : Json) : Option Json.Fields :=
  match v with
  | .object fields => some fields
  | .list items =>
    if items.length < names.length then none else some (names.zip items)
  | _ => none

/-- The group about written documents. -/
def readOutput (v : Json) : Option OutputSettings := do
  let fields ← group? ["indent", "declaration"] v
  some ⟨← optional natural? fields "indent",
    ← optional bool? fields "declaration"⟩

/-- The group about the baseline. -/
def readBaseline (v : Json) : Option BaselineSettings := do
  let fields ← group? ["command", "args"] v
  some ⟨← optional Json.text? fields "command", ← optional texts? fields "args"⟩

/-- The group about logging. -/
def readLog (v : Json) : Option LogSettings := do
  let fields ← group? ["dir", "level"] v
  some ⟨← optional Json.text? fields "dir",
    ← optional Json.text? fields "level"⟩

/-- The group about schemas. -/
def readSchema (v : Json) : Option SchemaSettings := do
  let fields ← group? ["out_dir"] v
  some ⟨← optional Json.text? fields "out_dir"⟩

/-- Reads a settings file. Unknown settings are passed over; a malformed one
spoils the file. -/
def parse? (text : String) : Option Settings := do
  let fields ← (← Toml.read? text).object?
  some {
    mode := ← optional Json.text? fields "mode"
    seed := ← optional natural? fields "seed"
    strict := ← optional bool? fields "strict"
    output := ← optional readOutput fields "output"
    baseline := ← optional readBaseline fields "baseline"
    log := ← optional readLog fields "log"
    schema := ← optional readSchema fields "schema" }

-- ===== merging

/-- Both groups, merged, or the only one there is. -/
def either {α : Type} (merge : α → α → α) : Option α → Option α → Option α
  | some a, some b => some (merge a b)
  | some a, none => some a
  | none, b => b

/-- The settings of `a`, and those of `b` where `a` has none. -/
def mergeOutput (a b : OutputSettings) : OutputSettings :=
  ⟨a.indent <|> b.indent, a.declaration <|> b.declaration⟩

/-- The settings of `a`, and those of `b` where `a` has no command. -/
def mergeBaseline (a b : BaselineSettings) : BaselineSettings :=
  if a.command.isSome then a else ⟨b.command, a.args <|> b.args⟩

/-- The settings of `a`, and those of `b` where `a` has none. -/
def mergeLog (a b : LogSettings) : LogSettings :=
  ⟨a.dir <|> b.dir, a.level <|> b.level⟩

/-- The settings of `a`, and those of `b` where `a` has none. -/
def mergeSchema (a b : SchemaSettings) : SchemaSettings :=
  ⟨a.outDir <|> b.outDir⟩

/-- The settings of `a`, and those of `b` where `a` has none. -/
def merge (a b : Settings) : Settings :=
  { mode := a.mode <|> b.mode
    seed := a.seed <|> b.seed
    strict := a.strict <|> b.strict
    output := either mergeOutput a.output b.output
    baseline := either mergeBaseline a.baseline b.baseline
    log := either mergeLog a.log b.log
    schema := either mergeSchema a.schema b.schema }

end Settings

end Overlay
