/-
Reading command lines. Arguments are read from left to right, and the first
thing that ends the reading decides: a fault, a request for help or for the
version, or at the end what is missing.

An option is written `--name value`, `--name=value`, `-n value`, `-nvalue` or
`-n=value`; options of one letter may share a hyphen. After a lone `--`
everything is an operand.
-/
import Overlay.CommandLine.Grammar

namespace Overlay.CommandLine

open Text

/-- What is wrong with a command line. -/
inductive UsageFault
  | unknownOption (text : String)
  | unknownCommand (text : String)
  | unexpectedOperand (text : String)
  | missingValue (option : OptionForm)
  | unwantedValue (option : OptionForm) (value : String)
  | badValue (form : ValueForm) (value : String)
  | repeated (option : OptionForm)
  /-- Options or operands that have to be given. -/
  | missing (labels : List String)
  | missingCommand

/-- The text of a fault. -/
def UsageFault.message : UsageFault → String
  | .unknownOption text => "unexpected argument '" ++ text ++ "' found"
  | .unknownCommand text => "unrecognized subcommand '" ++ text ++ "'"
  | .unexpectedOperand text => "unexpected argument '" ++ text ++ "' found"
  | .missingValue o =>
    "a value is required for '" ++ o.label ++ "' but none was supplied"
  | .unwantedValue o value =>
    "unexpected value '" ++ value ++ "' for '" ++ o.label
      ++ "' found; no more were expected"
  | .badValue form value =>
    "invalid value '" ++ value ++ "' for '<" ++ form.name ++ ">'"
  | .repeated o =>
    "the argument '" ++ o.label ++ "' cannot be used multiple times"
  | .missing labels =>
    "the following required arguments were not provided: " ++ join ", " labels
  | .missingCommand => "a subcommand is required"

/-- Why the reading ends before all arguments are read. -/
inductive Stop
  | help
  | version
  | fault (why : UsageFault)

/-- What a command line gives to a command. -/
structure Given where
  /-- The options by their long names, in the order in which they are written;
  a flag has an empty value. -/
  options : List (String × String) := []
  operands : List String := []
  deriving Inhabited

namespace Given

/-- The values of an option. -/
def valuesOf (g : Given) (long : String) : List String :=
  (g.options.filter (·.1 == long)).map (·.2)

/-- The value of an option that is given at most once. -/
def value? (g : Given) (long : String) : Option String :=
  (g.valuesOf long).head?

/-- Whether an option is given. -/
def has (g : Given) (long : String) : Bool := g.options.any (·.1 == long)

/-- The options with those of another part of the command line, as far as they
are not given here. -/
def orElse (g before : Given) : Given :=
  { g with options := g.options ++ before.options.filter fun o => !g.has o.1 }

/-- The value of an option, read further. -/
def read? {α : Type} (g : Given) (long : String) (read : String → Option α) :
    Option α :=
  (g.value? long).bind read

end Given

/-- A place in a command line. -/
structure Reading where
  given : Given := {}
  /-- The option whose value comes next. -/
  pending : Option OptionForm := none
  /-- Whether all that follows is an operand. -/
  onlyOperands : Bool := false

/-- What may come in a part of a command line. -/
structure Part where
  options : List OptionForm
  operands : Option ValueForm := none
  /-- The commands that may follow. -/
  commands : List String := []

/-- Whether an argument looks like an option. -/
def looksLikeOption (text : String) : Bool :=
  match text.toList with
  | '-' :: _ :: _ => true
  | _ => false

namespace Reading

/-- The reading with an option added. -/
def add (r : Reading) (o : OptionForm) (value : String) : Except Stop Reading :=
  if !o.repeats && r.given.has o.long then .error (.fault (.repeated o))
  else
    .ok { r with
      given := { r.given with options := r.given.options ++ [(o.long, value)] }
      pending := none }

/-- The reading with a value for an option. -/
def addValue (r : Reading) (o : OptionForm) (form : ValueForm)
    (value : String) : Except Stop Reading :=
  if form.kind.accepts value then r.add o value
  else .error (.fault (.badValue form value))

/-- The reading after an option; `attached` is the value that is written with
it. -/
def option (r : Reading) (o : OptionForm) (attached : Option String) :
    Except Stop Reading :=
  match o.effect, attached with
  | .value form, some value => r.addValue o form value
  | .value _, none => .ok { r with pending := some o }
  | _, some value => .error (.fault (.unwantedValue o value))
  | .flag, none => r.add o ""
  | .help, none => .error .help
  | .version, none => .error .version

/-- The reading after `--name` or `--name=value`, without the hyphens. -/
def long (part : Part) (r : Reading) (text : List Char) : Except Stop Reading :=
  let (name, attached) := match splitFirst? '=' text with
    | some (name, value) => (name, some (String.ofList value))
    | none => (text, none)
  match part.options.find? (·.long == String.ofList name) with
  | some o => r.option o attached
  | none => .error (.fault (.unknownOption ("--" ++ String.ofList name)))

/-- The reading after options of one letter, without the hyphen. -/
def short (part : Part) (r : Reading) : List Char → Except Stop Reading
  | [] => .ok r
  | c :: rest =>
    match part.options.find? (·.short == some c) with
    | none => .error (.fault (.unknownOption (String.ofList ['-', c])))
    | some o =>
      match o.value?, rest with
      | none, rest => do short part (← r.option o none) rest
      | some _, [] => r.option o none
      | some _, '=' :: value => r.option o (some (String.ofList value))
      | some _, value => r.option o (some (String.ofList value))

/-- The reading after an operand. -/
def operand (part : Part) (r : Reading) (text : String) : Except Stop Reading :=
  match part.operands with
  | some form =>
    if form.kind.accepts text then
      .ok { r with
        given := { r.given with operands := r.given.operands ++ [text] } }
    else .error (.fault (.badValue form text))
  | none =>
    .error (.fault (if part.commands.isEmpty then .unexpectedOperand text
      else .unknownCommand text))

/-- The reading after an argument that is no command. -/
def argument (part : Part) (r : Reading) (text : String) :
    Except Stop Reading :=
  match r.pending with
  | some o =>
    match o.value? with
    | some form =>
      if o.takesAnything || !looksLikeOption text then r.addValue o form text
      else .error (.fault (.missingValue o))
    | none => .error (.fault (.missingValue o))
  | none =>
    if r.onlyOperands then r.operand part text
    else
      match text.toList with
      | ['-', '-'] => .ok { r with onlyOperands := true }
      | '-' :: '-' :: name => r.long part name
      | '-' :: c :: rest => r.short part (c :: rest)
      | _ => r.operand part text

/-- The end of a part: no value may be missing. -/
def close (r : Reading) : Except Stop Given :=
  match r.pending with
  | some o => .error (.fault (.missingValue o))
  | none => .ok r.given

/-- Reads a part of a command line, up to the name of a command. -/
def readPart (part : Part) (r : Reading) :
    List String → Except Stop (Given × List String)
  | [] => do return (← r.close, [])
  | text :: rest =>
    if r.pending.isNone && !r.onlyOperands && part.commands.contains text then
      .ok (r.given, text :: rest)
    else do readPart part (← r.argument part text) rest

end Reading

/-- The names of what a command has to be given and is not. -/
def CommandForm.missing (c : CommandForm) (g : Given) : List String :=
  let options :=
    (c.options.filter fun o => o.required && !g.has o.long).map OptionForm.label
  match c.operands with
  | some form => if g.operands.isEmpty then options ++ [form.label] else options
  | none => options

/-- The grammar of a whole command line. -/
structure Grammar where
  name : String
  version : String
  about : String
  /-- The options that may stand anywhere. -/
  shared : List OptionForm
  /-- The options that ask for help and for the version. -/
  helpOption : OptionForm
  versionOption : OptionForm
  commands : List CommandForm

/-- What a command line asks for. -/
inductive Request
  /-- The command, and what is given to it and with it. -/
  | run (command : CommandForm) (given : Given)
  /-- The help text of a command, or of the whole. -/
  | help (command : Option CommandForm)
  /-- The help text of the request for help. -/
  | helpOnHelp
  | version
  | fault (why : UsageFault)

namespace Grammar

/-- The name of the command that asks for help. -/
def helpCommand : String := "help"

/-- A command by its name. -/
def command? (g : Grammar) (name : String) : Option CommandForm :=
  g.commands.find? (·.name == name)

/-- What comes before the name of a command. -/
def opening (g : Grammar) : Part :=
  { options := g.shared ++ [g.helpOption, g.versionOption]
    commands := g.commands.map (·.name) ++ [helpCommand] }

/-- What comes after the name of a command. -/
def rest (g : Grammar) (c : CommandForm) : Part :=
  { options := c.options ++ g.shared ++ [g.helpOption], operands := c.operands }

/-- What a stop asks for. -/
def stopped (command : Option CommandForm) : Stop → Request
  | .help => .help command
  | .version => .version
  | .fault why => .fault why

/-- What the command that asks for help is asked. -/
def readHelp (g : Grammar) : List String → Request
  | [] => .help none
  | [name] =>
    if name == helpCommand then .helpOnHelp
    else
      match g.command? name with
      | some c => .help (some c)
      | none => .fault (.unknownCommand name)
  | name :: next :: _ =>
    .fault (.unknownCommand
      (if name == helpCommand || (g.command? name).isSome then next else name))

/-- Reads what comes after the name of a command. Shared options may also stand
before the name. -/
def readCommand (g : Grammar) (before : Given) (c : CommandForm)
    (args : List String) : Request :=
  match Reading.readPart (g.rest c) {} args with
  | .error stop => stopped (some c) stop
  | .ok (given, _) =>
    match c.missing given with
    | [] => .run c (given.orElse before)
    | labels => .fault (.missing labels)

/-- Reads a command line. -/
def read (g : Grammar) (args : List String) : Request :=
  match Reading.readPart g.opening {} args with
  | .error stop => stopped none stop
  | .ok (_, []) => .fault .missingCommand
  | .ok (before, name :: rest) =>
    if name == helpCommand then g.readHelp rest
    else
      match g.command? name with
      | some c => g.readCommand before c rest
      | none => .fault (.unknownCommand name)

end Grammar

end Overlay.CommandLine
