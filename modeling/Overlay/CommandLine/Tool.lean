/-
The tools that make baselines. A tool is named like a program and given
arguments and an input; what it prints is the baseline. Most of them are
filters; the others print texts, test conditions, or make files and
directories.
-/
import Overlay.CommandLine.Edit
import Overlay.CommandLine.Host
import Overlay.Decimal.Read

namespace Overlay.CommandLine

open Text

variable {m : Type → Type} [Monad m] [Host m]

/-- What a tool has done: the status it ends with, which is zero if it
succeeded, what it has printed, and its messages. -/
structure ToolResult where
  status : Nat := 0
  printed : List UInt8 := []
  messages : List String := []

/-- A tool that fails with a message. -/
def ToolResult.failing (status : Nat) (message : String) : ToolResult :=
  { status := status, messages := [message] }

/-- The bytes of a file, where a dash stands for the input. -/
def bytesAt (input : List UInt8) (path : String) :
    m (Except FileFault (List UInt8)) := do
  if path == "-" then return .ok input
  else return (← readText path).map bytesOf

/-- The bytes of files, one after the other. A file that cannot be read is told
about, and the others are read nevertheless. -/
def contentOf (tool : String) (input : List UInt8) : List String → m ToolResult
  | [] => pure {}
  | path :: rest => do
    let first ← bytesAt input path
    let others ← contentOf tool input rest
    match first with
    | .ok bytes => return { others with printed := bytes ++ others.printed }
    | .error fault =>
      return { others with
        status := 1
        messages := (tool ++ ": " ++ path ++ ": " ++ fault.message)
          :: others.messages }

/-- Prints files, or the input; it takes no options. -/
def cat (args : List String) (input : List UInt8) : m ToolResult :=
  match args.find? fun a =>
      a.toList.head? == some '-' && a != "-" && a != "--" with
  | some option =>
    pure (.failing 1 ("cat: unrecognized option '" ++ option ++ "'"))
  | none =>
    match args.filter (· != "--") with
    | [] => pure { printed := input }
    | paths => contentOf "cat" input paths

/-- Runs a filter on files, or on the input. -/
def runFilter (name : String) (f : Filter) (args : List String)
    (input : List UInt8) : m ToolResult := do
  match filterRequest? f.plain.toList f.valued.toList none
      (args.map (byteChars ∘ bytesOf)) with
  | none => return .failing 2 (name ++ ": invalid option")
  | some request =>
    let paths := (request.operands.drop (f.own request)).filterMap fun path =>
      String.fromUTF8? ⟨(charBytes path).toArray⟩
    let source ← if paths.isEmpty then pure { printed := input }
      else contentOf name input paths
    match f.apply request (byteChars source.printed) with
    | none => return .failing 2 (name ++ ": invalid operand")
    | some filtered =>
      let status :=
        if filtered.status == 0 then source.status else filtered.status
      return { source with
        status := status, printed := charBytes filtered.printed }

-- ===== conditions

/-- How two integers are compared. -/
def integersHold? (sign : String) (a b : Int) : Option Bool :=
  match sign with
  | "-eq" => some (a == b)
  | "-ne" => some (a != b)
  | "-lt" => some (a < b)
  | "-le" => some (a ≤ b)
  | "-gt" => some (a > b)
  | "-ge" => some (a ≥ b)
  | _ => none

/-- Whether a simple condition holds; none if it is not known. -/
def simpleCondition? (args : List String) : m (Option Bool) := do
  match args with
  | [] => return some false
  | [text] => return some (text != "")
  | ["!", text] => return some (text == "")
  | ["-n", text] => return some (text != "")
  | ["-z", text] => return some (text == "")
  | ["-d", path] => return some (← isDirectory path)
  | ["-f", path] => return some (← readText path).isOk
  | ["-s", path] => return some ((← readText path).toOption.any (· != ""))
  | ["-e", path] | ["-r", path] | ["-w", path] =>
    return some ((← isDirectory path) || (← readText path).isOk)
  | [a, "=", b] => return some (a == b)
  | [a, "!=", b] => return some (a != b)
  | [a, sign, b] => return do integersHold? sign (← a.toInt?) (← b.toInt?)
  | _ => return none

/-- Whether a simple condition, or its opposite, holds; none if it is not
known. -/
def signedCondition? (args : List String) : m (Option Bool) := do
  match args with
  | "!" :: rest@(_ :: _ :: _) => return (← simpleCondition? rest).map (!·)
  | args => simpleCondition? args

/-- Whether some conditions hold, of which those with `-a` between them hold
together. Up to three texts are one condition, unless the second one joins the
others. -/
def condition? (args : List String) : m (Option Bool) := do
  let parts (sign : String) (args : List String) : List (List String) :=
    (args.splitBy fun a b => a != sign && b != sign).filter (· != [sign])
  let isOne := match args with
    | [_, sign, _] => sign != "-a" && sign != "-o"
    | args => args.length ≤ 2
  if isOne then signedCondition? args
  else
    let either ← (parts "-o" args).mapM fun args => do
      let all ← (parts "-a" args).mapM signedCondition?
      return (all.mapM id).map fun all => all.all id
    return (either.mapM id).map fun either => either.any id

/-- Succeeds if a condition holds. -/
def test (args : List String) : m ToolResult := do
  match ← condition? args with
  | some true => return {}
  | some false => return { status := 1 }
  | none => return .failing 2 "test: unknown condition"

-- ===== names and files

/-- The last part of a path, without an ending. -/
def baseName (path ending : String) : String :=
  let name := ((File.parts path).getLast?).getD
    (if File.isAbsolute path then "/" else path)
  match before? ending.toList name.toList with
  | some (c :: cs) => String.ofList (c :: cs)
  | _ => name

/-- The path without its last part. -/
def directoryName (path : String) : String :=
  match File.parent path with
  | "" => "."
  | parent => parent

/-- The integers from one to another one. -/
def integersBetween (first step last : Int) : List Int :=
  if step == 0 then []
  else
    let steps := ((last - first) / step + 1).toNat
    (List.range steps).map fun n => first + step * Int.ofNat n

/-- Prints the integers from one to another one. -/
def seq (args : List String) : ToolResult :=
  let bounds := match args.map String.toInt? with
    | [some last] => some (1, 1, last)
    | [some first, some last] => some (first, 1, last)
    | [some first, some step, some last] => some (first, step, last)
    | _ => none
  match bounds with
  | some (first, step, last) =>
    { printed := bytesOf (String.join
        ((integersBetween first step last).map fun n => toString n ++ "\n")) }
  | none => .failing 1 "seq: invalid argument"

/-- What comes of an action on a file. -/
def onFile (tool path : String) : Except FileFault Unit → ToolResult
  | .ok () => {}
  | .error fault => .failing 1 (tool ++ ": " ++ path ++ ": " ++ fault.message)

/-- Puts bytes into a file. -/
def writeBytes (append : Bool) (path : String) (bytes : List UInt8) :
    m (Except FileFault Unit) :=
  match String.fromUTF8? ⟨bytes.toArray⟩ with
  | some text => if append then appendText path text else writeText path text
  | none => pure (.error (.refused "Invalid argument (os error 22)"))

/-- Does something with each of some files; the last failure counts. -/
def onFiles (act : String → m ToolResult) : List String → m ToolResult
  | [] => pure {}
  | path :: rest => do
    let first ← act path
    let others ← onFiles act rest
    return ⟨max first.status others.status, first.printed ++ others.printed,
      first.messages ++ others.messages⟩

/-- What comes of printing. -/
def printed (p : Printing) : ToolResult :=
  { status := if p.valid then 0 else 1, printed := p.bytes }

/-- The tool of a name in a directory of programs. -/
def bareName (name : String) : String :=
  match (after? "/usr/bin/".toList name.toList).or
      (after? "/bin/".toList name.toList) with
  | some rest => String.ofList rest
  | none => name

/-- Runs a tool that is no shell; none if there is no such tool. -/
def plainTool? (name : String) (args : List String) (input : List UInt8) :
    m (Option ToolResult) := do
  let paths := args.filter fun a => a.toList.head? != some '-'
  match name with
  | "cat" => return some (← cat args input)
  | "echo" => return some { printed := echo args }
  | "printf" =>
    match args with
    | [] => return some (.failing 1 "printf: missing operand")
    | format :: rest => return some (printed (printf false format rest))
  | "true" => return some {}
  | "false" => return some { status := 1 }
  | "sleep" => return some {}
  | "test" => return some (← test args)
  | "[" =>
    if args.getLast? == some "]" then return some (← test args.dropLast)
    else return some (.failing 2 "[: missing ]")
  | "basename" =>
    return some {
      printed :=
        bytesOf (baseName (args.headD "") ((args.drop 1).headD "") ++ "\n") }
  | "dirname" =>
    return some { printed := bytesOf (directoryName (args.headD "") ++ "\n") }
  | "seq" => return some (seq args)
  | "mkdir" =>
    return some
      (← onFiles (fun path => do return onFile name path (← makeDirectory path))
        paths)
  | "touch" =>
    return some
      (← onFiles (fun path => do return onFile name path (← appendText path ""))
        paths)
  | "tee" =>
    let append := args.contains "-a"
    let result ←
      onFiles
        (fun path => do
          return onFile name path (← writeBytes append path input)) paths
    return some { result with printed := input }
  | "cp" =>
    match paths with
    | [source, target] =>
      match ← readText source with
      | .ok text => return some (onFile name target (← writeText target text))
      | .error fault => return some (onFile name source (.error fault))
    | _ => return some (.failing 1 "cp: missing operand")
  | name =>
    match filter? name with
    | some f => return some (← runFilter name f args input)
    | none => return none

end Overlay.CommandLine
