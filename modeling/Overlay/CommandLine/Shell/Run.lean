/-
Running scripts of a shell. A script leaves the shell in another state and
tells how to go on (`Flow`). What runs apart starts from the state at hand, and
only its status, its messages and what it has printed are left of it; so do
both sides of a pipe and a script in the place of a word.

Scripts may go on for ever, so running takes a number of steps that are left
(`stepLimit`).
-/
import Overlay.CommandLine.Shell.Field
import Overlay.CommandLine.Tool

namespace Overlay.CommandLine.Shell

open Text

variable {m : Type → Type} [Monad m] [Host m]

/-- How to go on. -/
inductive Flow
  | on
  /-- The shell ends. -/
  | leave
  /-- Some loops end. -/
  | breaking (loops : Nat)
  /-- Some loops but one end, and that one goes on with its next round. -/
  | continuing (loops : Nat)
  | returning

/-- How to go on after a round of a loop: with the next one if there is nothing
here. -/
def Flow.afterRound : Flow → Option Flow
  | .on | .continuing 0 | .continuing 1 => none
  | .continuing (n + 2) => some (.continuing (n + 1))
  | .breaking 0 | .breaking 1 => some .on
  | .breaking (n + 2) => some (.breaking (n + 1))
  | flow => some flow

/-- Sets the status. -/
def setStatus (n : Nat) : Action m Unit :=
  modify fun s => { s with status := n }

/-- A command that has failed with a message. -/
def complain (status : Nat) (message : String) : Action m Unit :=
  modify fun s =>
    { s with status := status, messages := s.messages ++ [message] }

/-- Adds what a tool has done. -/
def addResult (r : ToolResult) : Action m Unit :=
  modify fun s => { s with
    status := r.status
    printed := s.printed ++ r.printed
    messages := s.messages ++ r.messages }

/-- Does something apart, and gives what it has printed. -/
def apart (change : State → State) (act : Action m Flow) :
    Action m (List UInt8) := do
  let before ← get
  set (change { before with printed := [] })
  let _ ← act
  let after ← get
  set { before with status := after.status, messages := after.messages }
  return after.printed

/-- Prints bytes. -/
def printBytes (bytes : List UInt8) : Action m Unit :=
  modify fun s => { s with printed := s.printed ++ bytes }

/-- How to go on after a command that nothing depends on. -/
def afterCommand (tested : Bool) : Action m Flow := do
  let s ← get
  return if s.stopped || (s.stopsOnFailure && !tested && s.status != 0) then
      .leave
    else .on

-- ===== redirections

/-- Where a channel goes. -/
inductive Sink
  | printed
  | messages
  | nowhere
  | file (path : String)

/-- Puts bytes where a channel goes. -/
def deliver (bytes : List UInt8) : Sink → Action m Unit
  | .printed => printBytes bytes
  | .messages =>
    modify fun s =>
      { s with messages := s.messages
        ++ ((String.fromUTF8? ⟨bytes.toArray⟩).filter (· != "")).toList }
  | .nowhere => pure ()
  | .file path => do
    if !bytes.isEmpty then
      match ← StateT.lift (writeBytes true path bytes) with
      | .ok () => pure ()
      | .error fault => complain 1 (path ++ ": " ++ fault.message)

/-- Where the channels go, and another input. -/
structure Channels where
  printed : Sink := .printed
  messages : Sink := .messages
  input : Option (List UInt8) := none

/-- Where a file of a name goes, which is made if it has to be. -/
def openSink? (append : Bool) (path : String) (channels : Channels) :
    Action m (Option Sink) := do
  match path with
  | "/dev/null" => return some .nowhere
  | "/dev/stdout" => return some channels.printed
  | "/dev/stderr" => return some channels.messages
  | path =>
    match ← StateT.lift (if append then appendText path ""
      else writeText path "") with
    | .ok () => return some (.file path)
    | .error fault => do
      complain 2 ("cannot create " ++ path ++ ": " ++ fault.message)
      return none

/-- The channels after a redirection; none if it cannot be done. -/
def redirect? (text : RedirectionTarget → Action m String) (channels : Channels)
    (r : Redirection) : Action m (Option Channels) := do
  let sending (sink : Sink) : Channels :=
    if r.channel == some 2 then { channels with messages := sink }
    else if r.channel.all (· == 1) then { channels with printed := sink }
    else channels
  let target ← text r.target
  match r.kind, r.target with
  | .input, .text _ =>
    return some { channels with input := some (bytesOf target) }
  | .input, .word _ =>
    if target == "/dev/null" then return some { channels with input := some [] }
    match ← StateT.lift (readText target) with
    | .ok text => return some { channels with input := some (bytesOf text) }
    | .error fault => do
      complain 2 ("cannot open " ++ target ++ ": " ++ fault.message)
      return none
  | .output, _ => return (← openSink? false target channels).map sending
  | .append, _ => return (← openSink? true target channels).map sending
  | .same, _ =>
    match target with
    | "1" => return some (sending channels.printed)
    | "2" => return some (sending channels.messages)
    | "-" => return some (sending .nowhere)
    | _ => return some channels

/-- The channels after some redirections; none if one of them cannot be done. -/
def redirectAll? (text : RedirectionTarget → Action m String) :
    Channels → List Redirection → Action m (Option Channels)
  | channels, [] => pure (some channels)
  | channels, r :: rest => do
    match ← redirect? text channels r with
    | some channels => redirectAll? text channels rest
    | none => return none

/-- Does something with its channels where they are to go. -/
def withChannels (channels : Channels) (act : Action m Flow) :
    Action m Flow := do
  let before ← get
  set { before with
    printed := [], messages := [],
    input := channels.input.getD before.input }
  let flow ← act
  let after ← get
  set { after with
    printed := before.printed, messages := before.messages
    input := if channels.input.isSome then before.input else after.input }
  deliver after.printed channels.printed
  deliver (bytesOf (String.join (after.messages.map (· ++ "\n"))))
    channels.messages
  return flow

-- ===== commands of the shell itself

/-- Gives values to the variables of some texts in which an equals sign follows
a name. -/
def assignAll (texts : List String) : Action m Unit :=
  modify fun s => texts.foldl (fun s text =>
    match splitFirst? '=' text.toList with
    | some (name, value) => s.assign (String.ofList name) (String.ofList value)
    | none => s) s

/-- The values of some names in a line: each gets a field, and the last one all
that is left. -/
def readFields (separators : List Char) :
    (names : List String) → List Char → List (String × String)
  | [], _ => []
  | [name], line =>
    [(name, String.ofList
      (dropEndWhile separators.contains (line.dropWhile separators.contains)))]
  | name :: names, line =>
    let line := line.dropWhile separators.contains
    let field := line.takeWhile (!separators.contains ·)
    (name, String.ofList field) :: readFields separators names
      ((line.drop field.length).drop 1)

/-- Reads a line of the input into variables. It fails if the line has no end.
-/
def readLine (names : List String) : Action m Unit :=
  modify fun s =>
    let line := s.input.takeWhile (· != 10)
    let rest := s.input.drop line.length
    let text := ((String.fromUTF8? ⟨line.toArray⟩).getD "").toList
    let s := (readFields s.separators names text).foldl
      (fun s (name, value) => s.assign name value) s
    { s with input := rest.drop 1, status := if rest.isEmpty then 1 else 0 }

/-- Changes what the shell minds, or its arguments. -/
def setOptions (args : List String) : Action m Unit :=
  modify fun s =>
    let isOption (a : String) : Bool :=
      (a.startsWith "-" || a.startsWith "+") && a.length > 1
    let options := (args.takeWhile fun a => isOption a && a != "--")
    let rest := args.drop options.length
    let s := options.foldl (fun s a =>
      if a.toList.contains 'e' then
        { s with stopsOnFailure := a.startsWith "-" } else s) s
    let s := { s with status := 0 }
    match rest with
    | [] => s
    | "--" :: rest => { s with args := s.args.take 1 ++ rest }
    | rest => { s with args := s.args.take 1 ++ rest }

/-- Runs a command that only changes the state; none if there is no such
command. -/
def plainCommand? (name : String) (args : List String) :
    Option (Action m Flow) :=
  let count := ((args.head?.bind String.toNat?).getD 1)
  let done (act : Action m Unit) : Option (Action m Flow) := some do
    act
    return .on
  match name with
  | ":" | "trap" | "wait" | "umask" => done (setStatus 0)
  | "exit" | "return" => some do
    if let some text := args.head? then
      setStatus ((Decimal.natural? text.toList).getD 2 % 256)
    return if name == "exit" then .leave else .returning
  | "break" => some (pure (.breaking count))
  | "continue" => some (pure (.continuing count))
  | "shift" => done do
    modify fun s =>
      { s with args := s.args.take 1 ++ s.args.drop (count + 1), status := 0 }
  | "set" => done (setOptions args)
  | "export" | "readonly" | "local" => done do
    assignAll args
    setStatus 0
  | "unset" => done do
    modify fun s => { s with
      vars := s.vars.filter fun v => !args.contains v.1
      functions := s.functions.filter fun f => !args.contains f.1
      status := 0 }
  | "read" => done (readLine (args.filter fun a => !a.startsWith "-"))
  | "echo" => done do
    let s ← get
    addResult { printed := if s.plainEcho then echo args else shellEcho args }
  | "printf" =>
    match args with
    | [] => none
    | format :: rest => done do
      let s ← get
      addResult (printed (printf (!s.plainEcho) format rest))
  | _ => none

-- ===== starting

/-- What a shell begins with. -/
structure Start where
  script : Script
  state : State

/-- What a shell of some arguments begins with: a script that is given as an
argument, one in a file, or the input; or why it does not begin. -/
def start (name : String) (args : List String) (input : List UInt8) :
    m (Except ToolResult Start) := do
  let options := args.takeWhile fun a => a.startsWith "-" && a.length > 1
  let rest := args.drop options.length
  let letters := options.flatMap fun a => a.toList.drop 1
  let begin (text : String) (args : List String) : Except ToolResult Start :=
    match readScript text with
    | some script => .ok ⟨script, {
        args := args, input := input, stopsOnFailure := letters.contains 'e'
        plainEcho := bareName name == "bash" }⟩
    | none => .error (.failing 2 (name ++ ": syntax error"))
  if letters.contains '-' then
    return .error (.failing 2 (name ++ ": illegal option --"))
  match letters.contains 'c', rest with
  | true, text :: rest =>
    return begin text (if rest.isEmpty then [name] else rest)
  | true, [] => return .error (.failing 2 (name ++ ": -c requires an argument"))
  | false, path :: rest =>
    match ← readText path with
    | .ok text => return begin text (path :: rest)
    | .error _ => return .error (.failing 2 (name ++ ": cannot open " ++ path))
  | false, [] =>
    return begin ((String.fromUTF8? ⟨input.toArray⟩).getD "") [name]

/-- Whether a name is that of a shell. -/
def isShell (name : String) : Bool :=
  ["sh", "dash", "bash"].contains (bareName name)

-- ===== running

/-- Whether some text in a script is put in by another script. -/
def hasOutput (ws : List Word) : Bool :=
  ws.any fun w => w.any fun
    | .output _ _ => true
    | _ => false

/-- The result of a state. -/
def State.result (s : State) : ToolResult := ⟨s.status, s.printed, s.messages⟩

mutual

/-- Runs a script. `tested` says whether its success is asked for. -/
def run : (fuel : Nat) → (tested : Bool) → Script → Action m Flow
  | 0, _, _ => do
    setStatus 2
    return .leave
  | fuel + 1, tested, s => do
    let output (text : List Char) : Action m (List UInt8) :=
      apart id (runText fuel false (String.ofList text))
    match s with
    | .nothing => return .on
    | .define name body =>
      modify fun s =>
        { s with functions := s.functions.insert name body, status := 0 }
      return .on
    | .command values words =>
      let fields ← expandAll output fuel words
      let assigned ← values.mapM fun (name, value) => do
        return (name, plainText (← expandChars output fuel value))
      if (← get).stopped then
        setStatus 2
        return .leave
      let before := (← get).vars
      modify fun s =>
        assigned.foldl (fun s (name, value) => s.assign name value) s
      match fields with
      | [] =>
        if !hasOutput (words ++ values.map (·.2)) then setStatus 0
        afterCommand tested
      | name :: args =>
        let flow ← runCommand fuel tested name args
        if !values.isEmpty then
          let kept := before.filter fun v => values.any (·.1 == v.1)
          modify fun s => { s with
            vars := Table.insertAll kept
              (s.vars.filter fun v => !values.any (·.1 == v.1)) }
        match flow with
        | .on => afterCommand tested
        | flow => return flow
    | .redirected s rs =>
      let text : RedirectionTarget → Action m String
        | .word w => do return plainText (← expandChars output fuel w)
        | .text t => do
          if t.quoted then return String.ofList t.lines
          else
            return plainText
              (← expandChars output fuel (innerWord true t.lines))
      match ← redirectAll? text {} rs with
      | some channels => withChannels channels (run fuel tested s)
      | none => afterCommand tested
    | .pipe a b =>
      let printed ← apart id (run fuel tested a)
      printBytes
        (← apart (fun s => { s with input := printed }) (run fuel tested b))
      afterCommand tested
    | .apart s =>
      printBytes (← apart id (run fuel tested s))
      afterCommand tested
    | .invert s =>
      match ← run fuel true s with
      | .on =>
        modify fun s => { s with status := if s.status == 0 then 1 else 0 }
        return .on
      | flow => return flow
    | .ifSucceeded a b =>
      match ← run fuel true a with
      | .on => if (← get).status == 0 then run fuel tested b else return .on
      | flow => return flow
    | .ifFailed a b =>
      match ← run fuel true a with
      | .on => if (← get).status == 0 then return .on else run fuel tested b
      | flow => return flow
    | .sequence a b =>
      match ← run fuel tested a with
      | .on => run fuel tested b
      | flow => return flow
    | .choose test yes no =>
      match ← run fuel true test with
      | .on =>
        if (← get).status == 0 then run fuel tested yes
        else
          if let .nothing := no then setStatus 0
          run fuel tested no
      | flow => return flow
    | .loop asLong test body =>
      match ← run fuel true test with
      | .on =>
        if ((← get).status == 0) == asLong then
          match (← run fuel tested body).afterRound with
          | none => run fuel tested (.loop asLong test body)
          | some flow => return flow
        else
          setStatus 0
          return .on
      | flow => return (flow.afterRound).getD .on
    | .each name words body =>
      let values ← (match words with
        | some words => expandAll output fuel words
        | none => do return (← get).args.drop 1)
      if values.isEmpty then setStatus 0
      let ended ← values.foldlM (fun (ended : Option Flow) value => do
        match ended with
        | some flow => return some flow
        | none =>
          modify fun s => s.assign name value
          return (← run fuel tested body).afterRound) none
      return ended.getD .on
    | .select subject patterns body others =>
      let text := plainText (← expandChars output fuel subject)
      let hits ← patterns.mapM fun p => do
        return globMatches (← expandChars output fuel p) text.toList
      if hits.contains true then
        if let .nothing := body then setStatus 0
        run fuel tested body
      else
        if let .nothing := others then setStatus 0
        run fuel tested others

/-- Runs the script in a text. -/
def runText : (fuel : Nat) → (tested : Bool) → String → Action m Flow
  | 0, _, _ => do
    setStatus 2
    return .leave
  | fuel + 1, tested, text => do
    match readScript text with
    | some s =>
      if let .nothing := s then setStatus 0
      run fuel tested s
    | none =>
      complain 2 "syntax error"
      return .leave

/-- Runs a command by its name. -/
def runCommand :
    (fuel : Nat) → (tested : Bool) → String → List String → Action m Flow
  | 0, _, _, _ => do
    setStatus 2
    return .leave
  | fuel + 1, tested, name, args => do
    match plainCommand? name args, (← get).functions.find? name with
    | some act, none => act
    | _, some body =>
      let before := (← get).args
      modify fun s => { s with args := before.take 1 ++ args, status := 0 }
      let flow ← run fuel tested body
      modify fun s => { s with args := before }
      match flow with
      | .leave => return .leave
      | _ => return .on
    | none, none =>
      match name with
      | "eval" => runText fuel tested (join " " args)
      | "command" | "exec" | "env" =>
        match args.dropWhile fun a => name == "env" && a.contains '=' with
        | [] => return .on
        | own :: rest =>
          let flow ← runCommand fuel tested own rest
          return if name == "exec" then .leave else flow
      | "." | "source" =>
        match ← StateT.lift (readText (args.headD "")) with
        | .ok text => runText fuel tested text
        | .error _ =>
          complain 2 ("cannot open " ++ args.headD "")
          return .leave
      | name =>
        if isShell name then
          match ← StateT.lift (start name args (← get).input) with
          | .error result => addResult result
          | .ok found =>
            let before ← get
            set found.state
            let _ ← run fuel false found.script
            let after ← get
            set before
            addResult after.result
          return .on
        else
          match ← StateT.lift
            (plainTool? (bareName name) args (← get).input) with
          | some result => addResult result
          | none => complain 127 (name ++ ": not found")
          return .on

end

/-- How many steps a script may take one inside the other. -/
def stepLimit : Nat := 100000

end Shell

variable {m : Type → Type} [Monad m] [Host m]

/-- Runs a shell. -/
def shell (name : String) (args : List String) (input : List UInt8) :
    m ToolResult := do
  match ← Shell.start name args input with
  | .error result => return result
  | .ok found => do
    let (_, after) ←
      (Shell.run Shell.stepLimit false found.script).run found.state
    return after.result

/-- Runs a tool without any input; none if there is no such tool. What is set
for a tool before its name has no effect on it. -/
def runTool? (name : String) (args : List String) : m (Option ToolResult) := do
  let (name, args) := match bareName name, args.dropWhile fun a =>
    a.contains '=' with
    | "env", own :: rest => (own, rest)
    | _, _ => (name, args)
  if Shell.isShell name then return some (← shell name args [])
  else plainTool? (bareName name) args []

end Overlay.CommandLine
