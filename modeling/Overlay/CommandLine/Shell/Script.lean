/-
Scripts of a shell: commands with redirections, pipes, lists, conditions,
loops, choices between patterns, groups and functions.

A script is read in two steps. Words and operators are cut first; then they are
put together as a tree. A text that follows a line as the input of a command is
cut off at the end of the line, so it is kept beside the tokens, and a token
holds its number.
-/
import Overlay.CommandLine.Shell.Word

namespace Overlay.CommandLine.Shell

open Text

-- ===== tokens

/-- What a redirection does to a channel. -/
inductive RedirectionKind
  /-- It reads from a file. -/
  | input
  /-- It writes to a file. -/
  | output
  /-- It writes to the end of a file. -/
  | append
  /-- It goes where another channel goes. -/
  | same
  deriving DecidableEq

/-- A token of a script. -/
inductive Token
  | word (w : Word)
  | operator (text : String)
  /-- A redirection of a channel; its target is the next word. -/
  | redirection (channel : Option Nat) (kind : RedirectionKind)
  /-- The text that follows the line is the input; it is the one with this
  number. -/
  | here (number : Nat)

/-- The mark of a text that follows the line. -/
structure HereMark where
  text : List Char
  /-- Nothing in it is expanded. -/
  quoted : Bool
  /-- Tabs at the start of its lines are dropped. -/
  dropTabs : Bool

/-- A text that follows a line, and whether nothing in it is expanded. -/
structure HereText where
  lines : List Char
  quoted : Bool

/-- The operators, those of which another one is a beginning first. What is to
run beside the rest is run before it. -/
def operators : List String := ["&&", "||", ";;", ";", "&", "|", "(", ")"]

/-- The redirections, in the same order. -/
def redirections : List (String × RedirectionKind) :=
  [(">>", .append), (">&", .same), ("<&", .same), (">|", .output),
    (">", .output), ("<", .input)]

/-- The lines of a text up to a mark. -/
def hereLines (mark : HereMark) :
    (fuel : Nat) → List Char → List Char × List Char
  | 0, cs => ([], cs)
  | _, [] => ([], [])
  | fuel + 1, cs =>
    let line := cs.takeWhile (· != '\n')
    let rest := (cs.drop line.length).drop 1
    let line := if mark.dropTabs then line.dropWhile (· == '\t') else line
    if line == mark.text then ([], rest)
    else
      let (others, rest) := hereLines mark fuel rest
      (line ++ '\n' :: others, rest)

/-- The texts of some marks, one after the other. -/
def hereTexts : List HereMark → List Char → List HereText × List Char
  | [], cs => ([], cs)
  | mark :: marks, cs =>
    let (lines, rest) := hereLines mark (cs.length + 1) cs
    let (others, rest) := hereTexts marks rest
    (⟨lines, mark.quoted⟩ :: others, rest)

/-- The token of a word, or of the channel of a redirection that comes right
behind it. -/
def channel? (w : Word) (rest : List Char) : Option Nat :=
  match plainText? w, rest.head? with
  | some text, some c =>
    if (c == '<' || c == '>') && text.length == 1 then text.toNat? else none
  | _, _ => none

/-- The tokens of a script and the texts that follow its lines. `marks` holds
the marks of the line so far, and `numbered` counts the texts. -/
def tokenize : (fuel : Nat) → (marks : List HereMark) → (numbered : Nat) →
    (channel : Option Nat) →
    List Char → Option (List Token × List HereText)
  | 0, _, _, _, _ => none
  | _, _, _, _, [] => some ([], [])
  | fuel + 1, marks, numbered, channel, c :: rest => do
    let emit (token : Token) (marks : List HereMark) (numbered : Nat)
      (rest : List Char) :
        Option (List Token × List HereText) := do
      let (tokens, texts) ← tokenize fuel marks numbered none rest
      return (token :: tokens, texts)
    if c == ' ' || c == '\t' then tokenize fuel marks numbered none rest
    else if c == '\\' && rest.head? == some '\n' then
      tokenize fuel marks numbered none (rest.drop 1)
    else if c == '#' then
      tokenize fuel marks numbered none (rest.dropWhile (· != '\n'))
    else if c == '\n' then
      let (found, rest) := hereTexts marks rest
      let (tokens, texts) ← tokenize fuel [] numbered none rest
      return (.operator ";" :: tokens, found ++ texts)
    else
      match after? "<<".toList (c :: rest) with
      | some rest =>
        let (dropTabs, rest) := match rest with
          | '-' :: rest => (true, rest)
          | rest => (false, rest)
        let (w, rest) ←
          wordPieces false (rest.length + 1) (rest.dropWhile (· == ' '))
        let mark := ⟨w.filterMap (·.written?), w.any (·.isQuoted), dropTabs⟩
        emit (.here numbered) (marks ++ [mark]) (numbered + 1) rest
      | none =>
        match redirections.findSome? fun (sign, kind) =>
            (after? sign.toList (c :: rest)).map fun rest => (kind, rest) with
        | some (kind, rest) =>
          emit (.redirection channel kind) marks numbered rest
        | none =>
          match operators.findSome? fun sign =>
              (after? sign.toList (c :: rest)).map fun rest => (sign, rest) with
          | some (sign, rest) =>
            emit (.operator (if sign == "&" then ";" else sign))
              marks numbered rest
          | none =>
            let (w, rest) ← wordPieces false (rest.length + 2) (c :: rest)
            match channel? w rest with
            | some n => tokenize fuel marks numbered (some n) rest
            | none => emit (.word w) marks numbered rest

-- ===== scripts

/-- The target of a redirection. -/
inductive RedirectionTarget
  | word (w : Word)
  | text (t : HereText)

/-- A redirection of a channel. -/
structure Redirection where
  channel : Option Nat
  kind : RedirectionKind
  target : RedirectionTarget

/-- A script. -/
inductive Script
  | nothing
  /-- Values for variables, and a command with its arguments. -/
  | command (values : List (String × Word)) (words : List Word)
  | redirected (s : Script) (rs : List Redirection)
  /-- What the first one prints is the input of the second one. -/
  | pipe (a b : Script)
  /-- It succeeds if the other one fails. -/
  | invert (s : Script)
  | ifSucceeded (a b : Script)
  | ifFailed (a b : Script)
  | sequence (a b : Script)
  | choose (test yes no : Script)
  /-- Again and again, as long as the test succeeds, or fails. -/
  | loop (asLong : Bool) (test body : Script)
  /-- Once for each of some words, or of the arguments. -/
  | each (name : String) (words : Option (List Word)) (body : Script)
  /-- What follows the first pattern that a word matches. -/
  | select (subject : Word) (patterns : List Word) (body others : Script)
  /-- Nothing in it is seen outside. -/
  | apart (s : Script)
  | define (name : String) (body : Script)

/-- The words that mean something at the start of a command. -/
def Token.keyword? : Token → Option String
  | .word w => plainText? w
  | _ => none

/-- Whether a token ends a list of commands. -/
def Token.endsList (t : Token) : Bool :=
  match t with
  | .operator text => text == ")" || text == ";;"
  | t =>
    t.keyword?.any ["then", "else", "elif", "fi", "do", "done", "esac",
      "\x7d"].contains

/-- The tokens after an operator. -/
def afterOperator? (text : String) : List Token → Option (List Token)
  | .operator found :: rest => if found == text then some rest else none
  | _ => none

/-- The tokens after a keyword. -/
def afterKeyword? (word : String) : List Token → Option (List Token)
  | t :: rest => if t.keyword? == some word then some rest else none
  | [] => none

/-- The tokens after the ends of lines and commands. -/
def skipEnds : List Token → List Token
  | .operator ";" :: rest => skipEnds rest
  | ts => ts

/-- A redirection that some tokens begin with. -/
def redirection? (texts : List HereText) :
    List Token → Option (Redirection × List Token)
  | .redirection channel kind :: .word w :: rest =>
    some (⟨channel, kind, .word w⟩, rest)
  | .here number :: rest =>
    some (⟨none, .input, .text (texts[number]?.getD ⟨[], true⟩)⟩, rest)
  | _ => none

/-- The name and the value of a word that gives a value to a variable. -/
def assignment? (w : Word) : Option (String × Word) :=
  let name := w.takeWhile fun
    | .literal c false => c != '='
    | _ => false
  match plainText? name, w.drop name.length with
  | some text, .literal '=' false :: value =>
    if isVariable text.toList then some (text, value) else none
  | _, _ => none

/-- A command so far. -/
structure CommandSoFar where
  values : List (String × Word) := []
  words : List Word := []
  redirections : List Redirection := []

/-- A script with redirections, if there are any. -/
def withRedirections (s : Script) (rs : List Redirection) : Script :=
  if rs.isEmpty then s else .redirected s rs

/-- The rest of a command of words. -/
def commandRest (texts : List HereText) :
    (fuel : Nat) → CommandSoFar → List Token →
    Script × List Token
  | 0, k, ts => (.command k.values k.words, ts)
  | fuel + 1, k, ts =>
    match redirection? texts ts with
    | some (r, rest) =>
      commandRest texts fuel { k with redirections := k.redirections
        ++ [r] } rest
    | none =>
      match ts with
      | .word w :: rest =>
        match k.words, assignment? w with
        | [], some value =>
          commandRest texts fuel { k with values := k.values ++ [value] } rest
        | _, _ => commandRest texts fuel { k with words := k.words ++ [w] } rest
      | ts => (withRedirections (.command k.values k.words) k.redirections, ts)

/-- The redirections behind a script. -/
def redirectionsRest (texts : List HereText) : (fuel : Nat) → List Token →
    List Redirection × List Token
  | 0, ts => ([], ts)
  | fuel + 1, ts =>
    match redirection? texts ts with
    | some (r, rest) =>
      let (rs, rest) := redirectionsRest texts fuel rest
      (r :: rs, rest)
    | none => ([], ts)

/-- The words up to one that is none. -/
def wordsRest : List Token → List Word × List Token
  | .word w :: rest =>
    let (ws, rest) := wordsRest rest
    (w :: ws, rest)
  | ts => ([], ts)

/-- The patterns before a closing bracket, with bars between them. -/
def patternsRest : List Token → Option (List Word × List Token)
  | .word w :: .operator ")" :: rest => some ([w], rest)
  | .word w :: .operator "|" :: rest => do
    let (ws, rest) ← patternsRest rest
    return (w :: ws, rest)
  | _ => none

mutual

/-- A list of commands up to its end. -/
def readList (texts : List HereText) : (fuel : Nat) → List Token →
    Option (Script × List Token)
  | 0, _ => none
  | fuel + 1, ts =>
    match skipEnds ts with
    | [] => some (.nothing, [])
    | t :: rest =>
      if t.endsList then some (.nothing, t :: rest)
      else do
        let (first, rest) ← readConditional texts fuel (t :: rest)
        match rest with
        | .operator ";" :: _ =>
          let (others, rest) ← readList texts fuel rest
          return (.sequence first others, rest)
        | _ => return (first, rest)

/-- Pipelines that depend on one another. -/
def readConditional (texts : List HereText) : (fuel : Nat) → List Token →
    Option (Script × List Token)
  | 0, _ => none
  | fuel + 1, ts => do
    let (first, rest) ← readPipeline texts fuel ts
    conditionalRest texts fuel first rest

/-- What depends on the pipelines so far. -/
def conditionalRest (texts : List HereText) :
    (fuel : Nat) → Script → List Token →
    Option (Script × List Token)
  | 0, _, _ => none
  | fuel + 1, s, ts =>
    match ts with
    | .operator "&&" :: rest => do
      let (next, rest) ← readPipeline texts fuel (skipEnds rest)
      conditionalRest texts fuel (.ifSucceeded s next) rest
    | .operator "||" :: rest => do
      let (next, rest) ← readPipeline texts fuel (skipEnds rest)
      conditionalRest texts fuel (.ifFailed s next) rest
    | ts => some (s, ts)

/-- Commands with pipes between them. -/
def readPipeline (texts : List HereText) : (fuel : Nat) → List Token →
    Option (Script × List Token)
  | 0, _ => none
  | fuel + 1, ts =>
    match afterKeyword? "!" ts with
    | some rest => do
      let (s, rest) ← readPipeline texts fuel rest
      return (.invert s, rest)
    | none => do
      let (first, rest) ← readCommand texts fuel ts
      pipelineRest texts fuel first rest

/-- What the pipeline so far goes into. -/
def pipelineRest (texts : List HereText) : (fuel : Nat) → Script → List Token →
    Option (Script × List Token)
  | 0, _, _ => none
  | fuel + 1, s, ts =>
    match ts with
    | .operator "|" :: rest => do
      let (next, rest) ← readCommand texts fuel (skipEnds rest)
      pipelineRest texts fuel (.pipe s next) rest
    | ts => some (s, ts)

/-- One command. -/
def readCommand (texts : List HereText) : (fuel : Nat) → List Token →
    Option (Script × List Token)
  | 0, _ => none
  | fuel + 1, ts => do
    let finish (s : Script)
      (rest : List Token) : Option (Script × List Token) :=
      let (rs, rest) := redirectionsRest texts (rest.length + 1) rest
      some (withRedirections s rs, rest)
    match ts with
    | .operator "(" :: rest =>
      let (s, rest) ← readList texts fuel rest
      finish (.apart s) (← afterOperator? ")" rest)
    | .word w :: .operator "(" :: .operator ")" :: rest =>
      let name ← plainText? w
      let (body, rest) ← readCommand texts fuel (skipEnds rest)
      return (.define name body, rest)
    | t :: rest =>
      match t.keyword? with
      | some "\x7b" =>
        let (s, rest) ← readList texts fuel rest
        finish s (← afterKeyword? "\x7d" rest)
      | some "if" =>
        let (s, rest) ← readChoice texts fuel rest
        finish s rest
      | some "while" =>
        loopFrom texts fuel true rest >>= fun (s, rest) => finish s rest
      | some "until" =>
        loopFrom texts fuel false rest >>= fun (s, rest) => finish s rest
      | some "for" =>
        match rest with
        | .word w :: rest =>
          let name ← plainText? w
          let (words, rest) := match afterKeyword? "in" (skipEnds rest) with
            | some rest =>
              let (ws, rest) := wordsRest rest
              (some ws, rest)
            | none => (none, rest)
          let rest ← afterKeyword? "do" (skipEnds rest)
          let (body, rest) ← readList texts fuel rest
          finish (.each name words body) (← afterKeyword? "done" rest)
        | _ => none
      | some "case" =>
        match rest with
        | .word w :: rest =>
          let rest ← afterKeyword? "in" (skipEnds rest)
          let (s, rest) ← readArms texts fuel w rest
          finish s rest
        | _ => none
      | _ =>
        if t.endsList then none
        else
          match commandRest texts (rest.length + 2) {} (t :: rest) with
          | (.command [] [], _) => none
          | found => some found
    | [] => none

/-- A loop after its keyword. -/
def loopFrom (texts : List HereText) :
    (fuel : Nat) → (asLong : Bool) → List Token →
    Option (Script × List Token)
  | 0, _, _ => none
  | fuel + 1, asLong, ts => do
    let (test, rest) ← readList texts fuel ts
    let (body, rest) ← readList texts fuel (← afterKeyword? "do" rest)
    return (.loop asLong test body, ← afterKeyword? "done" rest)

/-- A condition after its keyword, up to its end. -/
def readChoice (texts : List HereText) : (fuel : Nat) → List Token →
    Option (Script × List Token)
  | 0, _ => none
  | fuel + 1, ts => do
    let (test, rest) ← readList texts fuel ts
    let (yes, rest) ← readList texts fuel (← afterKeyword? "then" rest)
    match afterKeyword? "elif" rest with
    | some rest =>
      let (no, rest) ← readChoice texts fuel rest
      return (.choose test yes no, rest)
    | none =>
      match afterKeyword? "else" rest with
      | some rest =>
        let (no, rest) ← readList texts fuel rest
        return (.choose test yes no, ← afterKeyword? "fi" rest)
      | none => return (.choose test yes .nothing, ← afterKeyword? "fi" rest)

/-- The arms of a choice between patterns, up to its end. -/
def readArms (texts : List HereText) :
    (fuel : Nat) → (subject : Word) → List Token →
    Option (Script × List Token)
  | 0, _, _ => none
  | fuel + 1, subject, ts =>
    let ts := skipEnds ts
    match afterKeyword? "esac" ts with
    | some rest => some (.nothing, rest)
    | none => do
      let ts := (afterOperator? "(" ts).getD ts
      let (patterns, rest) ← patternsRest ts
      let (body, rest) ← readList texts fuel rest
      match afterOperator? ";;" rest with
      | some rest =>
        let (others, rest) ← readArms texts fuel subject rest
        return (.select subject patterns body others, rest)
      | none =>
        return (.select subject patterns body .nothing, ←
          afterKeyword? "esac" rest)

end

/-- Reads a script. -/
def readScript (text : String) : Option Script := do
  let cs := text.toList
  let (tokens, texts) ← tokenize (cs.length + 1) [] 0 none cs
  let (s, rest) ← readList texts (8 * tokens.length + 8) tokens
  guard rest.isEmpty
  return s

end Overlay.CommandLine.Shell
