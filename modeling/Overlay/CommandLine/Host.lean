/-
What a command needs from its surroundings: files, two channels for lines, the
date, a clock and a source of seeds. Commands are written for any host; a
program has one that acts on the real system, and `Memory` is one that acts on
a table of files.
-/
import Overlay.Calendar.Date
import Overlay.File

namespace Overlay.CommandLine

/-- What a command needs from its surroundings. -/
class Host (m : Type → Type) where
  /-- The text in a file. -/
  readText : (path : String) → m (Except FileFault String)
  /-- Puts a text into a file, in the place of what is in it. -/
  writeText : (path text : String) → m (Except FileFault Unit)
  /-- Puts a text at the end of a file, which is made if it has to be. -/
  appendText : (path text : String) → m (Except FileFault Unit)
  /-- Makes a directory, and those that it lies in. -/
  makeDirectory : (path : String) → m (Except FileFault Unit)
  isDirectory : (path : String) → m Bool
  /-- The files in a directory and below it, by their paths from there. The
  names of a directory are in order, and a directory stands before what is in
  it. -/
  filesBelow : (path : String) → m (List String)
  /-- The directory in which the settings of the user are. -/
  settingsDirectory : m (Option String)
  /-- Puts out a text as part of the result. -/
  print : (text : String) → m Unit
  /-- Tells the user something beside the result. -/
  tell : (text : String) → m Unit
  today : m Calendar.Date
  /-- The milliseconds on a clock. -/
  clock : m Nat
  /-- A seed for values that may differ from run to run. -/
  freshSeed : m Nat

export Host (readText writeText appendText makeDirectory isDirectory filesBelow
  settingsDirectory
  print tell today clock freshSeed)

/-- What may end early acts on the same host. -/
instance {ε : Type} {m : Type → Type} [Monad m] [Host m] :
    Host (ExceptT ε m) where
  readText path := ExceptT.lift (readText path)
  writeText path text := ExceptT.lift (writeText path text)
  appendText path text := ExceptT.lift (appendText path text)
  makeDirectory path := ExceptT.lift (makeDirectory path)
  isDirectory path := ExceptT.lift (isDirectory path)
  filesBelow path := ExceptT.lift (filesBelow path)
  settingsDirectory := ExceptT.lift settingsDirectory
  print text := ExceptT.lift (print text)
  tell text := ExceptT.lift (tell text)
  today := ExceptT.lift today
  clock := ExceptT.lift clock
  freshSeed := ExceptT.lift freshSeed

section

variable {m : Type → Type} [Host m]

/-- Puts out a line as part of the result. -/
def printLine (text : String) : m Unit := print (text ++ "\n")

/-- Tells the user a line beside the result. -/
def tellLine (text : String) : m Unit := tell (text ++ "\n")

end

end Overlay.CommandLine
