/-
The command line on the real system. Everything is decided elsewhere; here
files are read and written, and lines are put out.
-/
import Overlay.CommandLine.Run
import Std.Time.Zoned

namespace Overlay.CommandLine

/-- Why the system refuses a file. -/
def faultOf : IO.Error → FileFault
  | .noFileOrDirectory _ _ _ => .notFound
  | .alreadyExists _ _ _ => .alreadyThere
  | .inappropriateType _ code _ =>
    if code == 21 then .isDirectory else .notDirectory
  | error => .refused (toString error)

/-- What an action on files gives, or why it cannot be done. -/
def attempt {α : Type} (action : IO α) : IO (Except FileFault α) := do
  match ← action.toBaseIO with
  | .ok value => return .ok value
  | .error error => return .error (faultOf error)

/-- The files among the entries of a directory and below them, each with what
leads to it. -/
partial def filesAmong (lead : String) (entries : Array IO.FS.DirEntry) :
    IO (List String) := do
  let inOrder := entries.toList.mergeSort fun a b => a.fileName ≤ b.fileName
  let found ← inOrder.mapM fun entry => do
    if ← entry.path.isDir then
      filesAmong (lead ++ entry.fileName ++ "/") (← entry.path.readDir)
    else return [lead ++ entry.fileName]
  return found.flatten

/-- The directory of the user's settings. -/
def userSettings : IO (Option String) := do
  match ← IO.getEnv "XDG_CONFIG_HOME" with
  | some directory =>
    if File.isAbsolute directory then return some directory else inHome
  | none => inHome
where
  inHome : IO (Option String) := do
    return (← IO.getEnv "HOME").map (File.below · ".config")

/-- Commands act on the real system. -/
instance : Host IO where
  readText path := attempt (IO.FS.readFile path)
  writeText path text := attempt (IO.FS.writeFile path text)
  appendText path text :=
    attempt (IO.FS.withFile path .append fun file => file.putStr text)
  makeDirectory path :=
    if path == "" then pure (.ok ()) else attempt (IO.FS.createDirAll path)
  isDirectory path := do
    match ← (IO.FS.realPath path).toBaseIO with
    | .ok real => real.isDir
    | .error _ => return false
  filesBelow path := do
    match ← (do filesAmong "" (← (← IO.FS.realPath path).readDir)).toBaseIO with
    | .ok files => return files
    | .error _ => return []
  settingsDirectory := userSettings
  print text := do (← IO.getStdout).putStr text
  tell text := do (← IO.getStderr).putStr text
  today := do
    let date ← Std.Time.PlainDate.now
    return ⟨date.year, date.month.toNat, date.day.toNat⟩
  clock := IO.monoMsNow
  freshSeed := IO.rand 0 (twoTo 62)

end Overlay.CommandLine

/-- Runs the command line that the program is given. -/
def main (args : List String) : IO UInt32 := do
  let status ←
    (Overlay.CommandLine.run args : IO Overlay.CommandLine.ExitStatus)
  return status.code.toUInt32
