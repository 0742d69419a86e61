/-
Files by their paths: the parts of a path, and why a file cannot be used. A
path is cut at its slashes; empty parts and single dots do not count.
-/
import Overlay.Text.Cut

namespace Overlay

open Text

/-- Why a file cannot be used. -/
inductive FileFault
  | notFound
  | notDirectory
  | isDirectory
  | alreadyThere
  /-- Any other reason, as the system tells it. -/
  | refused (message : String)
  deriving DecidableEq, Repr

/-- The text of a fault. -/
def FileFault.message : FileFault → String
  | .notFound => "No such file or directory (os error 2)"
  | .notDirectory => "Not a directory (os error 20)"
  | .isDirectory => "Is a directory (os error 21)"
  | .alreadyThere => "File exists (os error 17)"
  | .refused message => message

namespace File

/-- Whether a path begins at the root of the file system. -/
def isAbsolute (path : String) : Bool := path.toList.head? == some '/'

/-- What stands between the slashes of a path. -/
def segments (path : String) : List String :=
  (splitOn '/' path.toList).map String.ofList

/-- The parts of a path. -/
def parts (path : String) : List String :=
  (segments path).filter fun s => s != "" && s != "."

/-- The last part of a path, if it is a name. -/
def name? (path : String) : Option String :=
  (parts path).getLast?.filter (· != "..")

/-- What follows the last dot of a name; a dot at its beginning does not count.
-/
def extension? (path : String) : Option String := do
  let reversed := (← name? path).toList.reverse
  let ending := reversed.takeWhile (· != '.')
  match reversed.drop ending.length with
  | _ :: _ :: _ => some (String.ofList ending.reverse)
  | _ => none

/-- Whether a path has an extension, in capital letters or not. -/
def hasExtension (extension path : String) : Bool :=
  (extension? path).any fun e => lowerAscii e == extension

/-- The directory that a path lies in; empty if it is the one at hand. -/
def parent (path : String) : String :=
  (if isAbsolute path then "/" else "") ++ join "/" (parts path).dropLast

/-- A path below a directory. -/
def below (directory path : String) : String :=
  if directory == "" || directory.toList.getLast? == some '/' then
    directory ++ path
  else directory ++ "/" ++ path

end File

end Overlay
