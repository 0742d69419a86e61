/-
A host in memory: a table of files, and what commands have put out. There is
one working directory, and nothing outside of it but a few devices. A directory
is there if it was made or if a file lies below it.
-/
import Overlay.CommandLine.Host
import Overlay.Table

namespace Overlay.CommandLine

open Text

/-- Files and results in memory. -/
structure Memory where
  /-- The texts of files, by the parts of their paths. -/
  files : List (List String × String) := []
  /-- The directories that were made. -/
  made : List (List String) := []
  /-- What was put out, the latest first. -/
  printed : List String := []
  today : Calendar.Date
  deriving Inhabited

namespace Memory

/-- A memory that holds some files. -/
def ofFiles (files : Table String) (today : Calendar.Date) : Memory :=
  { files := files.map fun (path, text) => (File.parts path, text),
    today := today }

/-- The text of a file, by the parts of its path. -/
def text? (s : Memory) (place : List String) : Option String :=
  (s.files.find? (·.1 == place)).map (·.2)

/-- Whether there is a directory. -/
def hasDirectory (s : Memory) (place : List String) : Bool :=
  place.isEmpty || s.made.any (place.isPrefixOf ·)
    || s.files.any fun f => place.isPrefixOf f.1 && f.1.length > place.length

/-- The place that is reached from a directory along the segments of a path.
Every place on the way has to be a directory. -/
def walk (s : Memory) :
    (start path : List String) → Except FileFault (List String)
  | start, [] => .ok start
  | start, name :: rest =>
    if (s.text? start).isSome then .error .notDirectory
    else if !s.hasDirectory start then .error .notFound
    else if name == "" || name == "." then s.walk start rest
    else if name == ".." then
      if start.isEmpty then .error .notFound else s.walk start.dropLast rest
    else s.walk (start ++ [name]) rest

/-- The place of a path. -/
def place (s : Memory) (path : String) : Except FileFault (List String) :=
  if path == "" || File.isAbsolute path then .error .notFound
  else s.walk [] (File.segments path)

/-- Whether a path leads to a device that takes any text and keeps none. -/
def isSink (path : String) : Bool :=
  path == "/dev/null" || path == "/dev/stderr"

/-- The text in a file. -/
def read (s : Memory) (path : String) : Except FileFault String := do
  if isSink path then return ""
  let place ← s.place path
  match s.text? place with
  | some text => return text
  | none => throw (if s.hasDirectory place then .isDirectory else .notFound)

/-- The memory with a text in a file. What goes to the standard output is put
out. -/
def write (s : Memory) (path text : String) : Except FileFault Memory := do
  if isSink path then return s
  if path == "/dev/stdout" then return { s with printed := text :: s.printed }
  let place ← s.place path
  if s.hasDirectory place then throw .isDirectory
  return { s with files := (place, text) :: s.files.filter (·.1 != place) }

/-- The memory with a text at the end of a file. -/
def append (s : Memory) (path text : String) : Except FileFault Memory := do
  if isSink path || path == "/dev/stdout" then return ← s.write path text
  let place ← s.place path
  s.write path ((s.text? place).getD "" ++ text)

/-- The memory with directories along the segments of a path. -/
def makeAlong (s : Memory) :
    (start path : List String) → Except FileFault Memory
  | start, [] =>
    if (s.text? start).isSome then .error .alreadyThere
    else .ok { s with made := start :: s.made }
  | start, name :: rest =>
    if (s.text? start).isSome then .error .notDirectory
    else
      let here := { s with made := start :: s.made }
      if name == "" || name == "." then here.makeAlong start rest
      else if name == ".." then here.makeAlong start.dropLast rest
      else here.makeAlong (start ++ [name]) rest

/-- The memory with a directory. -/
def make (s : Memory) (path : String) : Except FileFault Memory :=
  if path == "" || path == "/" || path == "/dev" then .ok s
  else if File.isAbsolute path then
    .error (.refused "Permission denied (os error 13)")
  else s.makeAlong [] (File.segments path)

/-- Whether a path leads to a directory. -/
def leadsToDirectory (s : Memory) (path : String) : Bool :=
  match s.place path with
  | .ok place => s.hasDirectory place
  | .error _ => false

/-- Whether one path stands before another: by the first part in which they
differ. -/
def inOrder : List String → List String → Bool
  | [], _ => true
  | _ :: _, [] => false
  | a :: as, b :: bs => if a == b then inOrder as bs else decide (a < b)

/-- The files below a directory. -/
def below (s : Memory) (path : String) : List String :=
  match s.place path with
  | .ok place =>
    let inside :=
      s.files.filter fun f => place.isPrefixOf f.1 && f.1.length > place.length
    ((inside.map fun f => f.1.drop place.length).mergeSort inOrder).map
      (join "/")
  | .error _ => []

/-- All that was put out. -/
def output (s : Memory) : String := String.join s.printed.reverse

/-- A change that may fail and then leaves the memory as it is. -/
def change (f : Memory → Except FileFault Memory) :
    StateM Memory (Except FileFault Unit) := fun s =>
  match f s with
  | .ok s => (.ok (), s)
  | .error fault => (.error fault, s)

end Memory

/-- Commands act on the memory. The user's settings are in the working
directory, the clock stands still, and what is told beside the result is lost.
-/
instance : Host (StateM Memory) where
  readText path := do return (← get).read path
  writeText path text := Memory.change (·.write path text)
  appendText path text := Memory.change (·.append path text)
  makeDirectory path := Memory.change (·.make path)
  isDirectory path := do return (← get).leadsToDirectory path
  filesBelow path := do return (← get).below path
  settingsDirectory := pure (some "")
  print text := modify fun s => { s with printed := text :: s.printed }
  tell _ := pure ()
  today := do return (← get).today
  clock := pure 0
  freshSeed := pure 0

end Overlay.CommandLine
