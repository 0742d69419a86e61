/-
Configurations in files. A file named `*.toml`, in capital letters or not,
holds TOML; any other one holds JSON.
-/
import Overlay.Config.Reader
import Overlay.Failure

namespace Overlay.Config

/-- The format of a file, by its path. -/
def Format.ofPath (path : String) : Format :=
  if File.hasExtension "toml" path then .toml else .json

/-- The configuration in a text. -/
def ofText (format : Format) (text : String) : Except Failure Config :=
  (Config.parse format text).mapError .invalidConfiguration

/-- The configuration in a file, by its path and what reading it has given. -/
def ofFile (path : String) (content : Except FileFault String) :
    Except Failure Config :=
  match content with
  | .ok text => ofText (.ofPath path) text
  | .error fault => .error (.file fault)

end Overlay.Config
