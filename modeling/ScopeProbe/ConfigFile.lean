import ScopeProbe.Failure
import ScopeProbe.Room

/-!
# Configuration files

A configuration is a TOML document, at a path of its own or under the usual name in a folder.
Where there is no file the configuration is empty.
-/

namespace ScopeProbe
namespace ConfigFile

open Encoding (Octets)

def usualName : Path :=
  Path.ofString "manascope.toml"

def location (path : Option Path) (folder : Path) : Path :=
  path.getD (folder.join usualName)

def failure (path : Path) : Format.Toml.Fault -> Failure
  | .malformed => .config (.malformed path)
  | .notText => .breakdown .notText
  | .integerTooLong digits => .breakdown (.integerTooLong digits)
  | .tooDeep occasion => .breakdown (.tooDeep occasion)

def table (room : Room) (path : Path) (octets : Octets) : Except Failure Table :=
  (Format.Toml.read room.toml octets).mapError (failure path)

/-- Reads a configuration.  That a name is too long for a file is not the same as that there is
none. -/
def read (room : Room) (files : FileSystem) (path : Option Path) (folder : Path) :
    Except Failure Table :=
  let path := location path folder
  match files.read path with
  | .ok octets => table room path octets
  | .error .nameTooLong => .error (.breakdown (.nameTooLong path))
  | .error _ => .ok []

end ConfigFile
end ScopeProbe
