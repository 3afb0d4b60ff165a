import ScopeProbe.Failure
import ScopeProbe.Room

/-!
# Grammar files

The definition of a grammar is a dictionary, written as a JSON document if the suffix of the file
says so and as a property list otherwise.
-/

namespace ScopeProbe
namespace GrammarFile

open Encoding (Octets)

def jsonSuffix : Text :=
  ".json".toList

def jsonFailure (path : Path) : Format.Json.Fault -> Failure
  | .malformed => .load (.malformed path)
  | .tooDeep occasion => .breakdown (.tooDeep occasion)

def propertyListFailure (path : Path) : Format.PropertyList.Fault -> Failure
  | .malformed => .load (.malformed path)
  | .unknownEncoding name => .breakdown (.unknownEncoding name)
  | .textlessEncoding name => .breakdown (.textlessEncoding name)
  | .noDate => .breakdown .noDate
  | .incompleteDate missing => .breakdown (.incompleteDate missing)
  | .outsideContainer => .breakdown .outsideContainer
  | .tooDeep occasion => .breakdown (.tooDeep occasion)

def fileFailure (path : Path) : FileFault -> Failure
  | .nulInPath => .breakdown .nulInPath
  | fault => .load (.unreadable fault path)

def value (room : Room) (path : Path) (octets : Octets) : Except Failure Datum :=
  if path.suffix = jsonSuffix then
    (Format.Json.read room.json octets).mapError (jsonFailure path)
  else (Format.PropertyList.read room.archive octets).mapError (propertyListFailure path)

def definition (room : Room) (path : Path) (octets : Octets) : Except Failure Definition := do
  match ← value room path octets with
  | .table definition => .ok definition
  | _ => .error (.load (.notTable path))

def read (room : Room) (files : FileSystem) (path : Path) : Except Failure Definition := do
  definition room path (← (files.read path).mapError (fileFailure path))

end GrammarFile
end ScopeProbe
