import ScopeProbe.Path

/-!
# Files

The files and folders below the working directory.  A path is followed part by part, and every
folder on the way must exist, also in front of a part of two dots.  Nothing is known to exist
outside of the working directory apart from the folders above it.
-/

namespace ScopeProbe

inductive FileFault where
  | missing
  | isFolder
  | notFolder
  | nameTooLong
  | nulInPath
  deriving DecidableEq, Repr

namespace FileFault

def reason : FileFault -> String
  | missing => "No such file or directory"
  | isFolder => "Is a directory"
  | notFolder => "Not a directory"
  | nameTooLong => "File name too long"
  | nulInPath => "embedded null byte"

end FileFault

abbrev Place := List String

structure FileSystem where
  folders : List Place := []
  files : List (Place × List UInt8) := []

namespace FileSystem

/-- A place below the working directory, or one of the folders outside of it. -/
inductive Location where
  | below (place : Place)
  | outside
  deriving DecidableEq, Repr

def isFolder (system : FileSystem) (place : Place) : Bool :=
  place.isEmpty || system.folders.contains place

def file? (system : FileSystem) (place : Place) : Option (List UInt8) :=
  system.files.lookup place

def longestName : Nat := 255

def longestPath : Nat := 4095

def enter (system : FileSystem) (location : Location) (part : String) :
    Except FileFault Location :=
  match location with
  | .outside => if part = ".." then .ok .outside else .error .missing
  | .below place =>
      if !system.isFolder place then .error .notFolder
      else if part = ".." then
        if place.isEmpty then .ok .outside else .ok (.below place.dropLast)
      else if longestName < part.utf8ByteSize then .error .nameTooLong
      else
        let inner := place ++ [part]
        if system.isFolder inner || (system.file? inner).isSome then .ok (.below inner)
        else .error .missing

def start : Anchor -> Location
  | .relative | .workingDirectory => .below []
  | .root | .doubleRoot => .outside

def resolve (system : FileSystem) (path : Path) : Except FileFault Location :=
  if path.parts.any (·.toList.contains '\x00') then .error .nulInPath
  else if longestPath < path.toString.utf8ByteSize then .error .nameTooLong
  else path.parts.foldlM system.enter (start path.anchor)

def read (system : FileSystem) (path : Path) : Except FileFault (List UInt8) := do
  match ← system.resolve path with
  | .outside => .error .isFolder
  | .below place =>
      match system.file? place with
      | some content => .ok content
      | none => .error .isFolder

/-!
# Changes
-/

def addFolder (system : FileSystem) (place : Place) : FileSystem :=
  if system.isFolder place then system
  else { system with folders := place :: system.folders }

def reach (system : FileSystem) (place : Place) : List String -> FileSystem × Place
  | [] => (system, place)
  | part :: more =>
      if part = ".." then reach system place.dropLast more
      else reach (system.addFolder (place ++ [part])) (place ++ [part]) more

def makeFolder (system : FileSystem) (path : Path) : FileSystem :=
  (system.reach [] path.parts).1

def write (system : FileSystem) (path : Path) (content : List UInt8) : FileSystem :=
  let (system, folder) := system.reach [] path.parent.parts
  let place := folder ++ path.parts.getLast?.toList
  { system with files := (place, content) :: system.files.filter (·.1 != place) }

def delete (system : FileSystem) (path : Path) : FileSystem :=
  match system.resolve path with
  | .ok (.below place) => { system with files := system.files.filter (·.1 != place) }
  | _ => system

end FileSystem
end ScopeProbe
