import ScopeProbe.Format.Json
import ScopeProbe.Format.PropertyList
import ScopeProbe.Format.Toml

/-!
# Room on the stack of calls

What is nested in a file takes room on the stack of calls of the process that reads it.  How much
is left of it depends on the process and on each place in the file, so all that is known of it is
the answers to the readers that ask.
-/

namespace ScopeProbe

structure Room where
  json : Format.Json.Room
  archive : Format.PropertyList.Archive.Room
  toml : Format.Toml.Room

def Room.ample : Room where
  json := fun _ _ => none
  archive := fun _ _ _ => none
  toml := fun _ _ => none

end ScopeProbe
