import ScopeProbe.Definition
import ScopeProbe.Format.PropertyList.Basic
import ScopeProbe.Power
import ScopeProbe.Text.Encoding

/-!
# Property lists in octets

An archive holds objects, a table of their places, and at its end a trailer that tells where the
table is and which object is the whole.  A container refers to what it holds by the numbers of the
objects.  Each object is read once, however many containers refer to it.  A container may hold
itself: inside of it a mark stands for it.  Every container that is being read takes room on the
stack of calls, and how much room there is, the archive does not tell.
-/

namespace ScopeProbe
namespace Format
namespace PropertyList

open Encoding (Octets)

def numberOf (octets : Octets) : Nat :=
  Encoding.ByteOrder.bigEndian.number octets

def signedNumberOf (octets : Octets) : Int :=
  let size := numberOf octets
  if octets.head?.any (0x80 <= ·) then (size : Int) - twoTo (8 * octets.length) else size

def run? (count : Nat) (octets : Octets) : Option (Octets × Octets) :=
  let found := octets.take count
  if found.length = count then some (found, octets.drop count) else none

def group (size : Nat) : Nat -> Octets -> List Octets
  | 0, _ => []
  | count + 1, octets => octets.take size :: group size count (octets.drop size)

def numbers? (size count : Nat) (octets : Octets) : Option (List Nat × Octets) :=
  if size = 0 ∨ octets.length < size * count then none
  else some ((group size count octets).map numberOf, octets.drop (size * count))

/-!
# Archives
-/

structure Archive where
  octets : Octets
  referenceSize : Nat
  places : List Nat

def Archive.ofOctets? (octets : Octets) : Option (Archive × Nat) := do
  let (trailer, _) ← run? 32 (octets.drop (octets.length - 32))
  let count := numberOf ((trailer.drop 8).take 8)
  let top := numberOf ((trailer.drop 16).take 8)
  let table := numberOf (trailer.drop 24)
  let (places, _) ← numbers? (numberOf ((trailer.drop 6).take 1)) count (octets.drop table)
  some ({ octets, referenceSize := numberOf ((trailer.drop 7).take 1), places }, top)

/-!
# Objects
-/

/-- What an object is before the objects that it refers to are read. -/
inductive Shape where
  | scalar (value : Datum)
  | array (items : List Nat)
  | dictionary (names values : List Nat)

def count? (low : Nat) (octets : Octets) : Option (Nat × Octets) :=
  if low < 15 then some (low, octets)
  else
    match octets with
    | [] => none
    | mark :: rest => do
        let (found, rest) ← run? (twoTo (mark.toNat % 4)) rest
        some (numberOf found, rest)

def parts? (size low : Nat) (octets : Octets) : Option Octets := do
  let (count, octets) ← count? low octets
  let (found, _) ← run? (size * count) octets
  some found

def constant? (kind : Nat) : Option Datum :=
  match kind with
  | 0x00 => some .null
  | 0x08 => some (.boolean false)
  | 0x09 => some (.boolean true)
  | 0x0F => some (.octets [])
  | _ => none

def floating? (kind : Nat) (octets : Octets) : Option Datum :=
  match kind with
  | 0x22 => (run? 4 octets).map fun (found, _) => .real (Binary64.ofWord32 (numberOf found))
  | 0x23 => (run? 8 octets).map fun (found, _) => .real ⟨(numberOf found).toUInt64⟩
  | 0x33 => do
      let (found, _) ← run? 8 octets
      (Moment.ofSeconds? ⟨(numberOf found).toUInt64⟩).map .moment
  | _ => none

def integerOf (low : Nat) (octets : Octets) : Datum :=
  let found := octets.take (twoTo low)
  .integer (if low < 3 then numberOf found else signedNumberOf found)

def textOf? (text : Option Text) : Option Datum :=
  text.map fun text => .text (.ofText text)

def scalar (kind : Nat) (octets : Octets) : Option Datum :=
  let low := kind % 16
  match kind / 16 with
  | 0x1 => some (integerOf low octets)
  | 0x4 => (parts? 1 low octets).map .octets
  | 0x5 => (parts? 1 low octets).bind fun found => textOf? (Encoding.ascii? found)
  | 0x6 => (parts? 2 low octets).bind fun found =>
    textOf? (Encoding.utf16? Encoding.charOf? .bigEndian found)
  | 0x8 =>
      let label := numberOf (octets.take (low + 1))
      if label < twoTo 64 then some (.label label) else none
  | _ => constant? kind <|> floating? kind octets

namespace Archive

def shape? (archive : Archive) (number : Nat) : Option Shape := do
  match archive.octets.drop (← archive.places[number]?) with
  | [] => none
  | first :: octets =>
      let kind := first.toNat
      match kind / 16 with
      | 0xA =>
          let (count, octets) ← count? (kind % 16) octets
          let (items, _) ← numbers? archive.referenceSize count octets
          some (.array items)
      | 0xD =>
          let (count, octets) ← count? (kind % 16) octets
          let (names, octets) ← numbers? archive.referenceSize count octets
          let (values, _) ← numbers? archive.referenceSize count octets
          some (.dictionary names values)
      | _ => (scalar kind octets).map .scalar

end Archive

/-!
# Reading
-/

inductive Standing where
  | unread
  | opened
  | done (value : Datum)

def readAll (read : Nat -> Array Standing -> Except Fault (Datum × Array Standing)) :
    List Nat -> Array Standing -> Except Fault (List Datum × Array Standing)
  | [], found => .ok ([], found)
  | number :: more, found => do
      let (value, found) ← read number found
      let (values, found) ← readAll read more found
      .ok (value :: values, found)

def readFields (read : Nat -> Array Standing -> Except Fault (Datum × Array Standing)) :
    List (Nat × Nat) -> Array Standing -> Except Fault (Definition × Array Standing)
  | [], found => .ok ([], found)
  | (name, value) :: more, found => do
      let (value, found) ← read value found
      let (name, found) ← read name found
      let name ← name.name?.elim (.error .malformed) .ok
      let (fields, found) ← readFields read more found
      .ok ((name, value) :: fields, found)

def definitionOf (fields : Definition) : Definition :=
  fields.foldl (fun definition (name, value) => definition.put name value) []

namespace Archive

/-- Whether there is room to read an object that is not read yet inside of some containers, the
innermost first, and if not, on which occasion that is noticed. -/
abbrev Room := Archive -> (around : List Nat) -> (number : Nat) -> Option String

def Room.check (room : Room) (archive : Archive) (around : List Nat) (number : Nat) :
    Except Fault Unit :=
  match room archive around number with
  | none => .ok ()
  | some occasion => .error (.tooDeep occasion)

/-- Reads an object inside of some containers, unless it has been read.  At most so many containers
can be open around it. -/
def readObject (room : Room) (archive : Archive) :
    (bound : Nat) -> (around : List Nat) -> (number : Nat) -> Array Standing ->
      Except Fault (Datum × Array Standing)
  | 0, _, _, _ => .error .malformed
  | bound + 1, around, number, found =>
      match found[number]? with
      | none => .error .malformed
      | some (.done value) => .ok (value, found)
      | some .opened => .ok (.enclosing number, found)
      | some .unread => do
          room.check archive around number
          let read := archive.readObject room bound (number :: around)
          match archive.shape? number with
          | none => .error .malformed
          | some (.scalar value) => .ok (value, found.setIfInBounds number (.done value))
          | some (.array items) => do
              let (items, found) ← readAll read items (found.setIfInBounds number .opened)
              .ok (.list items, found.setIfInBounds number (.done (.list items)))
          | some (.dictionary names values) => do
              let (fields, found) ←
                readFields read (names.zip values) (found.setIfInBounds number .opened)
              let value := Datum.table (definitionOf fields)
              .ok (value, found.setIfInBounds number (.done value))

end Archive

def ofArchive (room : Archive.Room) (octets : Octets) : Except Fault Datum :=
  match Archive.ofOctets? octets with
  | none => .error .malformed
  | some (archive, top) => do
      let count := archive.places.length
      let (value, _) ←
        archive.readObject room (count + 1) [] top (Array.replicate count .unread)
      .ok value

end PropertyList
end Format
end ScopeProbe
