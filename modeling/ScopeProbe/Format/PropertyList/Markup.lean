import ScopeProbe.Definition
import ScopeProbe.Format.Markup
import ScopeProbe.Format.PropertyList.Basic
import ScopeProbe.Text.Base64
import ScopeProbe.Text.Numeral

/-!
# Property lists in markup

Each element is a value, or the name of a field of the dictionary around it.  The elements are
taken as they start and stop, with a stack of the containers that are open.  Elements of unknown
names are passed over, what they hold is taken as if they were not there.  Of several values that
stand outside of all containers the last one counts.
-/

namespace ScopeProbe
namespace Format
namespace PropertyList

/-!
# Dates
-/

def dateSeparators : List Char :=
  ['-', '-', 'T', ':', ':']

def dateParts : List Char -> Text -> List Nat × Text
  | separator :: more, c :: a :: b :: rest =>
      if c = separator ∧ Text.isDecimal a ∧ Text.isDecimal b then
        let (parts, behind) := dateParts more rest
        (Text.numberOf [a, b] :: parts, behind)
      else ([], c :: a :: b :: rest)
  | _, text => ([], text)

def momentOf? (year : Nat) (parts : List Nat) : Except Fault Datum :=
  match parts with
  | [] => .error (.incompleteDate .month)
  | [_] => .error (.incompleteDate .day)
  | month :: day :: clock =>
      let part (place : Nat) := clock[place]?.getD 0
      let time : Time := { hour := part 0, minute := part 1, second := part 2 }
      match Date.make? year month day with
      | some date => if time.isValid then .ok (.moment { date, time }) else .error .malformed
      | none => .error .malformed

/-- A date of four digits for the year and two for each other part, with a mark behind the last
part. What follows the mark does not count. -/
def moment (text : Text) : Except Fault Datum :=
  let year := text.take 4
  if year.length = 4 ∧ year.all Text.isDecimal then
    match dateParts dateSeparators (text.drop 4) with
    | (parts, 'Z' :: _) => momentOf? (Text.numberOf year) parts
    | _ => .error .noDate
  else .error .noDate

/-!
# Scalars
-/

def orMalformed {α : Type} (write : α -> Datum) : Option α -> Except Fault Datum
  | some found => .ok (write found)
  | none => .error .malformed

def scalar? (name : String) (text : Text) : Option (Except Fault Datum) :=
  match name with
  | "integer" => some (orMalformed .integer (Numeral.markedInteger? text))
  | "real" => some (orMalformed .real (Numeral.real? text))
  | "string" => some (.ok (.text (.ofText text)))
  | "data" => some (orMalformed .octets (Base64.decode? text))
  | "date" => some (moment text)
  | _ => none

/-!
# Containers
-/

inductive Frame where
  | array (items : List Datum)
  | dictionary (fields : Definition)

inductive Slot where
  | whole
  | item
  | field (name : String)
  deriving DecidableEq, Repr

/-- How far a list has been read: the open containers with the places that they are for, the
innermost first, the name of a field whose value is to come, and the text since the last element
started. -/
structure Progress where
  frames : List (Frame × Slot) := []
  name : Option String := none
  pieces : List Text := []
  whole : Option Datum := none

namespace Progress

def claim (progress : Progress) : Except Fault (Slot × Progress) :=
  match progress.name, progress.frames with
  | some name, (.dictionary _, _) :: _ => .ok (.field name, { progress with name := none })
  | some _, [] => .error .outsideContainer
  | none, [] => .ok (.whole, progress)
  | none, (.array _, _) :: _ => .ok (.item, progress)
  | _, _ => .error .malformed

def put (progress : Progress) (slot : Slot) (value : Datum) : Progress :=
  match slot, progress.frames with
  | .item, (.array items, outer) :: more =>
      { progress with frames := (.array (value :: items), outer) :: more }
  | .field name, (.dictionary fields, outer) :: more =>
      { progress with
        frames := (.dictionary (Definition.put (.ofText name.toList) value fields), outer) :: more }
  | _, _ => { progress with whole := some value }

def add (progress : Progress) (value : Datum) : Except Fault Progress := do
  let (slot, progress) ← progress.claim
  .ok (progress.put slot value)

def takeText (progress : Progress) : Text × Progress :=
  (progress.pieces.reverse.flatten, { progress with pieces := [] })

def enter (progress : Progress) (frame : Frame) : Except Fault Progress := do
  let (slot, progress) ← progress.claim
  .ok { progress with frames := (frame, slot) :: progress.frames }

/-- Whether a field that has a name still waits for its value.  A field of an empty name does
not. -/
def waits (progress : Progress) : Bool :=
  progress.name.any (· != "")

def leave (progress : Progress) : Except Fault Progress :=
  match progress.frames with
  | [] => .error .outsideContainer
  | (.array items, slot) :: outer =>
      .ok ({ progress with frames := outer }.put slot (.list items.reverse))
  | (.dictionary fields, slot) :: outer =>
      if progress.waits then .error .malformed
      else .ok ({ progress with frames := outer }.put slot (.table fields))

def nameField (progress : Progress) : Except Fault Progress :=
  if progress.waits then .error .malformed
  else
    match progress.frames with
    | [] => .error .outsideContainer
    | (.array _, _) :: _ => .error .malformed
    | (.dictionary _, _) :: _ =>
        let (text, progress) := progress.takeText
        .ok { progress with name := some (String.ofList text) }

def start (progress : Progress) (name : String) : Except Fault Progress :=
  let progress := { progress with pieces := [] }
  match name with
  | "dict" => progress.enter (.dictionary [])
  | "array" => progress.enter (.array [])
  | _ => .ok progress

def stop (progress : Progress) (name : String) : Except Fault Progress :=
  match name with
  | "dict" | "array" => progress.leave
  | "key" => progress.nameField
  | "true" => progress.add (.boolean true)
  | "false" => progress.add (.boolean false)
  | _ =>
      let (text, rest) := progress.takeText
      match scalar? name text with
      | some value => do rest.add (← value)
      | none => .ok progress

def take (progress : Progress) : Markup.Event -> Except Fault Progress
  | .start name => progress.start name
  | .stop name => progress.stop name
  | .text text => .ok { progress with pieces := text :: progress.pieces }

end Progress

def Fault.ofMarkup : Markup.Fault -> Fault
  | .malformed => .malformed
  | .unknownEncoding name => .unknownEncoding name
  | .textlessEncoding name => .textlessEncoding name

def ofDocument (document : Markup.Document) : Except Fault Datum := do
  let progress ← document.events.foldlM Progress.take {}
  match document.fault with
  | some fault => .error (.ofMarkup fault)
  | none => .ok (progress.whole.getD .null)

end PropertyList
end Format
end ScopeProbe
