import ScopeProbe.Calendar

/-!
# Definitions

What the file of a grammar holds, whichever format it is written in.  Its texts are sequences of
code points, among which a surrogate may stand without its partner.  The names of its fields may be
anything but containers.  Numbers name the same field if they have the same size, whatever their
kind.  A dictionary keeps its fields in the order in which their names first came.
-/

namespace ScopeProbe

/-!
# Texts
-/

inductive CodePoint where
  | char (c : Char)
  | surrogate (unit : Nat)
  deriving DecidableEq, Repr

abbrev WideText := List CodePoint

namespace CodePoint

def ofNat (code : Nat) : CodePoint :=
  if 0xD800 <= code ∧ code < 0xE000 then .surrogate code else .char (Char.ofNat code)

def ofNat? (code : Nat) : Option CodePoint :=
  if 0x110000 <= code then none else some (ofNat code)

end CodePoint

def WideText.ofText (text : Text) : WideText :=
  text.map .char

/-!
# Names of fields
-/

inductive FieldName where
  | null
  | boolean (value : Bool)
  | integer (value : Int)
  | real (value : Binary64)
  | text (value : WideText)
  | octets (value : List UInt8)
  | moment (value : Moment)
  | label (number : Nat)
  deriving DecidableEq, Repr

namespace FieldName

def ofText (text : Text) : FieldName :=
  .text (.ofText text)

/-- The name that stands for all names of the same field. -/
def key : FieldName -> FieldName
  | boolean value => integer (if value then 1 else 0)
  | real value => (value.integer?).elim (real value) integer
  | name => name

end FieldName

/-!
# Data
-/

inductive Datum where
  | null
  | boolean (value : Bool)
  | integer (value : Int)
  | real (value : Binary64)
  | text (value : WideText)
  | octets (value : List UInt8)
  | moment (value : Moment)
  | label (number : Nat)
  | list (items : List Datum)
  | table (fields : List (FieldName × Datum))
  | enclosing (container : Nat)
  deriving Repr, Inhabited

def Datum.name? : Datum -> Option FieldName
  | .null => some .null
  | .boolean value => some (.boolean value)
  | .integer value => some (.integer value)
  | .real value => some (.real value)
  | .text value => some (.text value)
  | .octets value => some (.octets value)
  | .moment value => some (.moment value)
  | .label number => some (.label number)
  | .list _ | .table _ | .enclosing _ => none

abbrev Definition := List (FieldName × Datum)

namespace Definition

def get? (definition : Definition) (name : FieldName) : Option Datum :=
  (definition.find? fun field => field.1.key = name.key).map Prod.snd

def put (name : FieldName) (value : Datum) : Definition -> Definition
  | [] => [(name, value)]
  | (other, old) :: more =>
      if other.key = name.key then (other, value) :: more else (other, old) :: put name value more

end Definition
end ScopeProbe
