import ScopeProbe.Calendar

/-!
# Values

What a configuration holds.  A table keeps its fields in the order in which their names first came,
and a name stands in it once.
-/

namespace ScopeProbe

inductive Value where
  | null
  | boolean (value : Bool)
  | integer (value : Int)
  | real (value : Binary64)
  | text (value : String)
  | date (value : Date)
  | time (value : Time)
  | moment (value : Moment)
  | list (items : List Value)
  | table (fields : List (String × Value))
  deriving Repr, Inhabited

abbrev Table := List (String × Value)

namespace Table

def get? (table : Table) (name : String) : Option Value :=
  table.lookup name

def has (table : Table) (name : String) : Bool :=
  (table.get? name).isSome

def put (name : String) (value : Value) : Table -> Table
  | [] => [(name, value)]
  | (other, old) :: more =>
      if other = name then (name, value) :: more else (other, old) :: put name value more

end Table
end ScopeProbe
