import ScopeProbe.Binary64.Basic
import ScopeProbe.Text.Decimal

/-!
# Dates and times

Dates of the Gregorian calendar from year 1 to year 9999, times of the day down to microseconds,
and moments, which are both together and may have an offset from universal time.  They are written
as the international standard for dates has it, the fraction of a second only where there is one.
-/

namespace ScopeProbe

structure Date where
  year : Nat
  month : Nat
  day : Nat
  deriving DecidableEq, Repr

structure Time where
  hour : Nat
  minute : Nat
  second : Nat
  microsecond : Nat := 0
  deriving DecidableEq, Repr

structure Moment where
  date : Date
  time : Time
  offset : Option Int := none
  deriving DecidableEq, Repr

namespace Date

def isLeap (year : Nat) : Bool :=
  year % 4 == 0 && (year % 100 != 0 || year % 400 == 0)

def monthLengths (year : Nat) : List Nat :=
  [31, if isLeap year then 29 else 28, 31, 30, 31, 30, 31, 31, 30, 31, 30, 31]

def isValid (date : Date) : Bool :=
  1 <= date.year && date.year <= 9999 && 1 <= date.month && 1 <= date.day &&
    (match (monthLengths date.year)[date.month - 1]? with
     | some length => date.day <= length
     | none => false)

def make? (year month day : Nat) : Option Date :=
  let date : Date := { year, month, day }
  if date.isValid then some date else none

def monthAndDay (month : Nat) : List Nat -> Nat -> Nat × Nat
  | [], day => (month, day + 1)
  | length :: more, day =>
      if day < length then (month, day + 1) else monthAndDay (month + 1) more (day - length)

def ofDays? (days : Nat) : Option Date :=
  let cycle := days % 146097
  let centuries := min (cycle / 36524) 3
  let century := cycle - centuries * 36524
  let leap := century % 1461
  let years := min (leap / 365) 3
  let year := days / 146097 * 400 + centuries * 100 + century / 1461 * 4 + years + 1
  let (month, day) := monthAndDay 1 (monthLengths year) (leap - years * 365)
  make? year month day

def text (date : Date) : Text :=
  Text.padded 4 date.year ++ '-' :: Text.padded 2 date.month ++ '-' :: Text.padded 2 date.day

end Date

namespace Time

def isValid (time : Time) : Bool :=
  time.hour < 24 && time.minute < 60 && time.second < 60 && time.microsecond < 1000000

def text (time : Time) : Text :=
  Text.padded 2 time.hour ++ ':' :: Text.padded 2 time.minute ++ ':' :: Text.padded 2 time.second ++
    if time.microsecond = 0 then [] else '.' :: Text.padded 6 time.microsecond

def ofMicroseconds (count : Nat) : Time where
  hour := count / 3600000000
  minute := count / 60000000 % 60
  second := count / 1000000 % 60
  microsecond := count % 1000000

end Time

namespace Moment

def offsetText (minutes : Int) : Text :=
  (if minutes < 0 then '-' else '+') :: Text.padded 2 (minutes.natAbs / 60) ++
    ':' :: Text.padded 2 (minutes.natAbs % 60)

def text (moment : Moment) : Text :=
  moment.date.text ++ 'T' :: moment.time.text ++
    match moment.offset with
    | none => []
    | some minutes => offsetText minutes

/-- The days from the first day of year 1 to the first day of 2001, from which moments are counted
in seconds. -/
def epochDays : Nat := 730485

def ofMicroseconds? (count : Int) : Option Moment :=
  let total := (epochDays : Int) * 86400000000 + count
  if total < 0 then none
  else
    (Date.ofDays? (total.toNat / 86400000000)).map fun date =>
      { date, time := Time.ofMicroseconds (total.toNat % 86400000000) }

/-- The number of microseconds nearest to a number of seconds.  The fraction of a second is
multiplied as a floating-point number before it is rounded. -/
def microseconds? (seconds : Binary64) : Option Int :=
  match seconds.classify with
  | .finite ⟨significand, exponent⟩ =>
      let one := twoTo (-exponent).toNat
      let value := significand * twoTo exponent.toNat
      let fraction :=
        match (Binary64.ofQuotient false (value % one * 1000000) one).classify with
        | .finite product =>
            let (n, d) := Binary64.scale product.significand 1 (-product.exponent)
            Binary64.roundQuotient n d
        | _ => 0
      let count : Int := value / one * 1000000 + fraction
      some (if seconds.negative then -count else count)
  | _ => none

def ofSeconds? (seconds : Binary64) : Option Moment :=
  (microseconds? seconds).bind ofMicroseconds?

end Moment
end ScopeProbe
