import ScopeProbe.Binary64.Basic
import ScopeProbe.Text.Decimal

/-!
# Decimal texts of numbers

Reading gives the number nearest to a decimal.  Writing uses the fewest digits that read back as the
same number, and of those decimals the nearest, a tie going to the even digit.
-/

namespace ScopeProbe
namespace Binary64

/-!
# Reading
-/

def ofDecimal (negative : Bool) (digits : Nat) (exponent : Int) : Binary64 :=
  let size := exponent + (Nat.toDigits 10 digits).length
  if digits = 0 ∨ size < -400 then ofParts negative 0
  else if 400 < size then infinity negative
  else if exponent < 0 then ofQuotient negative digits (tenTo exponent.natAbs)
  else ofQuotient negative (digits * tenTo exponent.natAbs) 1

/-!
# Shortest digits
-/

/-- The reals that read back as a number, as quotients with a common denominator: the number itself,
the ends of the interval around it, and whether the ends belong to it. -/
structure Interval where
  value : Nat
  low : Nat
  high : Nat
  denominator : Nat
  closed : Bool
  deriving Repr

def Magnitude.interval (magnitude : Magnitude) : Interval :=
  let m := magnitude.significand
  let below := if m = twoTo 52 ∧ -1074 < magnitude.exponent then 1 else 2
  let up := twoTo (magnitude.exponent - 2).toNat
  { value := 4 * m * up
    low := (4 * m - below) * up
    high := (4 * m + 2) * up
    denominator := twoTo (2 - magnitude.exponent).toNat
    closed := m % 2 = 0 }

namespace Interval

def point (interval : Interval) : Int :=
  if interval.denominator <= interval.value then
    (Nat.toDigits 10 (interval.value / interval.denominator)).length
  else 1 - (Nat.toDigits 10 ((interval.denominator - 1) / interval.value)).length

def sides (interval : Interval) (part multiple : Nat) (grid : Int) : Nat × Nat :=
  if grid < 0 then (part * tenTo grid.natAbs, multiple * interval.denominator)
  else (part, multiple * tenTo grid.natAbs * interval.denominator)

def has (interval : Interval) (multiple : Nat) (grid : Int) : Bool :=
  let (low, point) := interval.sides interval.low multiple grid
  let (high, _) := interval.sides interval.high multiple grid
  if interval.closed then low <= point && point <= high else low < point && point < high

def floorAt (interval : Interval) (grid : Int) : Nat :=
  let (value, one) := interval.sides interval.value 1 grid
  value / one

def nearestAt? (interval : Interval) (grid : Int) : Option Nat :=
  let below := interval.floorAt grid
  let (value, one) := interval.sides interval.value 1 grid
  let rest := 2 * (value - below * one)
  let preferBelow := rest < one || (rest == one && below % 2 == 0)
  let first := if preferBelow then below else below + 1
  let second := if preferBelow then below + 1 else below
  if interval.has first grid then some first
  else if interval.has second grid then some second
  else none

def search (interval : Interval) (point : Int) : List Nat -> Nat × Int
  | [] => (interval.value, 0)
  | count :: more =>
      let grid := point - count
      match interval.nearestAt? grid with
      | some multiple => (multiple, grid)
      | none => search interval point more

end Interval

def Magnitude.shortest (magnitude : Magnitude) : Text × Int :=
  let interval := magnitude.interval
  let (multiple, grid) := interval.search interval.point (List.range' 1 17)
  let digits := Nat.toDigits 10 multiple
  let significant := (digits.reverse.dropWhile (· == '0')).reverse
  (significant, grid + digits.length)

/-!
# Layout
-/

/-- A number is written with a point from 0.0001 up to below 10 to the power of 16, with at least
one digit behind the point, and otherwise with an exponent of at least two digits and a sign. -/
def layout (digits : Text) (point : Int) : Text :=
  if -4 < point ∧ point <= 16 then
    if point <= 0 then "0.".toList ++ List.replicate point.natAbs '0' ++ digits
    else
      let whole := digits.take point.toNat
      let zeros := List.replicate (point.toNat - digits.length) '0'
      let fraction := digits.drop point.toNat
      whole ++ zeros ++ '.' :: (if fraction.isEmpty then ['0'] else fraction)
  else
    let exponent := point - 1
    let mantissa := digits.take 1 ++ if digits.length <= 1 then [] else '.' :: digits.drop 1
    mantissa ++ 'e' :: (if exponent < 0 then '-' else '+') :: Text.padded 2 exponent.natAbs

def text (x : Binary64) : Text :=
  let sign := if x.negative then ['-'] else []
  match x.classify with
  | .nan => "nan".toList
  | .infinite => sign ++ "inf".toList
  | .finite magnitude =>
      if magnitude.significand = 0 then sign ++ "0.0".toList
      else
        let (digits, point) := magnitude.shortest
        sign ++ layout digits point

end Binary64
end ScopeProbe
