import ScopeProbe.Power

/-!
# Floating-point numbers of 64 bits

A number is its word of 64 bits: a sign, eleven bits of exponent and 52 bits of fraction.  A
finite word stands for an integer significand times a power of two.  Rounding takes a quotient of
natural numbers to the nearest finite word, a tie to the even one, and to infinity where it is too
large.  All of this is exact arithmetic of natural numbers.
-/

namespace ScopeProbe

structure Binary64 where
  bits : UInt64
  deriving DecidableEq, Repr

namespace Binary64

/-!
# The parts of a word
-/

def negative (x : Binary64) : Bool :=
  x.bits.toNat / twoTo 63 == 1

def exponentField (x : Binary64) : Nat :=
  x.bits.toNat / twoTo 52 % twoTo 11

def fractionField (x : Binary64) : Nat :=
  x.bits.toNat % twoTo 52

/-- A finite magnitude as an integer and the power of two that it is multiplied with. -/
structure Magnitude where
  significand : Nat
  exponent : Int
  deriving DecidableEq, Repr

inductive Class where
  | nan
  | infinite
  | finite (magnitude : Magnitude)
  deriving DecidableEq, Repr

def classify (x : Binary64) : Class :=
  if x.exponentField = 2047 then
    if x.fractionField = 0 then .infinite else .nan
  else if x.exponentField = 0 then .finite ⟨x.fractionField, -1074⟩
  else .finite ⟨x.fractionField + twoTo 52, (x.exponentField : Int) - 1075⟩

def integer? (x : Binary64) : Option Int :=
  match x.classify with
  | .finite ⟨significand, exponent⟩ =>
      let unit := twoTo exponent.natAbs
      let signed (size : Nat) : Int := if x.negative then -(size : Int) else size
      if 0 <= exponent then some (signed (significand * unit))
      else if significand % unit = 0 then some (signed (significand / unit))
      else none
  | _ => none

/-!
# Words
-/

def ofParts (negative : Bool) (magnitude : Nat) : Binary64 :=
  ⟨(magnitude + if negative then twoTo 63 else 0).toUInt64⟩

def infinity (negative : Bool) : Binary64 :=
  ofParts negative (2047 * twoTo 52)

def nan : Binary64 :=
  ofParts false (2047 * twoTo 52 + twoTo 51)

/-!
# Rounding
-/

/-- The integer nearest to a quotient, the even one of two. -/
def roundQuotient (numerator denominator : Nat) : Nat :=
  let floor := numerator / denominator
  let twice := 2 * (numerator % denominator)
  if denominator < twice then floor + 1
  else if twice = denominator then floor + floor % 2
  else floor

def scale (numerator denominator : Nat) (exponent : Int) : Nat × Nat :=
  if exponent < 0 then (numerator * twoTo exponent.natAbs, denominator)
  else (numerator, denominator * twoTo exponent.natAbs)

def binaryExponent (numerator denominator : Nat) : Int :=
  let guess := (numerator.log2 : Int) - denominator.log2
  let (n, d) := scale numerator denominator guess
  if d <= n then guess else guess - 1

def magnitudeOfQuotient (numerator denominator : Nat) : Nat :=
  if numerator = 0 then 0
  else
    let exponent := max (binaryExponent numerator denominator - 52) (-1074)
    let (n, d) := scale numerator denominator exponent
    let significand := roundQuotient n d
    min (significand + (exponent + 1074).toNat * twoTo 52) (2047 * twoTo 52)

def ofQuotient (negative : Bool) (numerator denominator : Nat) : Binary64 :=
  ofParts negative (magnitudeOfQuotient numerator denominator)

def ofWord32 (word : Nat) : Binary64 :=
  let negative := word / twoTo 31 == 1
  let exponent := word / twoTo 23 % twoTo 8
  let fraction := word % twoTo 23
  if exponent = 255 then
    if fraction = 0 then infinity negative
    else ofParts negative (2047 * twoTo 52 + fraction * twoTo 29)
  else if exponent = 0 then ofQuotient negative fraction (twoTo 149)
  else ofParts negative ((exponent + 896) * twoTo 52 + fraction * twoTo 29)

end Binary64
end ScopeProbe
