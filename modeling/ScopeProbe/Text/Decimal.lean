import ScopeProbe.Text.Basic

/-!
# Decimal digits

Integers in decimal digits, with a minus sign in front of a negative one and no leading zeros.
-/

namespace ScopeProbe
namespace Text

def ofNat (n : Nat) : Text :=
  Nat.toDigits 10 n

def ofInt (n : Int) : Text :=
  if n < 0 then '-' :: ofNat n.natAbs else ofNat n.natAbs

def isDecimal (c : Char) : Bool :=
  '0' <= c && c <= '9'

def digitValue (c : Char) : Nat :=
  c.toNat - '0'.toNat

def numberOf (digits : Text) : Nat :=
  digits.foldl (fun sum c => sum * 10 + digitValue c) 0

def padded (width n : Nat) : Text :=
  let digits := ofNat n
  List.replicate (width - digits.length) '0' ++ digits

end Text
end ScopeProbe
