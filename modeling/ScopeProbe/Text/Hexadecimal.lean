/-!
# Hexadecimal digits

Numbers to base sixteen, written with small letters and read with letters of either case.
-/

namespace ScopeProbe
namespace Hexadecimal

def digit (value : Nat) : Char :=
  if value < 10 then Char.ofNat ('0'.toNat + value) else Char.ofNat ('a'.toNat + (value - 10))

def padded (width : Nat) (value : Nat) : List Char :=
  match width with
  | 0 => []
  | more + 1 => padded more (value / 16) ++ [digit (value % 16)]

def value? (c : Char) : Option Nat :=
  if '0' <= c ∧ c <= '9' then some (c.toNat - '0'.toNat)
  else if 'a' <= c ∧ c <= 'f' then some (c.toNat - 'a'.toNat + 10)
  else if 'A' <= c ∧ c <= 'F' then some (c.toNat - 'A'.toNat + 10)
  else none

def isDigit (c : Char) : Bool :=
  (value? c).isSome

def number? (digits : List Char) : Option Nat :=
  digits.foldlM (fun sum c => (value? c).map (sum * 16 + ·)) 0

def octets? : List Char -> Option (List UInt8)
  | [] => some []
  | high :: low :: rest => do
      let value ← number? [high, low]
      let more ← octets? rest
      some (value.toUInt8 :: more)
  | [_] => none

end Hexadecimal
end ScopeProbe
