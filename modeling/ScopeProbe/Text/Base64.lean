import ScopeProbe.Text.Basic

/-!
# Base 64

Octets written with four characters for every three of them.  Characters outside the alphabet do
not count.  The text ends with the padding that completes a group of four; what stands behind it
is ignored.
-/

namespace ScopeProbe
namespace Base64

def value? (c : Char) : Option Nat :=
  if 'A' <= c ∧ c <= 'Z' then some (c.toNat - 'A'.toNat)
  else if 'a' <= c ∧ c <= 'z' then some (c.toNat - 'a'.toNat + 26)
  else if '0' <= c ∧ c <= '9' then some (c.toNat - '0'.toNat + 52)
  else if c = '+' then some 62
  else if c = '/' then some 63
  else none

/-- Reads on within a group of four: how many of its characters have come, which bits are left of
the last one, and how many signs of padding have come since. -/
def decodeFrom (position left padding : Nat) : Text -> Option (List UInt8)
  | [] => if position = 0 then some [] else none
  | c :: rest =>
      if c = '=' then
        if position < 2 then decodeFrom position left padding rest
        else if position + padding + 1 < 4 then decodeFrom position left (padding + 1) rest
        else some []
      else
        match value? c, position with
        | none, _ => decodeFrom position left padding rest
        | some bits, 0 => decodeFrom 1 bits 0 rest
        | some bits, 1 =>
            (decodeFrom 2 (bits % 16) 0 rest).map ((left * 4 + bits / 16).toUInt8 :: ·)
        | some bits, 2 =>
            (decodeFrom 3 (bits % 4) 0 rest).map ((left * 16 + bits / 4).toUInt8 :: ·)
        | some bits, _ => (decodeFrom 0 0 0 rest).map ((left * 64 + bits).toUInt8 :: ·)

def decode? (text : Text) : Option (List UInt8) :=
  decodeFrom 0 0 0 text

end Base64
end ScopeProbe
