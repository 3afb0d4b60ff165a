import ScopeProbe.Text.Basic

/-!
# Encodings

Reading octets in the encodings of Unicode.  What is read out of a code point is up to the reader:
a character, or none for a surrogate, or a code point of any kind.
-/

namespace ScopeProbe
namespace Encoding

abbrev Octets := List UInt8

/-!
# Code points
-/

def charOf? (code : Nat) : Option Char :=
  if 0x110000 <= code ∨ (0xD800 <= code ∧ code < 0xE000) then none else some (Char.ofNat code)

def isContinuation (octet : UInt8) : Bool :=
  0x80 <= octet && octet < 0xC0

def continued (lead : Nat) (octets : List UInt8) : Option Nat :=
  if octets.all isContinuation then
    some (octets.foldl (fun sum octet => sum * 64 + (octet.toNat - 0x80)) lead)
  else none

section

variable {α : Type}

def sequence? (element? : Nat -> Option α) (least lead : Nat) (octets : List UInt8) : Option α :=
  match continued lead octets with
  | some code => if code < least then none else element? code
  | none => none

end

/-!
# Eight bits
-/

/-- As much of a text as could be read, and whether that is all of it. -/
structure Readable (α : Type) where
  text : List α
  complete : Bool

namespace Readable

variable {α : Type}

def prepend (found : Option α) (more : Readable α) : Readable α :=
  match found with
  | some element => { more with text := element :: more.text }
  | none => ⟨[], false⟩

def whole? (found : Readable α) : Option (List α) :=
  if found.complete then some found.text else none

end Readable

section

variable {α : Type}

def utf8Prefix (element? : Nat -> Option α) : Octets -> Readable α
  | [] => ⟨[], true⟩
  | a :: rest =>
      if a < 0x80 then (utf8Prefix element? rest).prepend (element? a.toNat)
      else if a < 0xC2 then ⟨[], false⟩
      else
        match rest with
        | [] => ⟨[], false⟩
        | b :: rest =>
            if a < 0xE0 then
              (utf8Prefix element? rest).prepend (sequence? element? 0x80 (a.toNat - 0xC0) [b])
            else
              match rest with
              | [] => ⟨[], false⟩
              | c :: rest =>
                  if a < 0xF0 then
                    (utf8Prefix element? rest).prepend
                      (sequence? element? 0x800 (a.toNat - 0xE0) [b, c])
                  else
                    match rest with
                    | [] => ⟨[], false⟩
                    | d :: rest =>
                        if a < 0xF5 then
                          (utf8Prefix element? rest).prepend
                            (sequence? element? 0x10000 (a.toNat - 0xF0) [b, c, d])
                        else ⟨[], false⟩

def utf8? (element? : Nat -> Option α) (octets : Octets) : Option (List α) :=
  (utf8Prefix element? octets).whole?

end

def latin (octets : Octets) : Text :=
  octets.map fun octet => Char.ofNat octet.toNat

def ascii? (octets : Octets) : Option Text :=
  if octets.all (· < 0x80) then some (latin octets) else none

def singleOctets (char? : UInt8 -> Option Char) : Octets -> Readable Char
  | [] => ⟨[], true⟩
  | octet :: rest => (singleOctets char? rest).prepend (char? octet)

/-!
# Sixteen and thirty-two bits
-/

inductive ByteOrder where
  | bigEndian
  | littleEndian
  deriving DecidableEq, Repr

def ByteOrder.number (order : ByteOrder) (octets : List UInt8) : Nat :=
  let digits := match order with
    | .bigEndian => octets
    | .littleEndian => octets.reverse
  digits.foldl (fun sum octet => sum * 256 + octet.toNat) 0

def pairs (order : ByteOrder) : Octets -> List Nat × Bool
  | [] => ([], true)
  | a :: b :: rest =>
      let (units, even) := pairs order rest
      (order.number [a, b] :: units, even)
  | [_] => ([], false)

def quadruples? (order : ByteOrder) : Octets -> Option (List Nat)
  | [] => some []
  | a :: b :: c :: d :: rest => (quadruples? order rest).map (order.number [a, b, c, d] :: ·)
  | _ => none

def isHighSurrogate (unit : Nat) : Bool :=
  0xD800 <= unit && unit < 0xDC00

def isLowSurrogate (unit : Nat) : Bool :=
  0xDC00 <= unit && unit < 0xE000

def joinSurrogates (high low : Nat) : Nat :=
  0x10000 + high % 0x400 * 0x400 + low % 0x400

section

variable {α : Type}

def ofUnits (element? : Nat -> Option α) : List Nat -> Readable α
  | [] => ⟨[], true⟩
  | [unit] => Readable.prepend (element? unit) ⟨[], true⟩
  | high :: low :: rest =>
      if isHighSurrogate high && isLowSurrogate low then
        (ofUnits element? rest).prepend (element? (joinSurrogates high low))
      else (ofUnits element? (low :: rest)).prepend (element? high)

/-- Text in units of sixteen bits, where every unit behind a high surrogate makes a character with
it. -/
def ofPairedUnits (element? : Nat -> Option α) : List Nat -> Readable α
  | [] => ⟨[], true⟩
  | [unit] => Readable.prepend (element? unit) ⟨[], true⟩
  | high :: low :: rest =>
      if isHighSurrogate high then
        (ofPairedUnits element? rest).prepend (element? (joinSurrogates high low))
      else (ofPairedUnits element? (low :: rest)).prepend (element? high)

def utf16Prefix (read : List Nat -> Readable α) (order : ByteOrder) (octets : Octets) :
    Readable α :=
  let (units, even) := pairs order octets
  let found := read units
  { found with complete := found.complete && even }

def utf16? (element? : Nat -> Option α) (order : ByteOrder) (octets : Octets) : Option (List α) :=
  (utf16Prefix (ofUnits element?) order octets).whole?

def utf32? (element? : Nat -> Option α) (order : ByteOrder) (octets : Octets) : Option (List α) :=
  (quadruples? order octets).bind fun codes => codes.mapM element?

end

/-!
# Writing
-/

def ofString (text : String) : Octets :=
  text.toUTF8.toList

end Encoding
end ScopeProbe
