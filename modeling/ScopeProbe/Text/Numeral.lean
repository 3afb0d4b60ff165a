import ScopeProbe.Binary64.Decimal
import ScopeProbe.Text.Hexadecimal
import ScopeProbe.Unicode.Blank
import ScopeProbe.Unicode.DecimalDigit

/-!
# Numerals

Reading numbers as people write them: in the decimal digits of any script, with white space around
them and underscores between digits.
-/

namespace ScopeProbe
namespace Numeral

/-!
# Preparation
-/

def strip (text : Text) : Text :=
  ((text.dropWhile Unicode.isBlank).reverse.dropWhile Unicode.isBlank).reverse

def plainDigit (c : Char) : Char :=
  match Unicode.decimalValue? c with
  | some value => Hexadecimal.digit value
  | none => c

def plain (text : Text) : Text :=
  (strip text).map plainDigit

def dropUnderscores? (isDigit : Char -> Bool) (behindDigit : Bool) : Text -> Option Text
  | [] => some []
  | c :: rest =>
      if c = '_' then
        if behindDigit && rest.head?.any isDigit then dropUnderscores? isDigit false rest else none
      else (dropUnderscores? isDigit (isDigit c) rest).map (c :: ·)

def splitSign : Text -> Bool × Text
  | '-' :: rest => (true, rest)
  | '+' :: rest => (false, rest)
  | text => (false, text)

def signed (negative : Bool) (size : Nat) : Int :=
  if negative then -size else size

def digits? (text : Text) : Option Nat :=
  if !text.isEmpty && text.all Text.isDecimal then some (Text.numberOf text) else none

/-!
# Integers
-/

/-- The most digits that an integer may be written with. -/
def longest : Nat := 4300

def integer? (text : Text) : Option Int := do
  let (negative, rest) := splitSign (plain text)
  let digits ← dropUnderscores? Text.isDecimal false rest
  if longest < digits.length then none else (digits? digits).map (signed negative)

/-- An integer behind the mark of hexadecimal digits, behind which an underscore may stand too. -/
def hexadecimal? (text : Text) : Option Int := do
  let digits ← dropUnderscores? Hexadecimal.isDigit true ((plain text).drop 2)
  if digits.isEmpty then none else (Hexadecimal.number? digits).map Int.ofNat

def markedInteger? (text : Text) : Option Int :=
  match text with
  | '0' :: 'x' :: _ | '0' :: 'X' :: _ => hexadecimal? text
  | _ => integer? text

/-!
# Real numbers
-/

def words : List (Text × Binary64) :=
  [("inf".toList, .infinity false), ("infinity".toList, .infinity false), ("nan".toList, .nan)]

def negate (negative : Bool) (x : Binary64) : Binary64 :=
  if negative && x != .nan then .infinity true else x

def exponent? (text : Text) : Option Int :=
  match text with
  | [] => some 0
  | mark :: rest =>
      if mark = 'e' ∨ mark = 'E' then
        let (negative, digits) := splitSign rest
        (digits? digits).map (signed negative)
      else none

def finite? (negative : Bool) (text : Text) : Option Binary64 :=
  let whole := text.takeWhile Text.isDecimal
  let rest := text.dropWhile Text.isDecimal
  let (fraction, rest) :=
    match rest with
    | '.' :: rest => (rest.takeWhile Text.isDecimal, rest.dropWhile Text.isDecimal)
    | _ => ([], rest)
  let digits := whole ++ fraction
  if digits.isEmpty then none
  else (exponent? rest).map fun exponent =>
    Binary64.ofDecimal negative (Text.numberOf digits) (exponent - fraction.length)

def real? (text : Text) : Option Binary64 :=
  let (negative, rest) := splitSign (plain text)
  match words.lookup (rest.map Char.toLower) with
  | some number => some (negate negative number)
  | none => (dropUnderscores? Text.isDecimal false rest).bind (finite? negative)

end Numeral
end ScopeProbe
