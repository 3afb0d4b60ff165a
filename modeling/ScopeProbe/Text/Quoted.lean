import ScopeProbe.Text.Basic
import ScopeProbe.Text.Hexadecimal
import ScopeProbe.Unicode.Printable

/-!
# Quoted text

A text in quotation marks, in printable characters only.  The mark is the apostrophe unless the
text holds apostrophes and no double quotes.  A backslash, the mark itself and the common controls
have short escapes; any other character that cannot be shown is written by its code point, in two,
four or eight hexadecimal digits, whichever first suffices.
-/

namespace ScopeProbe
namespace Text

def quoteMark (text : Text) : Char :=
  if text.contains '\'' && !text.contains '"' then '"' else '\''

def escape (mark c : Char) : Text :=
  if c = '\\' ∨ c = mark then ['\\', c]
  else if c = '\n' then ['\\', 'n']
  else if c = '\r' then ['\\', 'r']
  else if c = '\t' then ['\\', 't']
  else if Unicode.isPrintable c then [c]
  else if c.toNat < 0x100 then '\\' :: 'x' :: Hexadecimal.padded 2 c.toNat
  else if c.toNat < 0x10000 then '\\' :: 'u' :: Hexadecimal.padded 4 c.toNat
  else '\\' :: 'U' :: Hexadecimal.padded 8 c.toNat

def quoted (text : Text) : Text :=
  let mark := quoteMark text
  mark :: text.flatMap (escape mark) ++ [mark]

end Text
end ScopeProbe
