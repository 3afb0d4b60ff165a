import ScopeProbe.Format.Markup.Name
import ScopeProbe.Text.Decimal
import ScopeProbe.Text.Encoding
import ScopeProbe.Text.Hexadecimal

/-!
# Characters of markup

What all parts of a document are made of: blanks, literals, references, comments and instructions.
-/

namespace ScopeProbe
namespace Format
namespace Markup

/-!
# Characters
-/

def isBlank (c : Char) : Bool :=
  c == ' ' || c == '\t' || c == '\n' || c == '\r'

def isAllowed (c : Char) : Bool :=
  (0x20 <= c.toNat || isBlank c) && c.toNat != 0xFFFE && c.toNat != 0xFFFF

def skipBlanks (text : Text) : Text :=
  text.dropWhile isBlank

def skipGap? (text : Text) : Option Text :=
  if text.head?.any isBlank then some (skipBlanks text) else none

/-!
# Literals and references
-/

def literal? : Text -> Option (Text × Text)
  | quote :: rest =>
      if quote = '"' ∨ quote = '\'' then Text.splitAt? [quote] rest else none
  | [] => none

inductive Reference where
  | char (c : Char)
  | entity (name : Text)
  deriving DecidableEq, Repr

def predefined : List (Text × Char) :=
  [("amp".toList, '&'), ("lt".toList, '<'), ("gt".toList, '>'), ("quot".toList, '"'),
   ("apos".toList, '\'')]

def charOfCode? (code : Option Nat) : Option Char :=
  (code.bind Encoding.charOf?).filter isAllowed

def reference? (alphabet : Alphabet) (text : Text) : Option (Reference × Text) := do
  let (inner, rest) ← Text.splitAt? [';'] text
  match inner with
  | '#' :: 'x' :: digits =>
      let c ← charOfCode? (if digits.isEmpty then none else Hexadecimal.number? digits)
      some (.char c, rest)
  | '#' :: digits =>
      let decimal := !digits.isEmpty && digits.all Text.isDecimal
      let c ← charOfCode? (if decimal then some (Text.numberOf digits) else none)
      some (.char c, rest)
  | _ =>
      match name? alphabet inner with
      | some (name, []) =>
          match predefined.lookup name with
          | some c => some (.char c, rest)
          | none => some (.entity name, rest)
      | _ => none

def references? (alphabet : Alphabet) (text : Text) : Option (List Text) := do
  let references ← ((text.parts '&').drop 1).mapM (reference? alphabet)
  some (references.filterMap fun (reference, _) =>
    match reference with
    | .entity name => some name
    | .char _ => none)

/-- The entities that the value of an attribute refers to besides the predefined ones, if the
value may stand between quotes. -/
def valueReferences? (alphabet : Alphabet) (value : Text) : Option (List Text) :=
  if value.all fun c => isAllowed c && c != '<' then references? alphabet value else none

/-!
# Comments and instructions
-/

def skipComment? (text : Text) : Option Text := do
  let (inner, rest) ← Text.splitAt? "--".toList text
  if inner.all isAllowed then Text.dropStart? ['>'] rest else none

/-- What is behind an instruction, whose opening has been read.  The name of the declaration at
the front of a document is not for instructions. -/
def skipInstruction? (alphabet : Alphabet) (text : Text) : Option Text := do
  let (name, rest) ← name? alphabet text
  if name.map Char.toLower = "xml".toList then none
  else
    let (inner, behind) ← Text.splitAt? "?>".toList rest
    if inner.all isAllowed && (inner.isEmpty || inner.head?.any isBlank) then some behind else none

end Markup
end Format
end ScopeProbe
