import ScopeProbe.Text.Decimal
import ScopeProbe.Text.Quoted

/-!
# Unrecognized scopes

A rule engine may report a scope outside the vocabulary.  The failure names the scope and, as far
as known, the lexeme and its place.  A located failure is shown as a diagnostic: the message, the
place, and the source line with carets under the lexeme, all behind gutters of one width.
-/

namespace ScopeProbe

/-- A scope name outside the vocabulary.  Lines and columns count from zero. -/
structure UnrecognizedScope where
  scope : String
  text : Text := []
  line : Option Int := none
  column : Option Int := none
  sourceLine : Text := []
  deriving DecidableEq, Repr

namespace UnrecognizedScope

def locate (failure : UnrecognizedScope) (text : Text) (line column : Int) (sourceLine : Text) :
    UnrecognizedScope :=
  { scope := failure.scope, text, line := some line, column := some column, sourceLine }

def message (failure : UnrecognizedScope) : Text :=
  "unrecognized scope '".toList ++ failure.scope.toList ++ ['\'']

def spaces (count : Int) : Text :=
  List.replicate count.toNat ' '

def blankGutter (width : Nat) : Text :=
  List.replicate (width + 1) ' ' ++ ['|']

def carets (text : Text) : Text :=
  List.replicate (max 1 text.length) '^'

def rows (failure : UnrecognizedScope) (filename : Text) (line column : Int) : List Text :=
  let number := Text.ofInt (line + 1)
  let width := number.length
  [ "error: ".toList ++ failure.message,
    List.replicate (width + 1) ' ' ++ "--> ".toList ++ filename ++ [':'] ++ number ++ [':'] ++
      Text.ofInt (column + 1),
    blankGutter width,
    number ++ " | ".toList ++ failure.sourceLine,
    blankGutter width ++ [' '] ++ spaces column ++ carets failure.text ]

def format (failure : UnrecognizedScope) (filename : Text := "input".toList) : Text :=
  match failure.line, failure.column with
  | some line, some column => Text.unlines (failure.rows filename line column)
  | _, _ =>
      if failure.text.isEmpty then "error: ".toList ++ failure.message
      else "error: ".toList ++ failure.message ++ " for ".toList ++ failure.text.quoted

end UnrecognizedScope
end ScopeProbe
