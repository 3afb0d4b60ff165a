import ScopeProbe.Excerpt

/-!
# Grammars

A rule engine reads a source line by line.  What it knows at the end of a line it hands on as an
opaque state, so a compiled grammar is a function of a line and the state before it.  It reports
raw tokens, each a range of positions in the line with its stack of scope names, the innermost
last.  The ranges need not lie in the line, nor need they be in order.
-/

namespace ScopeProbe

structure RawToken where
  start : Int
  stop : Int
  scopes : List String
  deriving DecidableEq, Repr

structure LineResult (σ : Type) where
  tokens : List RawToken
  state : σ

/-- A compiled grammar, reading a line from no state at the start of a source and otherwise from the
state at the end of the line before. -/
abbrev Grammar (σ : Type) := Text -> Option σ -> LineResult σ

structure Call (σ : Type) where
  line : Text
  before : Option σ

/-!
# Tokens of the fragment
-/

namespace Span

/-- A token belongs to the fragment if its line does, if it does not start in front of the
fragment on the first line nor end behind it on the last, and if it has a scope at all.  An end
behind the line counts as the end of the line, since engines may include the line's terminator. -/
def keeps (span : Span) (index : Nat) (line : Text) (token : RawToken) : Bool :=
  span.startLine <= index && index <= span.endLine &&
    !(index == span.startLine && token.start < span.startIndex) &&
    !(index == span.endLine && span.endIndex < min token.stop line.length) &&
    !token.scopes.isEmpty

def filter (span : Span) (index : Nat) (line : Text) (tokens : List RawToken) : List RawToken :=
  tokens.filter (span.keeps index line)

end Span

/-!
# Walking over a source
-/

structure Walk (σ : Type) where
  calls : List (Call σ)
  kept : List (Nat × RawToken)

namespace Excerpt

variable {σ : Type}

/-- Walks over lines, the first of them with a given number and state.  A line outside of the span
is read as well, since the lines behind it are entered in the state that it leaves. -/
def walkFrom (grammar : Grammar σ) (span : Span) (index : Nat) (before : Option σ) :
    List Text -> Walk σ
  | [] => { calls := [], kept := [] }
  | line :: more =>
      let result := grammar line before
      let later := walkFrom grammar span (index + 1) (some result.state) more
      { calls := { line, before } :: later.calls
        kept := (span.filter index line result.tokens).map (index, ·) ++ later.kept }

def walk (grammar : Grammar σ) (excerpt : Excerpt) : Walk σ :=
  walkFrom grammar excerpt.span 0 none excerpt.lines

def spanTokens (grammar : Grammar σ) (excerpt : Excerpt) : List (Nat × RawToken) :=
  (excerpt.walk grammar).kept

def calls (grammar : Grammar σ) (excerpt : Excerpt) : List (Call σ) :=
  (excerpt.walk grammar).calls

end Excerpt
end ScopeProbe
