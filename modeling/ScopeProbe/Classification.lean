import ScopeProbe.Grammar
import ScopeProbe.Token
import ScopeProbe.UnrecognizedScope

/-!
# Classification

A lexeme is classified by the innermost of its scopes, which must be in the vocabulary.  Tokens of
the carrier scopes are left out on request.  A source is read only as far as needed: behind a
scope that is not in the vocabulary no further line is asked for.
-/

namespace ScopeProbe

/-- Classifies a lexeme by the name of its scope; a carrier that is to be left out gives no
token. -/
def classifyLexeme (excludeCarriers : Bool) (text : Text) (name : String) :
    Except UnrecognizedScope (Option Token) :=
  match Scope.ofRaw? name with
  | none => .error { scope := name }
  | some scope =>
      if excludeCarriers && scope.isCarrier then .ok none
      else .ok (some { text, scope })

def classifyLexemes (excludeCarriers : Bool) :
    List (Text × String) -> Except UnrecognizedScope (List Token)
  | [] => .ok []
  | (text, name) :: more => do
      let token ← classifyLexeme excludeCarriers text name
      let tokens ← classifyLexemes excludeCarriers more
      return token.toList ++ tokens

namespace RawToken

def textIn (token : RawToken) (line : Text) : Text :=
  line.cut token.start token.stop

def innermost (token : RawToken) : String :=
  token.scopes.getLast?.getD ""

def classify (excludeCarriers : Bool) (index : Nat) (line : Text) (token : RawToken) :
    Except UnrecognizedScope (Option Token) :=
  match classifyLexeme excludeCarriers (token.textIn line) token.innermost with
  | .ok found => .ok found
  | .error failure => .error (failure.locate (token.textIn line) index token.start line)

end RawToken

def classifyLine (excludeCarriers : Bool) (index : Nat) (line : Text) :
    List RawToken -> Except UnrecognizedScope (List Token)
  | [] => .ok []
  | token :: more => do
      let found ← token.classify excludeCarriers index line
      let tokens ← classifyLine excludeCarriers index line more
      return found.toList ++ tokens

/-!
# Reading an excerpt
-/

/-- What came of reading an excerpt: the requests made, and the tokens or the failure that ended
it. -/
structure Reading (σ : Type) where
  calls : List (Call σ)
  outcome : Except UnrecognizedScope (List Token)

namespace Excerpt

variable {σ : Type}

def readFrom (grammar : Grammar σ) (span : Span) (excludeCarriers : Bool) (index : Nat)
    (before : Option σ) : List Text -> Reading σ
  | [] => { calls := [], outcome := .ok [] }
  | line :: more =>
      let result := grammar line before
      match classifyLine excludeCarriers index line (span.filter index line result.tokens) with
      | .error failure => { calls := [{ line, before }], outcome := .error failure }
      | .ok tokens =>
          let later :=
            readFrom grammar span excludeCarriers (index + 1) (some result.state) more
          { calls := { line, before } :: later.calls
            outcome := later.outcome.map (tokens ++ ·) }

def read (grammar : Grammar σ) (excludeCarriers : Bool) (excerpt : Excerpt) : Reading σ :=
  readFrom grammar excerpt.span excludeCarriers 0 none excerpt.lines

def classify (grammar : Grammar σ) (excludeCarriers : Bool) (excerpt : Excerpt) :
    Except UnrecognizedScope (List Token) :=
  (read grammar excludeCarriers excerpt).outcome

end Excerpt
end ScopeProbe
