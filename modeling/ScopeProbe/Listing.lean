import ScopeProbe.Token

/-!
# Token listings

One row for each token: a mark for carriers, the quoted text padded to the widest of the list, and
the raw name of the scope.
-/

namespace ScopeProbe
namespace Listing

def width (tokens : List Token) : Nat :=
  tokens.foldl (fun widest token => max widest token.text.quoted.length) 0

def mark (scope : Scope) : Char :=
  if scope.isCarrier then '~' else ' '

def pad (width : Nat) (text : Text) : Text :=
  text ++ List.replicate (width - text.length) ' '

def row (width : Nat) (token : Token) : Text :=
  mark token.scope :: ' ' :: pad width token.text.quoted ++ "  ".toList ++
    token.scope.raw.toList ++ ['\n']

def render (tokens : List Token) : Text :=
  tokens.flatMap (row (width tokens))

end Listing
end ScopeProbe
