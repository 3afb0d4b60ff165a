import ScopeProbe.Scope
import ScopeProbe.Text.Quoted

/-!
# Tokens

A token is a classified lexeme: the text of the source together with its scope.
-/

namespace ScopeProbe

structure Token where
  text : Text
  scope : Scope
  deriving DecidableEq, Repr

namespace Token

def shown (token : Token) : Text :=
  "Token(".toList ++ token.text.quoted ++ ", ".toList ++ token.scope.raw.toList ++ [')']

end Token
end ScopeProbe
