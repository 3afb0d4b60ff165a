import ScopeProbe.Failure
import ScopeProbe.Mana.Lexer
import ScopeProbe.Registry

/-!
# Rule engines

An engine makes grammars out of definitions.  What it makes of one may depend on those that it has
compiled before; one that it refuses leaves it as it is.  It knows its grammars by their numbers, in
the order in which it made them, and keeps a record of what each of them was asked to read.  All its
grammars read as the mana grammar does.
-/

namespace ScopeProbe

/-- Whether an engine makes a grammar of a definition, given those that it has compiled before, or
why it refuses it. -/
abbrev EnginePolicy := (compiled : List Definition) -> Definition -> Except Failure Bool

structure Engine where
  policy : EnginePolicy
  compiled : List Definition := []
  records : List (List (Call Mana.State)) := []

namespace Engine

def compile (definition : Definition) (engine : Engine) :
    Except Failure (Option Nat) × Engine :=
  match engine.policy engine.compiled definition with
  | .error failure => (.error failure, engine)
  | .ok false => (.ok none, { engine with compiled := engine.compiled ++ [definition] })
  | .ok true =>
      (.ok (some engine.records.length),
        { engine with
          compiled := engine.compiled ++ [definition]
          records := engine.records ++ [[]] })

def record (grammar : Nat) (calls : List (Call Mana.State)) (engine : Engine) : Engine :=
  { engine with records := engine.records.modify grammar (· ++ calls) }

end Engine

namespace EnginePolicy

def declares (scope : String) (definition : Definition) : Bool :=
  match definition.get? (.ofText "scopeName".toList) with
  | some (.text name) => name == .ofText scope.toList
  | _ => false

def mana : EnginePolicy := fun _ definition =>
  if declares Scope.source.raw definition then .ok true else .error (.breakdown .foreignGrammar)

end EnginePolicy
end ScopeProbe
