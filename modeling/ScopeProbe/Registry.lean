import ScopeProbe.GrammarFile
import ScopeProbe.LogLevel
import ScopeProbe.Scope

/-!
# Registries

A registry knows the files of grammars by their scopes.  A grammar is read and compiled when it is
first asked for and then remembered, and so is that there is none.  A failure is not remembered.
The registry is the same for all engines: an engine has a state, and compiling a definition gives
a grammar, or none, or fails, and leaves a next state in each case.
-/

namespace ScopeProbe

/-- How an engine with states `ε` compiles definitions to grammars `γ`. -/
abbrev Compiler (ε γ : Type) := Definition -> ε -> Except Failure (Option γ) × ε

/-- What a lookup does outside of the registry. -/
inductive Effect where
  | read (path : Path)
  | compile (definition : Definition)
  | log (entry : LogEntry)

namespace Effect

def entries (level : LogLevel) (effects : List Effect) : List LogEntry :=
  effects.filterMap fun effect =>
    match effect with
    | log entry => if level.admits entry.level then some entry else none
    | _ => none

def unknownScope (scope : String) : Effect :=
  .log { level := .warning, message := "Unknown scope name: ".toList ++ scope.toList }

def compiling (scope : String) (path : Path) : Effect :=
  .log
    { level := .debug
      message :=
        "compiling grammar ".toList ++ scope.toList ++ " from ".toList ++ path.toString.toList }

end Effect

structure Registry (γ : Type) where
  paths : List (String × Path) := []
  defaultScope : String := Scope.source.raw
  /-- The scopes that have been looked up, each with its grammar if there is one. -/
  cache : List (String × Option γ) := []

structure Lookup (ε γ : Type) where
  outcome : Except Failure (Option γ)
  registry : Registry γ
  engine : ε
  effects : List Effect := []

namespace Registry

variable {ε γ : Type}

def setPath (scope : String) (path : Path) (registry : Registry γ) : Registry γ :=
  { registry with paths := (scope, path) :: registry.paths.filter (·.1 != scope) }

def remembered? (registry : Registry γ) (scope : String) : Option (Option γ) :=
  registry.cache.lookup scope

def remember (scope : String) (grammar : Option γ) (registry : Registry γ) : Registry γ :=
  { registry with cache := (scope, grammar) :: registry.cache }

@[simp] theorem remembered?_remember (scope : String) (grammar : Option γ) (registry : Registry γ) :
    (registry.remember scope grammar).remembered? scope = some grammar := by
  simp [remember, remembered?]

theorem remembered?_remember_of_ne {scope other : String} (h : other ≠ scope) (grammar : Option γ)
    (registry : Registry γ) :
    (registry.remember scope grammar).remembered? other = registry.remembered? other := by
  simp [remember, remembered?, List.lookup_cons, beq_false_of_ne h]

def fetch (compile : Compiler ε γ) (room : Room) (files : FileSystem) (scope : String)
    (registry : Registry γ) (engine : ε) : Lookup ε γ :=
  match registry.paths.lookup scope with
  | none => { outcome := .ok none, registry, engine, effects := [.unknownScope scope] }
  | some path =>
      match GrammarFile.read room files path with
      | .error failure => { outcome := .error failure, registry, engine, effects := [.read path] }
      | .ok definition =>
          let (outcome, engine) := compile definition engine
          { outcome, registry, engine
            effects := [.read path, .compiling scope path, .compile definition] }

def keep (scope : String) (found : Lookup ε γ) : Lookup ε γ :=
  match found.outcome with
  | .ok grammar => { found with registry := found.registry.remember scope grammar }
  | .error _ => found

def find (compile : Compiler ε γ) (room : Room) (files : FileSystem) (scope : String)
    (registry : Registry γ) (engine : ε) : Lookup ε γ :=
  match registry.remembered? scope with
  | some grammar => { outcome := .ok grammar, registry, engine }
  | none => keep scope (fetch compile room files scope registry engine)

/-- Looks up a grammar in two steps.  Between them others may use the registry, so the second one
looks again at what is remembered. -/
def load (compile : Compiler ε γ) (room : Room) (files : FileSystem) (scope : String)
    (registry : Registry γ) (engine : ε) : Lookup ε γ :=
  match registry.remembered? scope with
  | some grammar => { outcome := .ok grammar, registry, engine }
  | none => find compile room files scope registry engine

theorem load_eq_find (compile : Compiler ε γ) (room : Room) (files : FileSystem) (scope : String)
    (registry : Registry γ) (engine : ε) :
    load compile room files scope registry engine =
      find compile room files scope registry engine := by
  unfold load
  split
  · rename_i grammar hgrammar
    simp [find, hgrammar]
  · rfl

end Registry
end ScopeProbe
