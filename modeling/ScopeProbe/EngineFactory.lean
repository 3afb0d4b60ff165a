import ScopeProbe.Failure

/-!
# Engine factories

An engine is configured by the name of a module and the name of something in it, with a colon
between them.  Classes and functions are called for an engine, and anything else has to be one.
Which modules there are, and what an engine is, the program does not tell.
-/

namespace ScopeProbe

namespace EngineFactory

/-!
# Modules
-/

/-- What a name in a module stands for, where `ε` is what an engine is. -/
inductive Target (ε : Type) where
  /-- Something that cannot be called, and the engine that it is, if it is one. -/
  | value (engine : Option ε)
  /-- A class or a function, and the engine that calling it gives, if it gives one. -/
  | factory (engine : Option ε)
  | failing (reason : String)
  deriving DecidableEq, Repr

structure Module (ε : Type) where
  isPackage : Bool
  targets : List (String × Target ε)
  deriving DecidableEq, Repr

inductive Import (ε : Type) where
  | module (found : Module ε)
  /-- Something that the module needs is not found. -/
  | broken (reason : String)
  | failing (reason : String)
  deriving DecidableEq, Repr

abbrev Installation (ε : Type) := Text -> Option (Import ε)

variable {ε : Type}

def Module.target? (module : Module ε) (name : Text) : Option (Target ε) :=
  module.targets.lookup (String.ofList name)

/-!
# Importing
-/

/-- The names of a module and of the modules around it, the outermost first, behind a beginning
that they share. -/
def enclosing (beginning : Text) : List Text -> List Text
  | [] => []
  | part :: more => (beginning ++ part) :: enclosing (beginning ++ part ++ ['.']) more

def missing (name : Text) : Option (Text × Module ε) -> ImportFault
  | some (outer, module) =>
      if module.isPackage then .missing name else .insideModule name outer
  | none => .missing name

def importEach (installation : Installation ε) (whole : Text) (outer : Option (Text × Module ε)) :
    List Text -> Except Failure (Module ε)
  | [] =>
      match outer with
      | some (_, module) => .ok module
      | none => .error (.load (.notImported whole (.missing whole)))
  | name :: more =>
      match installation name with
      | none => .error (.load (.notImported whole (missing name outer)))
      | some (.broken reason) => .error (.load (.notImported whole (.broken reason)))
      | some (.failing reason) => .error (.breakdown (.moduleFailed reason))
      | some (.module found) => importEach installation whole (some (name, found)) more

/-- Imports the module of a name.  A name with a dot in front is seen from a package, and there is
none to see it from. -/
def importModule (installation : Installation ε) (name : Text) : Except Failure (Module ε) :=
  if name.head? = some '.' then .error (.breakdown (.relativeModule name))
  else importEach installation name none (enclosing [] (Text.parts '.' name))

/-!
# Loading
-/

def split? (factory : Text) : Option (Text × Text) :=
  (Text.splitAt? [':'] factory).filter fun (module, name) => !module.isEmpty && !name.isEmpty

def Target.result : Target ε -> Except Failure (Option ε)
  | value engine | factory engine => .ok engine
  | failing reason => .error (.breakdown (.factoryFailed reason))

def Target.provide (factory : Text) (target : Target ε) : Except Failure ε := do
  match ← target.result with
  | none => .error (.load (.notEngine factory))
  | some engine => .ok engine

def Module.provide (factory module name : Text) (found : Module ε) : Except Failure ε :=
  match found.target? name with
  | none => .error (.load (.missingAttribute module name))
  | some target => target.provide factory

def load (installation : Installation ε) (factory : Text) : Except Failure ε :=
  match split? factory with
  | none => .error (.load (.invalidFactory factory))
  | some (module, name) =>
      importModule installation module >>= Module.provide factory module name

end EngineFactory
end ScopeProbe
