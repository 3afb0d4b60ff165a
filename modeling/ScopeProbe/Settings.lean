import ScopeProbe.Failure
import ScopeProbe.LogLevel
import ScopeProbe.Scope
import ScopeProbe.Unicode.UpperCase
import ScopeProbe.Value

/-!
# Settings

What is needed to set up a registry of grammars.  A setting given directly comes first, then the
one of the configuration, then the usual one.  An empty text in the configuration counts as none,
save for the engine.  The whole configuration is checked, whether its values are used or not.
-/

namespace ScopeProbe

structure Settings where
  scope : String
  grammarPath : Path
  factory : Option String
  level : LogLevel
  deriving DecidableEq, Repr

structure Overrides where
  scope : Option String := none
  grammarPath : Option Path := none
  factory : Option String := none
  level : Option String := none
  deriving DecidableEq, Repr

namespace Settings

def usualScope : String :=
  Scope.source.raw

def usualGrammarPath : Path :=
  Path.ofString "grammars/mana.tmLanguage"

/-!
# Checking
-/

def tableAt (config : Table) (part : ConfigSection) : Except Failure Table :=
  match config.get? part.name with
  | none => .ok []
  | some (.table table) => .ok table
  | some _ => .error (.config (.notTable part))

/-- A text of a part of the configuration, if it is there and not null. -/
def textAt (table : Table) (part : ConfigSection) (key : String) : Except Failure (Option String) :=
  match table.get? key with
  | none | some .null => .ok none
  | some (.text text) => .ok (some text)
  | some _ => .error (.config (.notText part key))

structure Configured where
  scope : Option String
  path : Option String
  factory : Option String
  level : Option String
  deriving DecidableEq, Repr

def configured (config : Table) : Except Failure Configured := do
  let grammar ← tableAt config .grammar
  let engine ← tableAt config .engine
  let logging ← tableAt config .logging
  let scope ← textAt grammar .grammar "scope"
  let path ← textAt grammar .grammar "path"
  let factory ← textAt engine .engine "factory"
  let level ← textAt logging .logging "level"
  .ok { scope, path, factory, level }

/-!
# Choosing
-/

def nonempty (text : Option String) : Option String :=
  text.filter (· != "")

def levelNamed (name : String) : Except Failure LogLevel :=
  let upper := Unicode.upperText name.toList
  match LogLevel.ofName? (String.ofList upper) with
  | some level => .ok level
  | none => .error (.config (.unknownLevel upper))

def chooseGrammarPath (override : Option Path) (configured : Option String) (folder : Path) :
    Path :=
  match override with
  | some path => path
  | none => folder.join (((nonempty configured).map Path.ofString).getD usualGrammarPath)

/-- The settings of a configuration whose paths start from a folder. -/
def resolve (config : Table) (folder : Path) (overrides : Overrides) : Except Failure Settings := do
  let given ← configured config
  let levelName := overrides.level <|> nonempty given.level
  let level ← levelNamed (levelName.getD LogLevel.warning.name)
  .ok { scope := (overrides.scope <|> nonempty given.scope).getD usualScope
        grammarPath := chooseGrammarPath overrides.grammarPath given.path folder
        factory := overrides.factory <|> given.factory
        level }

end Settings
end ScopeProbe
