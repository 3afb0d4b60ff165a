import ScopeProbe.Classification
import ScopeProbe.ConfigFile
import ScopeProbe.Host
import ScopeProbe.Settings

/-!
# Sessions

A session holds what outlasts a request: the files, the level of the log, the engines and
registries that have been made, and the registry that is used where none is named.  Engines and
registries are known by numbers.  Registries may share an engine, and requests that use the same
registry share its grammars.
-/

namespace ScopeProbe

/-- A registry and the number of the engine that it uses. -/
structure Installed where
  engine : Nat
  registry : Registry Nat

structure Session where
  files : FileSystem := {}
  level : LogLevel := .notSet
  engines : List Engine := []
  shared : List (String × Nat) := []
  registries : List Installed := []
  default : Option Nat := none
  log : List LogEntry := []

/-!
# Services
-/

/-- What is done on the way to a registry. -/
inductive Act where
  | readConfig (path : Path)
  | setLevel (level : LogLevel)
  | loadEngine (factory : String)
  | install (number : Nat)
  deriving DecidableEq, Repr

structure Service (α : Type) where
  outcome : Except Failure α
  session : Session
  acts : List Act := []

def Service.andThen {α β : Type} (service : Service α) (next : α -> Session -> Service β) :
    Service β :=
  match service.outcome with
  | .error failure =>
      { outcome := .error failure, session := service.session, acts := service.acts }
  | .ok found =>
      let later := next found service.session
      { later with acts := service.acts ++ later.acts }

namespace Session

/-!
# Engines and registries
-/

def addEngine (policy : EnginePolicy) (session : Session) : Nat × Session :=
  (session.engines.length, { session with engines := session.engines ++ [{ policy }] })

def provideEngine (origin : EngineOrigin) (session : Session) : Nat × Session :=
  match origin with
  | .new policy => session.addEngine policy
  | .shared name policy =>
      match session.shared.lookup name with
      | some number => (number, session)
      | none =>
          let (number, session) := session.addEngine policy
          (number, { session with shared := (name, number) :: session.shared })

def addRegistry (engine : Nat) (registry : Registry Nat) (session : Session) : Nat × Session :=
  (session.registries.length,
    { session with registries := session.registries ++ [{ engine, registry }] })

def newRegistry (policy : EnginePolicy) (registry : Registry Nat) (session : Session) :
    Nat × Session :=
  let (engine, session) := session.addEngine policy
  session.addRegistry engine registry

def setPath (number : Nat) (scope : String) (path : Path) (session : Session) : Session :=
  { session with
    registries := session.registries.modify number fun installed =>
      { installed with registry := installed.registry.setPath scope path } }

def engineOf? (session : Session) (number : Nat) : Option Engine := do
  session.engines[(← session.registries[number]?).engine]?

/-!
# Configuration
-/

variable (host : Host)

def configuration (config : Option Path) (folder : Path) (session : Session) : Service Table where
  outcome := ConfigFile.read host.room session.files config folder
  session := session
  acts := [.readConfig (ConfigFile.location config folder)]

def settings (config : Option Path) (folder start : Path) (overrides : Overrides)
    (session : Session) : Service Settings :=
  (session.configuration host config folder).andThen fun table session =>
    { outcome := Settings.resolve table start overrides, session }

def applyLevel (level : LogLevel) (session : Session) : Service LogLevel where
  outcome := .ok level
  session := { session with level }
  acts := [.setLevel level]

def setLevel (name : String) (session : Session) : Service LogLevel :=
  match LogLevel.ofName? name with
  | some level => session.applyLevel level
  | none => { outcome := .error (.breakdown (.unknownLevel name.toList)), session }

def loadEngine (factory : Option String) (session : Session) : Service Nat :=
  match factory with
  | none => { outcome := .error (.load .noEngine), session }
  | some factory =>
      match EngineFactory.load host.installation factory.toList with
      | .error failure =>
          { outcome := .error failure, session, acts := [.loadEngine factory] }
      | .ok origin =>
          let (number, session) := session.provideEngine origin
          { outcome := .ok number, session, acts := [.loadEngine factory] }

def build (settings : Settings) (session : Session) : Service Nat :=
  (session.loadEngine host settings.factory).andThen fun engine session =>
    let (number, session) := session.addRegistry engine
      { paths := [(settings.scope, settings.grammarPath)], defaultScope := settings.scope }
    { outcome := .ok number, session }

/-!
# The default registry
-/

def configure (number : Option Nat) (session : Session) : Session :=
  { session with default := number }

def install (number : Nat) (session : Session) : Service Nat where
  outcome := .ok number
  session := session.configure (some number)
  acts := [.install number]

/-- The default registry, made from a configuration if there is none yet.  The level of the log is
set before the registry is built. -/
def get (config folder : Option Path) (session : Session) : Service Nat :=
  match session.default with
  | some number => { outcome := .ok number, session }
  | none =>
      let folder := folder.getD Path.workingDirectory
      let start := (config.map Path.parent).getD folder
      (session.settings host config folder start {}).andThen fun settings session =>
        (session.applyLevel settings.level).andThen fun _ session =>
          (session.build host settings).andThen install

/-!
# Grammars
-/

inductive Method where
  | find
  | load
  deriving DecidableEq, Repr

def Method.lookup (method : Method) (scope : String) (files : FileSystem)
    (registry : Registry Nat) (engine : Engine) : Lookup Engine Nat :=
  match method with
  | find => registry.find Engine.compile host.room files scope engine
  | load => registry.load Engine.compile host.room files scope engine

def adopt (number : Nat) (engine : Nat) (found : Lookup Engine Nat) (session : Session) : Session :=
  { session with
    engines := session.engines.set engine found.engine
    registries := session.registries.set number { engine, registry := found.registry }
    log := session.log ++ Effect.entries session.level found.effects }

def lookUp (method : Method) (number : Nat) (scope : String) (session : Session) :
    Except Failure (Option Nat) × Session :=
  match session.registries[number]?, session.engineOf? number with
  | some installed, some engine =>
      let found := method.lookup host scope session.files installed.registry engine
      (found.outcome, session.adopt number installed.engine found)
  | _, _ => (.ok none, session)

def records (number : Nat) (session : Session) : List (List (Call Mana.State)) :=
  ((session.engineOf? number).map Engine.records).getD []

/-!
# Tokens
-/

structure Manner where
  excludeCarriers : Bool := true
  registry : Option Nat := none
  scope : Option String := none

def chooseRegistry (manner : Manner) (session : Session) : Service Nat :=
  match manner.registry with
  | some number => { outcome := .ok number, session }
  | none => session.get host none none

def chooseScope (manner : Manner) (number : Nat) (session : Session) : String :=
  match manner.scope, session.registries[number]? with
  | some scope, _ => scope
  | none, some installed => installed.registry.defaultScope
  | none, none => ""

def readWith (manner : Manner) (number grammar : Nat) (excerpt : Excerpt) (session : Session) :
    Except Failure (List Token) × Session :=
  let reading := excerpt.read Mana.grammar manner.excludeCarriers
  let engine := (session.registries[number]?.map Installed.engine).getD 0
  (reading.outcome.mapError .unrecognized,
    { session with engines := session.engines.modify engine (Engine.record grammar reading.calls) })

def tokenizeWith (manner : Manner) (number : Nat) (excerpt : Excerpt) (session : Session) :
    Except Failure (List Token) × Session :=
  let scope := session.chooseScope manner number
  match session.lookUp host .load number scope with
  | (.error failure, session) => (.error failure, session)
  | (.ok none, session) => (.error (.missingGrammar scope), session)
  | (.ok (some grammar), session) => session.readWith manner number grammar excerpt

def tokenize (manner : Manner) (excerpt : Excerpt) (session : Session) : Service (List Token) :=
  (session.chooseRegistry host manner).andThen fun number session =>
    let (outcome, session) := session.tokenizeWith host manner number excerpt
    { outcome, session }

/-- Reads several excerpts at once.  Each is read from its start without another one in between,
so they can be taken in their order.  That one fails does not keep the others from being read. -/
def gather (manner : Manner) :
    List Excerpt -> Session -> Except Failure (List (List Token)) × Session
  | [], session => (.ok [], session)
  | excerpt :: more, session =>
      let first := session.tokenize host manner excerpt
      let (others, session) := gather manner more first.session
      (first.outcome.bind fun tokens => others.map (tokens :: ·), session)

end Session
end ScopeProbe
