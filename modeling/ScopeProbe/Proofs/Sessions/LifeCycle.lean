import Mathlib.Data.List.DropRight
import ScopeProbe.Proofs.Sessions.Histories

/-!
# The life cycle of the default registry

The default registry is chosen, or it is built by the first request that needs
it and finds none.  A history is told by its choices and its builds alone.  The
registry in force is the one that has been chosen last, and if that choice is
none, the first one that has been built since.  A request that finds a registry
reads no configuration, sets no level and loads no engine.
-/

namespace ScopeProbe

def Act.installed? : Act -> Option Nat
  | install number => some number
  | _ => none

namespace Session

/-!
# Choices and builds
-/

inductive Turn where
  | chosen (number : Option Nat)
  | built (number : Nat)
  deriving DecidableEq, Repr

namespace Turn

def choice? : Turn -> Option (Option Nat)
  | chosen number => some number
  | built _ => none

def built? : Turn -> Option Nat
  | chosen _ => none
  | built number => some number

end Turn

def lastChoice (turns : List Turn) : Option Nat :=
  (turns.filterMap Turn.choice?).getLast?.join

def builtSince (turns : List Turn) : List Nat :=
  (turns.rtakeWhile fun turn => turn.built?.isSome).filterMap Turn.built?

/-- The registry chosen last, or else the first one that has been built since. -/
def inForce (turns : List Turn) : Option Nat :=
  (lastChoice turns).or (builtSince turns).head?

section

variable (turns : List Turn)

@[simp] theorem lastChoice_chosen (number : Option Nat) :
    lastChoice (turns ++ [.chosen number]) = number := by
  simp [lastChoice, Turn.choice?]

@[simp] theorem lastChoice_built (number : Nat) :
    lastChoice (turns ++ [.built number]) = lastChoice turns := by
  simp [lastChoice, Turn.choice?]

@[simp] theorem builtSince_chosen (number : Option Nat) :
    builtSince (turns ++ [.chosen number]) = [] := by
  simp [builtSince, Turn.built?]

@[simp] theorem builtSince_built (number : Nat) :
    builtSince (turns ++ [.built number]) = builtSince turns ++ [number] := by
  simp [builtSince, Turn.built?]

theorem inForce_chosen (number : Option Nat) : inForce (turns ++ [.chosen number]) = number := by
  simp [inForce]

theorem inForce_built (number : Nat) :
    inForce (turns ++ [.built number]) = (inForce turns).or (some number) := by
  rw [inForce, inForce, lastChoice_built, builtSince_built, List.head?_append, Option.or_assoc]
  rfl

example : inForce [.built 0, .chosen (some 5), .chosen none, .built 3, .built 4] = some 3 := by
  decide

end

/-!
# What leaves the default registry alone
-/

structure Undisturbed (before later : Session) : Prop where
  level : later.level = before.level
  engines : later.engines.length = before.engines.length
  shared : later.shared = before.shared

structure Unmoved (before later : Session) : Prop extends before.Undisturbed later where
  default : later.default = before.default

theorem Unmoved.refl (session : Session) : session.Unmoved session :=
  ⟨⟨rfl, rfl, rfl⟩, rfl⟩

theorem Unmoved.trans {before between later : Session} (hfirst : before.Unmoved between)
    (hsecond : between.Unmoved later) : before.Unmoved later where
  level := hsecond.level.trans hfirst.level
  engines := hsecond.engines.trans hfirst.engines
  shared := hsecond.shared.trans hfirst.shared
  default := hsecond.default.trans hfirst.default

theorem unmoved_lookUp (host : Host) (method : Method) (number : Nat) (scope : String)
    (session : Session) : session.Unmoved (session.lookUp host method number scope).2 := by
  rcases lookUp_cases host session method number scope with
    hlookUp | ⟨installed, engine, _hinstalled, _hengine, hlookUp⟩
  · rw [hlookUp]
    exact .refl session
  · rw [hlookUp]
    exact ⟨⟨rfl, List.length_set, rfl⟩, rfl⟩

theorem unmoved_tokenizeWith (host : Host) (manner : Manner) (number : Nat) (excerpt : Excerpt)
    (session : Session) :
    session.Unmoved (session.tokenizeWith host manner number excerpt).2 := by
  rw [tokenizeWith]
  have hlookUp := unmoved_lookUp host .load number (session.chooseScope manner number) session
  split <;> rename_i later hlater <;> rw [hlater] at hlookUp
  · exact hlookUp
  · exact hlookUp
  · exact hlookUp.trans ⟨⟨rfl, List.length_modify _ _ _, rfl⟩, rfl⟩

theorem default_withRegistry (settings : Settings) (origin : EngineOrigin) (session : Session) :
    (session.withRegistry settings origin).default = session.default := by
  rw [withRegistry]
  rcases provideEngine_cases origin session with
    ⟨name, number, _hshared, hprovide⟩ | ⟨policy, shared, _hshared, hprovide⟩ <;>
    rw [hprovide] <;> rfl

theorem default_build (host : Host) (settings : Settings) (session : Session) :
    (session.build host settings).session.default = session.default := by
  cases horigin : originOf host settings.factory with
  | error failure => rw [build_error horigin]
  | ok origin =>
      rw [build_ok horigin]
      exact default_withRegistry settings origin session

/-!
# Tokens with a registry and without
-/

section

variable {host : Host} {manner : Manner}

theorem tokenize_of_registry {number : Nat} (hregistry : manner.registry = some number)
    (excerpt : Excerpt) (session : Session) :
    session.tokenize host manner excerpt =
      { outcome := (session.tokenizeWith host manner number excerpt).1
        session := (session.tokenizeWith host manner number excerpt).2 } := by
  rw [tokenize, chooseRegistry, hregistry]
  rfl

theorem tokenize_eq_get (hregistry : manner.registry = none) (excerpt : Excerpt)
    (session : Session) :
    session.tokenize host manner excerpt =
      (session.get host none none).andThen fun number session =>
        session.tokenize host { manner with registry := some number } excerpt := by
  rw [tokenize, chooseRegistry, hregistry]
  rfl

theorem acts_tokenize (hregistry : manner.registry = none) (excerpt : Excerpt)
    (session : Session) :
    (session.tokenize host manner excerpt).acts = (session.get host none none).acts := by
  rw [tokenize_eq_get hregistry, Service.andThen]
  split
  · rfl
  · exact List.append_nil _

theorem default_tokenize (hregistry : manner.registry = none) (excerpt : Excerpt)
    (session : Session) :
    (session.tokenize host manner excerpt).session.default =
      (session.get host none none).session.default := by
  rw [tokenize_eq_get hregistry, Service.andThen]
  split
  · rfl
  · exact (unmoved_tokenizeWith host _ _ excerpt _).default

end

/-!
# Histories by their choices and builds
-/

def actsOf (session : Session) : Request -> List Act
  | .build host settings => (session.build host settings).acts
  | .setLevel name => (session.setLevel name).acts
  | .get host config folder => (session.get host config folder).acts
  | .tokenize host manner excerpt => (session.tokenize host manner excerpt).acts
  | _ => []

def builds (acts : List Act) : List Turn :=
  acts.filterMap fun act => act.installed?.map .built

def turnsOf (session : Session) : Request -> List Turn
  | .configure number => [.chosen number]
  | request => builds (session.actsOf request)

def turns (session : Session) : List Request -> List Turn
  | [] => []
  | request :: more => session.turnsOf request ++ (session.after request).turns more

theorem builds_loading (factory : Option String) (more : List Act) :
    builds (factory.toList.map .loadEngine ++ more) = builds more := by
  cases factory <;> rfl

theorem builds_building (config folder : Option Path) (settings : Settings) (more : List Act) :
    builds (reading config folder :: building settings ++ more) = builds more :=
  builds_loading settings.factory more

theorem builds_build (host : Host) (settings : Settings) (session : Session) :
    builds (session.build host settings).acts = [] := by
  have hloading := builds_loading settings.factory []
  rw [List.append_nil] at hloading
  cases horigin : originOf host settings.factory with
  | error failure =>
      rw [build_error horigin]
      exact hloading
  | ok origin =>
      rw [build_ok horigin]
      exact hloading

theorem builds_get (host : Host) (config folder : Option Path) (session : Session) :
    (builds (session.get host config folder).acts = [] ∧
        (session.get host config folder).session.default = session.default ∧
        forall number, (session.get host config folder).outcome = .ok number ->
          session.default = some number) ∨
      exists number, session.default = none ∧
        builds (session.get host config folder).acts = [.built number] ∧
        (session.get host config folder).session.default = some number ∧
        (session.get host config folder).outcome = .ok number := by
  rcases get_cases host config folder session with ⟨number, hdefault, hget⟩ |
    ⟨hnone, ⟨failure, _hsettings, hget⟩ | ⟨settings, _hsettings, hrest⟩⟩
  · left
    rw [hget]
    refine ⟨rfl, rfl, ?_⟩
    intro other hother
    cases hother
    exact hdefault
  · left
    rw [hget]
    exact ⟨rfl, rfl, nofun⟩
  · rcases hrest with ⟨failure, _horigin, hget⟩ | ⟨origin, _horigin, hget⟩
    · left
      rw [hget]
      refine ⟨?_, rfl, nofun⟩
      exact (congrArg builds (List.append_nil _)).symm.trans
        (builds_building config folder settings [])
    · right
      rw [hget]
      exact ⟨_, hnone, builds_building config folder settings _, rfl, rfl⟩

section

variable {host : Host} {config folder : Option Path} {session : Session}

theorem default_of_get {number : Nat}
    (hget : (session.get host config folder).outcome = .ok number) :
    (session.get host config folder).session.default = some number := by
  rcases builds_get host config folder session with
    ⟨_hbuilds, hdefault, hsome⟩ | ⟨built, _hnone, _hbuilds, hdefault, hbuilt⟩
  · exact hdefault.trans (hsome number hget)
  · cases hget.symm.trans hbuilt
    exact hdefault

theorem default_of_failed_get {failure : Failure}
    (hget : (session.get host config folder).outcome = .error failure) :
    (session.get host config folder).session.default = none := by
  rcases get_cases host config folder session with ⟨number, _hdefault, hcase⟩ |
    ⟨hnone, ⟨other, _hsettings, hcase⟩ | ⟨settings, _hsettings, hrest⟩⟩
  · rw [hcase] at hget
    cases hget
  · rw [hcase]
    exact hnone
  · rcases hrest with ⟨other, _horigin, hcase⟩ | ⟨origin, _horigin, hcase⟩
    · rw [hcase]
      exact hnone
    · rw [hcase] at hget
      cases hget

end

/-- The default registry is the one in force.  At most one has been built since the last choice, and
none if a registry has been chosen. -/
structure Told (history : List Turn) (session : Session) : Prop where
  default : session.default = inForce history
  once : (builtSince history).length <= 1
  chosen : lastChoice history ≠ none -> builtSince history = []

namespace Told

variable {history : List Turn} {session : Session}

theorem start (session : Session) : Told [.chosen session.default] session where
  default := (inForce_chosen [] session.default).symm
  once := Nat.zero_le 1
  chosen := fun _hchoice => rfl

theorem of_default {later : Session} (h : Told history session)
    (hsame : later.default = session.default) : Told history later :=
  ⟨hsame.trans h.default, h.once, h.chosen⟩

theorem choose (history : List Turn) (session : Session) (number : Option Nat) :
    Told (history ++ [.chosen number]) (session.configure number) where
  default := (inForce_chosen history number).symm
  once := by simp
  chosen := by simp

theorem build {later : Session} {number : Nat} (h : Told history session)
    (hnone : session.default = none) (hlater : later.default = some number) :
    Told (history ++ [.built number]) later := by
  have hforce : inForce history = none := h.default.symm.trans hnone
  rcases Option.or_eq_none_iff.mp hforce with ⟨hchoice, hbuilt⟩
  have hempty : builtSince history = [] := List.head?_eq_none_iff.mp hbuilt
  refine ⟨?_, ?_, ?_⟩
  · rw [hlater, inForce_built, hforce]
    rfl
  · rw [builtSince_built, hempty]
    exact Nat.le_refl 1
  · rw [lastChoice_built, hchoice]
    exact fun hchosen => absurd rfl hchosen

theorem get (h : Told history session) (host : Host) (config folder : Option Path) :
    Told (history ++ builds (session.get host config folder).acts)
      (session.get host config folder).session := by
  rcases builds_get host config folder session with
    ⟨hbuilds, hdefault, _houtcome⟩ | ⟨number, hnone, hbuilds, hdefault, _houtcome⟩
  · rw [hbuilds, List.append_nil]
    exact h.of_default hdefault
  · rw [hbuilds]
    exact h.build hnone hdefault

theorem still {later : Session} (h : Told history session)
    (hdefault : later.default = session.default) : Told (history ++ []) later := by
  rw [List.append_nil]
  exact h.of_default hdefault

theorem idle {later : Session} {acts : List Act} (h : Told history session)
    (hbuilds : builds acts = []) (hdefault : later.default = session.default) :
    Told (history ++ builds acts) later := by
  rw [hbuilds]
  exact h.still hdefault

theorem after (h : Told history session) (request : Request) :
    Told (history ++ session.turnsOf request) (session.after request) := by
  cases request with
  | setFiles files => exact h.still rfl
  | newRegistry policy paths defaultScope => exact h.still rfl
  | revise number paths defaultScope => exact h.still rfl
  | lookUp host method number scope =>
      exact h.still (unmoved_lookUp host method number scope session).default
  | build host settings =>
      exact h.idle (builds_build host settings session) (default_build host settings session)
  | setLevel name =>
      have hsame : builds (session.setLevel name).acts = [] ∧
          (session.setLevel name).session.default = session.default := by
        rw [setLevel]
        split <;> exact ⟨rfl, rfl⟩
      exact h.idle hsame.left hsame.right
  | configure number => exact choose history session number
  | get host config folder => exact h.get host config folder
  | tokenize host manner excerpt =>
      show Told (history ++ builds (session.tokenize host manner excerpt).acts)
        (session.tokenize host manner excerpt).session
      cases hregistry : manner.registry with
      | some number =>
          rw [tokenize_of_registry hregistry]
          exact h.idle rfl (unmoved_tokenizeWith host manner number excerpt session).default
      | none =>
          rw [acts_tokenize hregistry]
          exact (h.get host none none).of_default (default_tokenize hregistry excerpt session)

theorem run (h : Told history session) (requests : List Request) :
    Told (history ++ session.turns requests) (session.run requests) := by
  induction requests generalizing history session with
  | nil =>
      rw [turns, List.append_nil]
      exact h
  | cons request more ih =>
      rw [turns, ← List.append_assoc]
      exact ih (h.after request)

end Told

/-!
# Requests that find no registry
-/

/-- Asking for the default registry reads the configuration as it is, sets the level that it gives,
and builds a registry with the engine that it names.  If one of these fails nothing is built. -/
structure Rebuilds (host : Host) (config folder : Option Path) (session : Session) : Prop where
  reads : (session.get host config folder).acts.head? =
    some (.readConfig (ConfigFile.location config (folderOf folder)))
  outcome : (session.get host config folder).outcome = do
    let table ← ConfigFile.read host.room session.files config (folderOf folder)
    let settings ← Settings.resolve table (startOf config folder) {}
    let _origin ← originOf host settings.factory
    .ok session.registries.length
  /-- The settings are those of the table that is in the file, or of none if there is no file. -/
  content : forall octets table,
    session.files.read (ConfigFile.location config (folderOf folder)) = .ok octets ->
      Format.Toml.read host.room.toml octets = .ok table ->
        session.defaultSettings host config folder =
          Settings.resolve table (startOf config folder) {}
  absent : forall fault, fault ≠ .nameTooLong ->
    session.files.read (ConfigFile.location config (folderOf folder)) = .error fault ->
      session.defaultSettings host config folder =
        Settings.resolve [] (startOf config folder) {}
  built : forall settings factory origin,
    session.defaultSettings host config folder = .ok settings ->
      settings.factory = some factory ->
        EngineFactory.load host.installation factory.toList = .ok origin ->
          let provided := ({ session with level := settings.level } : Session).provideEngine origin
          session.get host config folder =
            { outcome := .ok session.registries.length
              session :=
                { provided.2 with
                  registries := session.registries ++
                    [{ engine := provided.1
                       registry :=
                         { paths := [(settings.scope, settings.grammarPath)]
                           defaultScope := settings.scope } }]
                  default := some session.registries.length }
              acts :=
                [ .readConfig (ConfigFile.location config (folderOf folder)),
                  .setLevel settings.level, .loadEngine factory,
                  .install session.registries.length ] }

section

variable {host : Host} {config folder : Option Path} {session : Session}

theorem reads_of_none (hnone : session.default = none) :
    (session.get host config folder).acts.head? = some (reading config folder) := by
  rcases get_cases host config folder session with ⟨number, hdefault, _hget⟩ |
    ⟨_hnone, ⟨failure, _hsettings, hget⟩ | ⟨settings, _hsettings, hrest⟩⟩
  · cases hnone.symm.trans hdefault
  · rw [hget]
    rfl
  · rcases hrest with ⟨failure, _horigin, hget⟩ | ⟨origin, _horigin, hget⟩ <;>
      rw [hget] <;> rfl

theorem outcome_of_none (hnone : session.default = none) :
    (session.get host config folder).outcome =
      session.defaultSettings host config folder >>= fun settings =>
        originOf host settings.factory >>= fun _origin => .ok session.registries.length := by
  rcases get_cases host config folder session with ⟨number, hdefault, _hget⟩ |
    ⟨_hnone, ⟨failure, hsettings, hget⟩ | ⟨settings, hsettings, hrest⟩⟩
  · cases hnone.symm.trans hdefault
  · rw [hget, hsettings]
    rfl
  · rw [hsettings]
    rcases hrest with ⟨failure, horigin, hget⟩ | ⟨origin, horigin, hget⟩
    · rw [hget]
      show _ = originOf host settings.factory >>= _
      rw [horigin]
      rfl
    · rw [hget]
      show _ = originOf host settings.factory >>= _
      rw [horigin]
      rfl

theorem defaultSettings_of_octets {octets : Encoding.Octets} {table : Table}
    (hoctets : session.files.read (ConfigFile.location config (folderOf folder)) = .ok octets)
    (htable : Format.Toml.read host.room.toml octets = .ok table) :
    session.defaultSettings host config folder =
      Settings.resolve table (startOf config folder) {} := by
  rw [defaultSettings, ConfigFile.read, hoctets]
  dsimp only
  rw [ConfigFile.table, htable]
  rfl

theorem defaultSettings_of_absent {fault : FileFault} (hfault : fault ≠ .nameTooLong)
    (habsent : session.files.read (ConfigFile.location config (folderOf folder)) =
      .error fault) :
    session.defaultSettings host config folder =
      Settings.resolve [] (startOf config folder) {} := by
  rw [defaultSettings, ConfigFile.read, habsent]
  cases fault with
  | nameTooLong => exact absurd rfl hfault
  | _ => rfl

theorem get_of_factory {settings : Settings} {factory : String} {origin : EngineOrigin}
    (hnone : session.default = none)
    (hsettings : session.defaultSettings host config folder = .ok settings)
    (hfactory : settings.factory = some factory)
    (hload : EngineFactory.load host.installation factory.toList = .ok origin) :
    session.get host config folder =
      { outcome := .ok session.registries.length
        session := ((session.leveled settings).withRegistry settings origin).configure
          (some session.registries.length)
        acts :=
          [ reading config folder, .setLevel settings.level, .loadEngine factory,
            .install session.registries.length ] } := by
  have horigin : originOf host settings.factory = .ok origin := by
    rw [hfactory]
    exact hload
  rw [get_of_built hnone hsettings horigin, building, hfactory]
  rfl

theorem rebuilds_of_none (host : Host) (config folder : Option Path)
    (hnone : session.default = none) : session.Rebuilds host config folder where
  reads := reads_of_none hnone
  outcome := by
    rw [outcome_of_none hnone, defaultSettings]
    cases ConfigFile.read host.room session.files config (folderOf folder) <;> rfl
  content := fun _octets _table => defaultSettings_of_octets
  absent := fun _fault => defaultSettings_of_absent
  built := by
    intro settings factory origin hsettings hfactory hload
    rw [get_of_factory hnone hsettings hfactory hload]
    have hregistries := registries_provideEngine origin (session.leveled settings)
    change _ = session.registries at hregistries
    dsimp only [withRegistry, addRegistry, configure]
    rw [hregistries]
    rfl

/-!
# Requests that find a registry
-/

def Request.isDirect : Request -> Bool
  | .newRegistry _ _ _ | .build _ _ | .setLevel _ => true
  | _ => false

theorem acts_of_some {number : Nat} (hdefault : session.default = some number) {request : Request}
    (hdirect : request.isDirect = false) : session.actsOf request = [] := by
  cases request with
  | build host settings => cases hdirect
  | setLevel name => cases hdirect
  | get host config folder =>
      rw [actsOf, get_of_some hdefault]
  | tokenize host manner excerpt =>
      rw [actsOf]
      cases hregistry : manner.registry with
      | some other => rw [tokenize_of_registry hregistry]
      | none => rw [acts_tokenize hregistry, get_of_some hdefault]
  | _ => rfl

theorem get_of_no_acts (hacts : (session.get host config folder).acts = []) :
    (session.get host config folder).session = session ∧
      exists number, (session.get host config folder).outcome = .ok number := by
  cases hdefault : session.default with
  | some number =>
      rw [get_of_some hdefault]
      exact ⟨rfl, number, rfl⟩
  | none =>
      have hreads : (session.get host config folder).acts.head? = some (reading config folder) :=
        reads_of_none hdefault
      rw [hacts] at hreads
      cases hreads

theorem undisturbed_of_no_acts {request : Request} (hdirect : request.isDirect = false)
    (hacts : session.actsOf request = []) : session.Undisturbed (session.after request) := by
  cases request with
  | setFiles files => exact ⟨rfl, rfl, rfl⟩
  | newRegistry policy paths defaultScope => cases hdirect
  | revise number paths defaultScope => exact ⟨rfl, rfl, rfl⟩
  | lookUp host method number scope =>
      exact (unmoved_lookUp host method number scope session).toUndisturbed
  | build host settings => cases hdirect
  | setLevel name => cases hdirect
  | configure number => exact ⟨rfl, rfl, rfl⟩
  | get host config folder =>
      rw [after, (get_of_no_acts hacts).left]
      exact ⟨rfl, rfl, rfl⟩
  | tokenize host manner excerpt =>
      rw [after]
      rw [actsOf] at hacts
      cases hregistry : manner.registry with
      | some number =>
          rw [tokenize_of_registry hregistry]
          exact (unmoved_tokenizeWith host manner number excerpt session).toUndisturbed
      | none =>
          rw [acts_tokenize hregistry] at hacts
          rcases get_of_no_acts hacts with ⟨hsame, number, houtcome⟩
          rw [tokenize_eq_get hregistry, Service.andThen, houtcome]
          dsimp only
          rw [hsame]
          exact (unmoved_tokenizeWith host _ number excerpt session).toUndisturbed

end

/-!
# The registry in force
-/

/-- What the choices and builds of a history have to do with the requests that are made behind
it. -/
structure Governed (history : List Turn) (session : Session) : Prop
    extends Told history session where
  given : forall host config folder number,
    (session.get host config folder).outcome = .ok number ->
      inForce (history ++ session.turnsOf (.get host config folder)) = some number ∧
        (session.get host config folder).session.default = some number
  used : forall host manner excerpt number, manner.registry = none ->
    (session.get host none none).outcome = .ok number ->
      inForce (history ++ session.turnsOf (.tokenize host manner excerpt)) = some number ∧
        let reading := (session.get host none none).session.tokenize host
          { manner with registry := some number } excerpt
        session.tokenize host manner excerpt =
          { reading with acts := (session.get host none none).acts ++ reading.acts }
  /-- Only where there is no registry a configuration is read, a level set, an engine loaded, or a
  registry built and chosen. -/
  needed : forall request, request.isDirect = false -> session.actsOf request ≠ [] ->
    session.default = none
  undisturbed : forall request, request.isDirect = false -> session.actsOf request = [] ->
    session.Undisturbed (session.after request)
  /-- Where there is a registry neither the arguments nor the files matter. -/
  deaf : forall number, session.default = some number -> forall host files config folder,
    get host config folder { session with files } =
      { outcome := .ok number, session := { session with files } }
  /-- Where there is none the next request builds one from the files as they are by then. -/
  anew : session.default = none -> forall host files config folder,
    Rebuilds host config folder { session with files }
  failed : forall host config folder failure,
    (session.get host config folder).outcome = .error failure ->
      (session.get host config folder).session.default = none ∧
        forall other files path place,
          Rebuilds other path place { (session.get host config folder).session with files }
  unread : forall host manner excerpt failure, manner.registry = none ->
    (session.get host none none).outcome = .error failure ->
      session.tokenize host manner excerpt =
        { outcome := .error failure
          session := (session.get host none none).session
          acts := (session.get host none none).acts }

/-- Whatever has been asked of a session, its default registry is the one that has been chosen last
or else the first one built since, for all requests to come. -/
theorem default_registry_governed (start : Session) (requests : List Request) :
    Governed (.chosen start.default :: start.turns requests) (start.run requests) := by
  have htold : Told (.chosen start.default :: start.turns requests) (start.run requests) :=
    (Told.start start).run requests
  generalize start.run requests = session at htold ⊢
  generalize Turn.chosen start.default :: start.turns requests = history at htold ⊢
  refine ⟨htold, ?given, ?used, ?needed, ?undisturbed, ?deaf, ?anew, ?failed, ?unread⟩
  case given =>
    intro host config folder number hget
    have hdefault := default_of_get hget
    have hafter := (htold.after (.get host config folder)).default
    exact ⟨hafter.symm.trans hdefault, hdefault⟩
  case used =>
    intro host manner excerpt number hregistry hget
    constructor
    · show inForce (history ++ builds (session.tokenize host manner excerpt).acts) = _
      rw [acts_tokenize hregistry]
      exact (htold.get host none none).default.symm.trans (default_of_get hget)
    · rw [tokenize_eq_get hregistry, Service.andThen, hget]
  case needed =>
    intro request hdirect hacts
    rw [Option.eq_none_iff_forall_ne_some]
    intro number hdefault
    exact hacts (acts_of_some hdefault hdirect)
  case undisturbed => exact fun request hdirect hacts => undisturbed_of_no_acts hdirect hacts
  case deaf =>
    intro number hdefault host files config folder
    have hthere : Session.default { session with files } = some number := hdefault
    exact get_of_some hthere
  case anew =>
    intro hnone host files config folder
    exact rebuilds_of_none host config folder hnone
  case failed =>
    intro host config folder failure hget
    have hnone := default_of_failed_get hget
    exact ⟨hnone, fun other files path place => rebuilds_of_none other path place hnone⟩
  case unread =>
    intro host manner excerpt failure hregistry hget
    rw [tokenize_eq_get hregistry, Service.andThen, hget]

end Session
end ScopeProbe
