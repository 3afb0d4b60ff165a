import ScopeProbe.Session

/-!
# Making the default registry

The level of the log is set once the settings are known, and nothing takes it
back if the registry cannot be built from them.  The default registry is chosen
last, so a failure on the way leaves it unchosen.
-/

namespace ScopeProbe
namespace Session

variable {host : Host}

/-!
# Settings and engines
-/

def folderOf (folder : Option Path) : Path :=
  folder.getD Path.workingDirectory

def startOf (config folder : Option Path) : Path :=
  (config.map Path.parent).getD (folderOf folder)

def defaultSettings (host : Host) (config folder : Option Path) (session : Session) :
    Except Failure Settings := do
  let table ← ConfigFile.read host.room session.files config (folderOf folder)
  Settings.resolve table (startOf config folder) {}

def originOf (host : Host) (factory : Option String) : Except Failure EngineOrigin :=
  match factory with
  | none => .error (.load .noEngine)
  | some factory => EngineFactory.load host.installation factory.toList

theorem settings_eq (host : Host) (config folder : Option Path) (session : Session) :
    session.settings host config (folderOf folder) (startOf config folder) {} =
      { outcome := session.defaultSettings host config folder
        session := session
        acts := [.readConfig (ConfigFile.location config (folderOf folder))] } := by
  rw [settings, configuration, Service.andThen, defaultSettings]
  dsimp only
  cases ConfigFile.read host.room session.files config (folderOf folder) with
  | error failure => rfl
  | ok table => rfl

theorem loadEngine_error {factory : Option String} {session : Session} {failure : Failure}
    (horigin : originOf host factory = .error failure) :
    session.loadEngine host factory =
      { outcome := .error failure, session, acts := factory.toList.map .loadEngine } := by
  cases factory with
  | none =>
      cases horigin
      rfl
  | some factory =>
      change EngineFactory.load host.installation factory.toList = _ at horigin
      rw [loadEngine]
      dsimp only
      rw [horigin]
      rfl

theorem loadEngine_ok {factory : Option String} {session : Session} {origin : EngineOrigin}
    (horigin : originOf host factory = .ok origin) :
    session.loadEngine host factory =
      { outcome := .ok (session.provideEngine origin).1
        session := (session.provideEngine origin).2
        acts := factory.toList.map .loadEngine } := by
  cases factory with
  | none => cases horigin
  | some factory =>
      change EngineFactory.load host.installation factory.toList = _ at horigin
      rw [loadEngine]
      dsimp only
      rw [horigin]
      rfl

theorem registries_provideEngine (origin : EngineOrigin) (session : Session) :
    (session.provideEngine origin).2.registries = session.registries := by
  cases origin with
  | new policy => rfl
  | shared name policy =>
      rw [provideEngine]
      cases session.shared.lookup name <;> rfl

/-!
# What asking for the default registry does
-/

def registryOf (settings : Settings) : Registry Nat where
  paths := [(settings.scope, settings.grammarPath)]
  defaultScope := settings.scope

def leveled (settings : Settings) (session : Session) : Session :=
  { session with level := settings.level }

def withRegistry (settings : Settings) (origin : EngineOrigin) (session : Session) : Session :=
  ((session.provideEngine origin).2.addRegistry (session.provideEngine origin).1
    (registryOf settings)).2

theorem build_error {settings : Settings} {session : Session} {failure : Failure}
    (horigin : originOf host settings.factory = .error failure) :
    session.build host settings =
      { outcome := .error failure, session, acts := settings.factory.toList.map .loadEngine } := by
  rw [build, loadEngine_error horigin]
  rfl

theorem build_ok {settings : Settings} {session : Session} {origin : EngineOrigin}
    (horigin : originOf host settings.factory = .ok origin) :
    session.build host settings =
      { outcome := .ok session.registries.length
        session := session.withRegistry settings origin
        acts := settings.factory.toList.map .loadEngine } := by
  rw [build, loadEngine_ok horigin, Service.andThen]
  dsimp only [addRegistry, withRegistry]
  rw [registries_provideEngine, List.append_nil]
  rfl

/-- What is done on the way to a registry of some settings, once they are known. -/
def building (settings : Settings) : List Act :=
  .setLevel settings.level :: settings.factory.toList.map .loadEngine

def reading (config folder : Option Path) : Act :=
  .readConfig (ConfigFile.location config (folderOf folder))

variable {config folder : Option Path} {session : Session}

theorem get_of_some {number : Nat} (hdefault : session.default = some number) :
    session.get host config folder = { outcome := .ok number, session } := by
  rw [get, hdefault]

theorem get_of_none (hdefault : session.default = none) :
    session.get host config folder =
      (session.settings host config (folderOf folder) (startOf config folder) {}).andThen
        fun settings session => (session.applyLevel settings.level).andThen
          fun _ session => (session.build host settings).andThen install := by
  rw [get, hdefault]
  rfl

theorem get_of_unsettled {failure : Failure} (hdefault : session.default = none)
    (hsettings : session.defaultSettings host config folder = .error failure) :
    session.get host config folder =
      { outcome := .error failure, session, acts := [reading config folder] } := by
  rw [get_of_none hdefault, settings_eq, hsettings]
  rfl

theorem get_of_unbuilt {settings : Settings} {failure : Failure}
    (hdefault : session.default = none)
    (hsettings : session.defaultSettings host config folder = .ok settings)
    (horigin : originOf host settings.factory = .error failure) :
    session.get host config folder =
      { outcome := .error failure
        session := session.leveled settings
        acts := reading config folder :: building settings } := by
  rw [get_of_none hdefault, settings_eq, hsettings]
  dsimp only [applyLevel, Service.andThen]
  rw [build_error horigin]
  rfl

theorem get_of_built {settings : Settings} {origin : EngineOrigin}
    (hdefault : session.default = none)
    (hsettings : session.defaultSettings host config folder = .ok settings)
    (horigin : originOf host settings.factory = .ok origin) :
    session.get host config folder =
      { outcome := .ok session.registries.length
        session := ((session.leveled settings).withRegistry settings origin).configure
          (some session.registries.length)
        acts := reading config folder :: building settings ++
          [.install session.registries.length] } := by
  rw [get_of_none hdefault, settings_eq, hsettings]
  dsimp only [applyLevel, Service.andThen]
  rw [build_ok horigin]
  rfl

theorem get_cases (host : Host) (config folder : Option Path) (session : Session) :
    (exists number, session.default = some number ∧
        session.get host config folder = { outcome := .ok number, session }) ∨
      session.default = none ∧
        ((exists failure, session.defaultSettings host config folder = .error failure ∧
            session.get host config folder =
              { outcome := .error failure, session, acts := [reading config folder] }) ∨
          exists settings, session.defaultSettings host config folder = .ok settings ∧
            ((exists failure, originOf host settings.factory = .error failure ∧
                session.get host config folder =
                  { outcome := .error failure
                    session := session.leveled settings
                    acts := reading config folder :: building settings }) ∨
              exists origin, originOf host settings.factory = .ok origin ∧
                session.get host config folder =
                  { outcome := .ok session.registries.length
                    session := ((session.leveled settings).withRegistry settings origin).configure
                      (some session.registries.length)
                    acts := reading config folder :: building settings ++
                      [.install session.registries.length] })) := by
  cases hdefault : session.default with
  | some number => exact .inl ⟨number, rfl, get_of_some hdefault⟩
  | none =>
      refine .inr ⟨rfl, ?_⟩
      cases hsettings : session.defaultSettings host config folder with
      | error failure => exact .inl ⟨failure, rfl, get_of_unsettled hdefault hsettings⟩
      | ok settings =>
          refine .inr ⟨settings, rfl, ?_⟩
          cases horigin : originOf host settings.factory with
          | error failure =>
              exact .inl ⟨failure, rfl, get_of_unbuilt hdefault hsettings horigin⟩
          | ok origin => exact .inr ⟨origin, rfl, get_of_built hdefault hsettings horigin⟩

/-!
# When there is no default registry to be had
-/

/-- If the default registry cannot be had there was none before and there is none then.  A failure
to read the configuration or to resolve the settings changes nothing, and one to build the registry
leaves the level of the settings behind and nothing else.  Asking once more fails in the same
way. -/
theorem failed_get_leaves_default {failure : Failure}
    (hfailed : (session.get host config folder).outcome = .error failure) :
    let later := (session.get host config folder).session
    (session.default = none ∧ later.default = none) ∧
      (session.defaultSettings host config folder = .error failure ∧ later = session ∨
        exists settings, session.defaultSettings host config folder = .ok settings ∧
          originOf host settings.factory = .error failure ∧
            later = { session with level := settings.level }) ∧
      later.get host config folder =
        { outcome := .error failure, session := later
          acts := (session.get host config folder).acts } := by
  rcases get_cases host config folder session with ⟨number, _hsome, hget⟩ |
    ⟨hnone, ⟨same, hsettings, hget⟩ | ⟨settings, hsettings, hrest⟩⟩
  · rw [hget] at hfailed
    cases hfailed
  · rw [hget] at hfailed ⊢
    cases hfailed
    exact ⟨⟨hnone, hnone⟩, .inl ⟨hsettings, rfl⟩, hget⟩
  · rcases hrest with ⟨same, horigin, hget⟩ | ⟨origin, _horigin, hget⟩
    · rw [hget] at hfailed ⊢
      cases hfailed
      refine ⟨⟨hnone, hnone⟩, .inr ⟨settings, hsettings, horigin, rfl⟩, ?_⟩
      -- The level has no part in the settings, so they are found again and set the same level.
      have hagain : (session.leveled settings).defaultSettings host config folder =
          .ok settings := hsettings
      exact get_of_unbuilt hnone hagain horigin
    · rw [hget] at hfailed
      cases hfailed

end Session

/-!
# A configuration without an engine
-/

def bareHost : Host where
  installation := fun _ => none
  room := .ample

def leveledSession : Session where
  files :=
    { files := [(["manascope.toml"], "[logging]\nlevel = \"DEBUG\"\n".toUTF8.toList)] }

def leveledSettings : Settings where
  scope := Settings.usualScope
  grammarPath := Path.workingDirectory.join Settings.usualGrammarPath
  factory := none
  level := .debug

theorem leveledSession_settings :
    leveledSession.defaultSettings bareHost none none = .ok leveledSettings := by
  have hfound :
      (leveledSession.defaultSettings bareHost none none).toOption = some leveledSettings := by
    decide +kernel
  cases hsettings : leveledSession.defaultSettings bareHost none none with
  | error failure =>
      rw [hsettings] at hfound
      cases hfound
  | ok settings =>
      rw [hsettings] at hfound
      rw [Option.some.inj hfound]

theorem leveledSession_get :
    leveledSession.get bareHost none none =
      { outcome := .error (.load .noEngine)
        session := { leveledSession with level := .debug }
        acts := Session.reading none none :: Session.building leveledSettings } :=
  Session.get_of_unbuilt rfl leveledSession_settings rfl

theorem leveledSession_get_again :
    (leveledSession.get bareHost none none).outcome = .error (.load .noEngine) ∧
      ({ leveledSession with level := .debug } : Session).default = none ∧
      (({ leveledSession with level := .debug } : Session).get bareHost none none).outcome =
        .error (.load .noEngine) := by
  have hfailed : (leveledSession.get bareHost none none).outcome = .error (.load .noEngine) :=
    congrArg Service.outcome leveledSession_get
  rcases Session.failed_get_leaves_default hfailed with ⟨hdefault, _hcause, hagain⟩
  rw [leveledSession_get] at hdefault hagain
  exact ⟨hfailed, hdefault.right, congrArg Service.outcome hagain⟩

theorem failed_get_sets_level :
    (leveledSession.get bareHost none none).outcome = .error (.load .noEngine) ∧
      (leveledSession.get bareHost none none).session.level.threshold <
        leveledSession.level.threshold := by
  rw [leveledSession_get]
  exact ⟨rfl, by decide⟩

end ScopeProbe
