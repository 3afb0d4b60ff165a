import ScopeProbe.Proofs.DefaultRegistry
import ScopeProbe.Proofs.Registry.Isolation

/-!
# Histories of sessions

A history is a list of requests, each of which may fail, with changes of the
files and of the registries between them.  Whatever it holds, registries and
engines keep their numbers, a registry keeps its engine and all that it
remembers, and an engine keeps its grammars.  So a grammar that has been
remembered once is found without a look at the files ever after.
-/

namespace ScopeProbe
namespace Session

/-!
# Requests
-/

inductive Request where
  | setFiles (files : FileSystem)
  | newRegistry (policy : EnginePolicy) (paths : List (String × Path)) (defaultScope : String)
  | revise (number : Nat) (paths : List (String × Path)) (defaultScope : String)
  | lookUp (host : Host) (method : Method) (number : Nat) (scope : String)
  | build (host : Host) (settings : Settings)
  | setLevel (name : String)
  | configure (number : Option Nat)
  | get (host : Host) (config folder : Option Path)
  | tokenize (host : Host) (manner : Manner) (excerpt : Excerpt)

def revise (number : Nat) (paths : List (String × Path)) (defaultScope : String)
    (session : Session) : Session :=
  { session with
    registries := session.registries.modify number fun installed =>
      { installed with registry := { installed.registry with paths, defaultScope } } }

def after (session : Session) : Request -> Session
  | .setFiles files => { session with files }
  | .newRegistry policy paths defaultScope =>
      (session.newRegistry policy { paths, defaultScope }).2
  | .revise number paths defaultScope => session.revise number paths defaultScope
  | .lookUp host method number scope => (session.lookUp host method number scope).2
  | .build host settings => (session.build host settings).session
  | .setLevel name => (session.setLevel name).session
  | .configure number => session.configure number
  | .get host config folder => (session.get host config folder).session
  | .tokenize host manner excerpt => (session.tokenize host manner excerpt).session

def run (session : Session) (requests : List Request) : Session :=
  requests.foldl after session

theorem gather_snd (host : Host) (manner : Manner) (excerpts : List Excerpt) (session : Session) :
    (session.gather host manner excerpts).2 =
      session.run (excerpts.map (.tokenize host manner)) := by
  induction excerpts generalizing session with
  | nil => rfl
  | cons excerpt more ih => exact ih (session.tokenize host manner excerpt).session

/-!
# Lookups of a session
-/

variable {host : Host} {session : Session} {number : Nat} {scope : String}

def worldOf (host : Host) (session : Session) (installed : Installed) (engine : Engine) :
    World Engine Nat where
  registry := installed.registry
  files := session.files
  room := host.room
  engine := engine

theorem engineOf?_eq_some {installed : Installed} {engine : Engine}
    (hinstalled : session.registries[number]? = some installed)
    (hengine : session.engines[installed.engine]? = some engine) :
    session.engineOf? number = some engine := by
  rw [engineOf?, hinstalled]
  exact hengine

theorem lookUp_of_installed (method : Method) (scope : String) {installed : Installed}
    {engine : Engine} (hinstalled : session.registries[number]? = some installed)
    (hengine : session.engines[installed.engine]? = some engine) :
    session.lookUp host method number scope =
      (((session.worldOf host installed engine).look Engine.compile method scope).outcome,
        session.adopt number installed.engine
          ((session.worldOf host installed engine).look Engine.compile method scope)) := by
  rw [lookUp, hinstalled, engineOf?_eq_some hinstalled hengine]
  cases method <;> rfl

/-- A lookup without a registry of the number finds nothing and changes nothing.  Otherwise it is
one in the world of the registry and its engine. -/
theorem lookUp_cases (host : Host) (session : Session) (method : Method) (number : Nat)
    (scope : String) :
    session.lookUp host method number scope = (.ok none, session) ∨
      exists installed engine, session.registries[number]? = some installed ∧
        session.engines[installed.engine]? = some engine ∧
        session.lookUp host method number scope =
          (((session.worldOf host installed engine).look Engine.compile method scope).outcome,
            session.adopt number installed.engine
              ((session.worldOf host installed engine).look Engine.compile method scope)) := by
  cases hinstalled : session.registries[number]? with
  | none =>
      left
      rw [lookUp, hinstalled]
  | some installed =>
      cases hengine : session.engines[installed.engine]? with
      | none =>
          left
          rw [lookUp, engineOf?, hinstalled]
          simp only [Option.bind_eq_bind, Option.bind_some, hengine]
      | some engine =>
          right
          exact ⟨installed, engine, rfl, hengine,
            lookUp_of_installed method scope hinstalled hengine⟩

theorem lookUp_load (host : Host) (session : Session) (number : Nat) (scope : String) :
    session.lookUp host .load number scope = session.lookUp host .find number scope := by
  rw [lookUp, lookUp]
  split
  · simp only [Method.lookup, Registry.load_eq_find]
  · rfl

end Session

/-!
# Engines keep their grammars
-/

namespace Engine

theorem length_records_compile (definition : Definition) (engine : Engine) :
    engine.records.length <= (compile definition engine).2.records.length := by
  rw [compile]
  split
  · exact Nat.le_refl _
  · exact Nat.le_refl _
  · dsimp only
    rw [List.length_append]
    exact Nat.le_add_right _ _

theorem length_records_after (engine : Engine) (definitions : List Definition) :
    engine.records.length <= (Compiler.after compile engine definitions).records.length := by
  induction definitions generalizing engine with
  | nil => exact Nat.le_refl _
  | cons definition more ih =>
      exact Nat.le_trans (length_records_compile definition engine) (ih _)

@[simp] theorem length_records_record (grammar : Nat) (calls : List (Call Mana.State))
    (engine : Engine) : (engine.record grammar calls).records.length = engine.records.length :=
  List.length_modify _ _ _

theorem compile_eq_some {definition : Definition} {engine : Engine} {grammar : Nat}
    (h : (compile definition engine).1 = .ok (some grammar)) :
    grammar = engine.records.length ∧
      (compile definition engine).2.records = engine.records ++ [[]] := by
  rw [compile] at h ⊢
  split at h
  · cases h
  · cases h
  · rename_i hpolicy
    cases h
    exact ⟨rfl, rfl⟩

end Engine

namespace World

variable {world : World Engine Nat} {method : Session.Method} {scope : String} {grammar : Nat}

theorem length_records_look (world : World Engine Nat) (method : Session.Method)
    (scope : String) :
    world.engine.records.length <=
      (world.look Engine.compile method scope).engine.records.length := by
  rw [engine_look]
  exact Engine.length_records_after _ _

theorem look_eq_some (h : (world.look Engine.compile method scope).outcome = .ok (some grammar)) :
    (world.registry.remembered? scope = some (some grammar) ∧
        world.look Engine.compile method scope = world.recalled (some grammar)) ∨
      grammar = world.engine.records.length ∧
        (world.look Engine.compile method scope).registry =
          world.registry.remember scope (some grammar) ∧
        (world.look Engine.compile method scope).engine.records =
          world.engine.records ++ [[]] := by
  rcases look_cases Engine.compile world method scope with
    ⟨known, hmemory, hlook⟩ | ⟨_hunknown, hlook⟩
  · rw [hlook] at h
    cases h
    exact .inl ⟨hmemory, hlook⟩
  · right
    rw [hlook] at h ⊢
    dsimp only at h ⊢
    rw [h]
    rcases fetch_cases Engine.compile world scope with
      ⟨_hpath, hfetch⟩ | ⟨_path, _failure, _hpath, _hread, hfetch⟩ |
        ⟨_path, definition, _hpath, _hread, hfetch⟩
    · rw [hfetch] at h
      cases h
    · rw [hfetch] at h
      cases h
    · rw [hfetch] at h ⊢
      rcases Engine.compile_eq_some h with ⟨hgrammar, hrecords⟩
      exact ⟨hgrammar, rfl, hrecords⟩

theorem remembered?_look {other : String} {found : Option Nat}
    (h : (world.look Engine.compile method scope).registry.remembered? other = some found) :
    world.registry.remembered? other = some found ∨
      other = scope ∧ (world.look Engine.compile method scope).outcome = .ok found := by
  by_cases hsame : other = scope
  · subst hsame
    cases houtcome : (world.look Engine.compile method other).outcome with
    | error failure =>
        rw [(registry_of_error method houtcome).left] at h
        exact .inl h
    | ok grammar =>
        rw [remembered?_of_ok method houtcome] at h
        cases h
        exact .inr ⟨rfl, rfl⟩
  · rw [remembered?_of_ne method hsame] at h
    exact .inl h

theorem lt_length_records_look
    (h : forall other grammar, world.registry.remembered? other = some (some grammar) ->
      grammar < world.engine.records.length) {other : String}
    (hmemory : (world.look Engine.compile method scope).registry.remembered? other =
      some (some grammar)) :
    grammar < (world.look Engine.compile method scope).engine.records.length := by
  have hlength := length_records_look world method scope
  rcases remembered?_look hmemory with hbefore | ⟨_hsame, hfound⟩
  · exact Nat.lt_of_lt_of_le (h other grammar hbefore) hlength
  · rcases look_eq_some hfound with ⟨hbefore, _hlook⟩ | ⟨rfl, _hregistry, hrecords⟩
    · exact Nat.lt_of_lt_of_le (h scope grammar hbefore) hlength
    · rw [hrecords, List.length_append]
      exact Nat.lt_add_one _

end World

/-!
# Lists whose entries stay

An entry that a list has at some place, a later list has there as well, changed
only in ways that are allowed.
-/

section Lasting

variable {α : Type}

def Lasts (changes : α -> α -> Prop) (before later : List α) : Prop :=
  forall (k : Nat) (entry : α), before[k]? = some entry ->
    exists kept, later[k]? = some kept ∧ changes entry kept

variable {changes : α -> α -> Prop}

theorem Lasts.refl (hsame : forall entry, changes entry entry) (entries : List α) :
    Lasts changes entries entries :=
  fun _ entry hentry => ⟨entry, hentry, hsame entry⟩

theorem Lasts.trans
    (htrans : forall entry kept last, changes entry kept -> changes kept last ->
      changes entry last)
    {before between later : List α} (hfirst : Lasts changes before between)
    (hsecond : Lasts changes between later) : Lasts changes before later := by
  intro k entry hentry
  rcases hfirst k entry hentry with ⟨kept, hkept, hchange⟩
  rcases hsecond k kept hkept with ⟨last, hlast, hlastChange⟩
  exact ⟨last, hlast, htrans _ _ _ hchange hlastChange⟩

theorem lasts_append (hsame : forall entry, changes entry entry) (front back : List α) :
    Lasts changes front (front ++ back) := by
  intro k entry hentry
  refine ⟨entry, ?_, hsame entry⟩
  rw [List.getElem?_append_left (List.getElem?_eq_some_iff.mp hentry).1]
  exact hentry

theorem lasts_modify (hsame : forall entry, changes entry entry) {change : α -> α}
    (hchange : forall entry, changes entry (change entry)) (entries : List α) (place : Nat) :
    Lasts changes entries (entries.modify place change) := by
  intro k entry hentry
  rw [List.getElem?_modify, hentry]
  by_cases hplace : place = k
  · exact ⟨change entry, by simp [hplace], hchange entry⟩
  · exact ⟨entry, by simp [hplace], hsame entry⟩

theorem lasts_set (hsame : forall entry, changes entry entry) {entries : List α} {place : Nat}
    {old new : α} (hold : entries[place]? = some old) (hchange : changes old new) :
    Lasts changes entries (entries.set place new) := by
  intro k entry hentry
  by_cases hplace : place = k
  · subst hplace
    cases hold.symm.trans hentry
    exact ⟨new, List.getElem?_set_self (List.getElem?_eq_some_iff.mp hold).1, hchange⟩
  · exact ⟨entry, (List.getElem?_set_ne hplace).trans hentry, hsame entry⟩

theorem set_eq_self {entries : List α} {place : Nat} {entry : α}
    (hentry : entries[place]? = some entry) : entries.set place entry = entries := by
  rw [← (List.getElem?_eq_some_iff.mp hentry).2, List.set_getElem_self]

end Lasting

/-!
# What a session keeps
-/

def Engine.Grows (before later : Engine) : Prop :=
  before.records.length <= later.records.length

theorem Engine.Grows.refl (engine : Engine) : engine.Grows engine :=
  Nat.le_refl _

theorem Engine.Grows.trans (before between later : Engine) (hfirst : before.Grows between)
    (hsecond : between.Grows later) : before.Grows later :=
  Nat.le_trans hfirst hsecond

namespace Installed

/-- The registry has the same engine and remembers at least as much. -/
structure Grows (before later : Installed) : Prop where
  engine : later.engine = before.engine
  memory : forall scope grammar, before.registry.remembered? scope = some grammar ->
    later.registry.remembered? scope = some grammar

theorem Grows.refl (installed : Installed) : installed.Grows installed where
  engine := rfl
  memory := fun _ _ hmemory => hmemory

theorem Grows.trans (before between later : Installed) (hfirst : before.Grows between)
    (hsecond : between.Grows later) : before.Grows later where
  engine := hsecond.engine.trans hfirst.engine
  memory := fun scope grammar hmemory =>
    hsecond.memory scope grammar (hfirst.memory scope grammar hmemory)

/-- The registry has an engine among some, and the grammars that it remembers are grammars of that
engine. -/
def Served (engines : List Engine) (installed : Installed) : Prop :=
  exists engine, engines[installed.engine]? = some engine ∧
    forall scope grammar, installed.registry.remembered? scope = some (some grammar) ->
      grammar < engine.records.length

theorem Served.mono {engines later : List Engine} {installed : Installed}
    (hserved : installed.Served engines) (hengines : Lasts Engine.Grows engines later) :
    installed.Served later := by
  rcases hserved with ⟨engine, hengine, hmemory⟩
  rcases hengines _ engine hengine with ⟨kept, hkept, hgrows⟩
  exact ⟨kept, hkept, fun scope grammar hgrammar =>
    Nat.lt_of_lt_of_le (hmemory scope grammar hgrammar) hgrows⟩

end Installed

namespace Session

/-- Registries and engines keep their numbers.  Registries keep their engines and all that they
remember, and engines keep their grammars. -/
structure Grows (before later : Session) : Prop where
  registries : Lasts Installed.Grows before.registries later.registries
  engines : Lasts Engine.Grows before.engines later.engines

structure Sound (session : Session) : Prop where
  shared : forall name number, session.shared.lookup name = some number ->
    number < session.engines.length
  served : forall installed, installed ∈ session.registries ->
    installed.Served session.engines

theorem sound_start : ({} : Session).Sound where
  shared := by
    intro name number hshared
    cases hshared
  served := by
    intro installed hinstalled
    cases hinstalled

namespace Grows

theorem refl (session : Session) : session.Grows session where
  registries := .refl Installed.Grows.refl _
  engines := .refl Engine.Grows.refl _

theorem trans {before between later : Session} (hfirst : before.Grows between)
    (hsecond : between.Grows later) : before.Grows later where
  registries := hfirst.registries.trans Installed.Grows.trans hsecond.registries
  engines := hfirst.engines.trans Engine.Grows.trans hsecond.engines

end Grows

theorem Sound.after_growth {before later : Session} (hsound : before.Sound)
    (hgrows : before.Grows later)
    (hshared : forall name number, later.shared.lookup name = some number ->
      before.shared.lookup name = some number ∨ number < later.engines.length)
    (hserved : forall installed, installed ∈ later.registries ->
      installed ∈ before.registries ∨ installed.Served later.engines) : later.Sound where
  shared := by
    intro name number hnumber
    rcases hshared name number hnumber with hbefore | hnew
    · have hbound := hsound.shared name number hbefore
      rcases hgrows.engines number _ (List.getElem?_eq_getElem hbound) with ⟨kept, hkept, _hgrows⟩
      exact (List.getElem?_eq_some_iff.mp hkept).1
    · exact hnew
  served := by
    intro installed hinstalled
    rcases hserved installed hinstalled with hbefore | hnew
    · exact (hsound.served installed hbefore).mono hgrows.engines
    · exact hnew

/-!
# What each request keeps
-/

theorem provideEngine_cases (origin : EngineOrigin) (session : Session) :
    (exists name number, session.shared.lookup name = some number ∧
        session.provideEngine origin = (number, session)) ∨
      exists policy shared,
        (forall name number, shared.lookup name = some number ->
          session.shared.lookup name = some number ∨ number = session.engines.length) ∧
          session.provideEngine origin =
            (session.engines.length,
              { session with engines := session.engines ++ [{ policy }], shared }) := by
  cases origin with
  | new policy => exact .inr ⟨policy, session.shared, fun _ _ hnumber => .inl hnumber, rfl⟩
  | shared name policy =>
      cases hshared : session.shared.lookup name with
      | some number =>
          refine .inl ⟨name, number, hshared, ?_⟩
          rw [provideEngine]
          dsimp only
          rw [hshared]
      | none =>
          refine .inr ⟨policy, (name, session.engines.length) :: session.shared, ?_, ?_⟩
          · intro other number hnumber
            rw [List.lookup_cons] at hnumber
            split at hnumber
            · exact .inr (Option.some.inj hnumber).symm
            · exact .inl hnumber
          · rw [provideEngine]
            dsimp only
            rw [hshared]
            rfl

theorem grows_of_same {before later : Session} (hregistries : later.registries = before.registries)
    (hengines : later.engines = before.engines) : before.Grows later where
  registries := hregistries ▸ .refl Installed.Grows.refl _
  engines := hengines ▸ .refl Engine.Grows.refl _

structure Keeps (before later : Session) : Prop where
  grows : before.Grows later
  sound : before.Sound -> later.Sound

namespace Keeps

theorem refl (session : Session) : session.Keeps session where
  grows := .refl session
  sound := fun hsound => hsound

theorem trans {before between later : Session} (hfirst : before.Keeps between)
    (hsecond : between.Keeps later) : before.Keeps later where
  grows := hfirst.grows.trans hsecond.grows
  sound := fun hsound => hsecond.sound (hfirst.sound hsound)

theorem of_same {before later : Session} (hregistries : later.registries = before.registries)
    (hengines : later.engines = before.engines)
    (hshared : later.shared = before.shared) : before.Keeps later where
  grows := grows_of_same hregistries hengines
  sound := fun hsound => hsound.after_growth (grows_of_same hregistries hengines)
    (fun _ _ hnumber => .inl (hshared ▸ hnumber))
    (fun _ hinstalled => .inl (hregistries ▸ hinstalled))

theorem addEngine (policy : EnginePolicy) {shared : List (String × Nat)} (session : Session)
    (hshared : forall name number, shared.lookup name = some number ->
      session.shared.lookup name = some number ∨ number = session.engines.length) :
    session.Keeps { session with engines := session.engines ++ [{ policy }], shared } := by
  refine ⟨?grows, fun hsound => hsound.after_growth ?grows ?_ fun _ hinstalled => .inl hinstalled⟩
  case grows => exact ⟨.refl Installed.Grows.refl _, lasts_append Engine.Grows.refl _ _⟩
  intro name number hnumber
  rcases hshared name number hnumber with hbefore | hnew
  · exact .inl hbefore
  · right
    simp [hnew]

theorem provideEngine (origin : EngineOrigin) (session : Session) :
    session.Keeps (session.provideEngine origin).2 ∧
      (session.Sound ->
        (session.provideEngine origin).1 < (session.provideEngine origin).2.engines.length) := by
  rcases provideEngine_cases origin session with
    ⟨name, number, hshared, hprovide⟩ | ⟨policy, shared, hshared, hprovide⟩
  · rw [hprovide]
    exact ⟨refl session, fun hsound => hsound.shared name number hshared⟩
  · rw [hprovide]
    exact ⟨addEngine policy session hshared, fun _hsound => by simp⟩

theorem addRegistry {before session : Session} {engine : Nat} {registry : Registry Nat}
    (hkeeps : before.Keeps session) (hempty : registry.cache = [])
    (hengine : before.Sound -> engine < session.engines.length) :
    before.Keeps (session.addRegistry engine registry).2 := by
  have hgrows : session.Grows (session.addRegistry engine registry).2 :=
    ⟨lasts_append Installed.Grows.refl _ _, .refl Engine.Grows.refl _⟩
  refine ⟨hkeeps.grows.trans hgrows, ?_⟩
  intro hsound
  refine (hkeeps.sound hsound).after_growth hgrows (fun _ _ hnumber => .inl hnumber) ?_
  intro installed hinstalled
  rcases List.mem_append.mp hinstalled with hbefore | hnew
  · exact .inl hbefore
  · right
    cases List.mem_singleton.mp hnew
    refine ⟨_, List.getElem?_eq_getElem (hengine hsound), ?_⟩
    intro scope grammar hmemory
    rw [Registry.remembered?, hempty] at hmemory
    cases hmemory

theorem newRegistry (policy : EnginePolicy) {registry : Registry Nat} (session : Session)
    (hempty : registry.cache = []) : session.Keeps (session.newRegistry policy registry).2 := by
  apply addRegistry (addEngine policy session fun _ _ hnumber => .inl hnumber) hempty
  intro _hsound
  simp

theorem withRegistry (settings : Settings) (origin : EngineOrigin) (session : Session) :
    session.Keeps (session.withRegistry settings origin) := by
  rcases provideEngine origin session with ⟨hkeeps, hengine⟩
  exact addRegistry hkeeps rfl hengine

theorem build (host : Host) (settings : Settings) (session : Session) :
    session.Keeps (session.build host settings).session := by
  cases horigin : originOf host settings.factory with
  | error failure =>
      rw [build_error horigin]
      exact refl session
  | ok origin =>
      rw [build_ok horigin]
      exact withRegistry settings origin session

theorem get (host : Host) (config folder : Option Path) (session : Session) :
    session.Keeps (session.get host config folder).session := by
  rcases get_cases host config folder session with ⟨number, _hdefault, hget⟩ |
    ⟨_hnone, ⟨failure, _hsettings, hget⟩ | ⟨settings, _hsettings, hrest⟩⟩
  · rw [hget]
    exact refl session
  · rw [hget]
    exact refl session
  · have hleveled : session.Keeps (session.leveled settings) := of_same rfl rfl rfl
    rcases hrest with ⟨failure, _horigin, hget⟩ | ⟨origin, _horigin, hget⟩
    · rw [hget]
      exact hleveled
    · rw [hget]
      exact (hleveled.trans (withRegistry settings origin _)).trans (of_same rfl rfl rfl)

theorem revise (number : Nat) (paths : List (String × Path)) (defaultScope : String)
    (session : Session) : session.Keeps (session.revise number paths defaultScope) := by
  have hgrows : session.Grows (session.revise number paths defaultScope) := by
    refine ⟨lasts_modify Installed.Grows.refl ?_ _ _, .refl Engine.Grows.refl _⟩
    exact fun installed => ⟨rfl, fun _ _ hmemory => hmemory⟩
  refine ⟨hgrows, fun hsound => hsound.after_growth hgrows (fun _ _ hnumber => .inl hnumber) ?_⟩
  intro installed hinstalled
  right
  rcases List.mem_iff_getElem?.mp hinstalled with ⟨k, hk⟩
  rw [Session.revise, List.getElem?_modify] at hk
  rcases Option.map_eq_some_iff.mp hk with ⟨old, hold, rfl⟩
  have hserved := hsound.served old (List.mem_of_getElem? hold)
  split <;> exact hserved

theorem lookUp (host : Host) (method : Method) (number : Nat) (scope : String)
    (session : Session) :
    session.Keeps (session.lookUp host method number scope).2 := by
  rcases lookUp_cases host session method number scope with
    hlookUp | ⟨installed, engine, hinstalled, hengine, hlookUp⟩
  · rw [hlookUp]
    exact refl session
  · rw [hlookUp]
    have hgrows : session.Grows (session.adopt number installed.engine
        ((session.worldOf host installed engine).look Engine.compile method scope)) := by
      constructor
      · refine lasts_set Installed.Grows.refl hinstalled ⟨rfl, ?_⟩
        exact fun other grammar hmemory => World.remembered?_after (.look method scope) hmemory
      · refine lasts_set Engine.Grows.refl hengine ?_
        exact World.length_records_look (session.worldOf host installed engine) method scope
    refine ⟨hgrows, fun hsound => hsound.after_growth hgrows (fun _ _ hnumber => .inl hnumber) ?_⟩
    intro other hother
    rcases List.mem_or_eq_of_mem_set hother with hbefore | rfl
    · exact .inl hbefore
    · right
      refine ⟨_, List.getElem?_set_self (List.getElem?_eq_some_iff.mp hengine).1, ?_⟩
      rcases hsound.served installed (List.mem_of_getElem? hinstalled) with
        ⟨same, hsame, hgrammars⟩
      cases hengine.symm.trans hsame
      exact fun name grammar hmemory => World.lt_length_records_look hgrammars hmemory

theorem readWith (manner : Manner) (number grammar : Nat) (excerpt : Excerpt) (session : Session) :
    session.Keeps (session.readWith manner number grammar excerpt).2 := by
  have hgrows : session.Grows (session.readWith manner number grammar excerpt).2 := by
    refine ⟨.refl Installed.Grows.refl _, lasts_modify Engine.Grows.refl ?_ _ _⟩
    intro engine
    exact Nat.le_of_eq (Engine.length_records_record _ _ engine).symm
  refine ⟨hgrows, fun hsound => hsound.after_growth hgrows
    (fun _ _ hnumber => .inl hnumber) (fun _ hinstalled => .inl hinstalled)⟩

theorem tokenizeWith (host : Host) (manner : Manner) (number : Nat) (excerpt : Excerpt)
    (session : Session) : session.Keeps (session.tokenizeWith host manner number excerpt).2 := by
  rw [Session.tokenizeWith]
  have hlookUp := lookUp host .load number (session.chooseScope manner number) session
  split <;> rename_i later hlater <;> rw [hlater] at hlookUp
  · exact hlookUp
  · exact hlookUp
  · exact hlookUp.trans (readWith manner number _ excerpt later)

theorem chooseRegistry (host : Host) (manner : Manner) (session : Session) :
    session.Keeps (session.chooseRegistry host manner).session := by
  rw [Session.chooseRegistry]
  split
  · exact refl session
  · exact get host none none session

theorem tokenize (host : Host) (manner : Manner) (excerpt : Excerpt) (session : Session) :
    session.Keeps (session.tokenize host manner excerpt).session := by
  have hchoose := chooseRegistry host manner session
  rw [Session.tokenize, Service.andThen]
  split
  · exact hchoose
  · exact hchoose.trans (tokenizeWith host manner _ excerpt _)

theorem setLevel (name : String) (session : Session) :
    session.Keeps (session.setLevel name).session := by
  rw [Session.setLevel]
  split <;> exact of_same rfl rfl rfl

theorem after (session : Session) (request : Request) : session.Keeps (session.after request) := by
  cases request with
  | setFiles files => exact of_same rfl rfl rfl
  | newRegistry policy paths defaultScope => exact newRegistry policy session rfl
  | revise number paths defaultScope => exact revise number paths defaultScope session
  | lookUp host method number scope => exact lookUp host method number scope session
  | build host settings => exact build host settings session
  | setLevel name => exact setLevel name session
  | configure number => exact of_same rfl rfl rfl
  | get host config folder => exact get host config folder session
  | tokenize host manner excerpt => exact tokenize host manner excerpt session

theorem run (session : Session) (requests : List Request) :
    session.Keeps (session.run requests) := by
  induction requests generalizing session with
  | nil => exact refl session
  | cons request more ih => exact (after session request).trans (ih _)

end Keeps

theorem sound_run (history : List Request) : (run {} history).Sound :=
  (Keeps.run {} history).sound sound_start

/-!
# Grammars that are remembered
-/

variable {host : Host} {session : Session} {number : Nat} {scope : String} {method : Method}
  {grammar : Nat}

def Settled (session : Session) (number : Nat) (scope : String) (grammar : Nat) : Prop :=
  exists installed engine, session.registries[number]? = some installed ∧
    session.engines[installed.engine]? = some engine ∧
    installed.registry.remembered? scope = some (some grammar) ∧
    grammar < engine.records.length

theorem Settled.mono {later : Session} (hsettled : session.Settled number scope grammar)
    (hgrows : session.Grows later) : later.Settled number scope grammar := by
  rcases hsettled with ⟨installed, engine, hinstalled, hengine, hmemory, hgrammar⟩
  rcases hgrows.registries number installed hinstalled with ⟨kept, hkept, hsame⟩
  rcases hgrows.engines installed.engine engine hengine with ⟨last, hlast, hlength⟩
  refine ⟨kept, last, hkept, ?_, hsame.memory scope _ hmemory, ?_⟩
  · rw [hsame.engine]
    exact hlast
  · exact Nat.lt_of_lt_of_le hgrammar hlength

theorem lookUp_of_remembered (host : Host) (method : Method) {installed : Installed}
    {engine : Engine}
    {found : Option Nat} (hinstalled : session.registries[number]? = some installed)
    (hengine : session.engines[installed.engine]? = some engine)
    (hmemory : installed.registry.remembered? scope = some found) :
    session.lookUp host method number scope = (.ok found, session) := by
  rw [lookUp_of_installed method scope hinstalled hengine, World.look_of_remembered method hmemory]
  rw [adopt]
  dsimp only [World.recalled, worldOf, Effect.entries, List.filterMap_nil]
  rw [set_eq_self hengine, set_eq_self hinstalled, List.append_nil]

def remembered? (session : Session) (number : Nat) (scope : String) : Option (Option Nat) :=
  session.registries[number]?.bind fun installed => installed.registry.remembered? scope

theorem lookUp_of_sound (host : Host) (hsound : session.Sound) (method : Method)
    {found : Option Nat} (hmemory : session.remembered? number scope = some found) :
    session.lookUp host method number scope = (.ok found, session) ∧
      forall grammar, found = some grammar -> session.Settled number scope grammar := by
  rcases Option.bind_eq_some_iff.mp hmemory with ⟨installed, hinstalled, hknown⟩
  rcases hsound.served installed (List.mem_of_getElem? hinstalled) with
    ⟨engine, hengine, hgrammars⟩
  refine ⟨lookUp_of_remembered host method hinstalled hengine hknown, ?_⟩
  rintro grammar rfl
  exact ⟨installed, engine, hinstalled, hengine, hknown, hgrammars scope grammar hknown⟩

theorem Settled.lookUp (host : Host) (hsettled : session.Settled number scope grammar)
    (method : Method) :
    session.lookUp host method number scope = (.ok (some grammar), session) := by
  rcases hsettled with ⟨installed, engine, hinstalled, hengine, hmemory, _hgrammar⟩
  exact lookUp_of_remembered host method hinstalled hengine hmemory

theorem settled_of_lookUp (hsound : session.Sound)
    (hfound : (session.lookUp host method number scope).1 = .ok (some grammar)) :
    (session.lookUp host method number scope).2.Settled number scope grammar := by
  rcases lookUp_cases host session method number scope with
    hlookUp | ⟨installed, engine, hinstalled, hengine, hlookUp⟩
  · rw [hlookUp] at hfound
    cases hfound
  · rw [hlookUp] at hfound ⊢
    refine ⟨_, _, List.getElem?_set_self (List.getElem?_eq_some_iff.mp hinstalled).1,
      List.getElem?_set_self (List.getElem?_eq_some_iff.mp hengine).1, ?_⟩
    have hmemory := World.remembered?_of_ok method hfound
    refine ⟨hmemory, ?_⟩
    rcases hsound.served installed (List.mem_of_getElem? hinstalled) with
      ⟨same, hsame, hgrammars⟩
    cases hengine.symm.trans hsame
    exact World.lt_length_records_look hgrammars hmemory

end Session
end ScopeProbe
