import ScopeProbe.Engine
import ScopeProbe.Proofs.Imports

/-!
# What becomes of an engine factory

Whatever is written in a factory and whatever modules there are, loading it gives
the engine that it names or tells that it is at fault, unless the name of its
module begins with a dot, or a module or what is called for an engine fails on
its own.  A name with a dot in front is passed on as it is.
-/

namespace ScopeProbe
namespace EngineFactory

/-!
# What a factory names
-/

variable {ε : Type}

/-- A factory is written with the name of a module in front of the first colon and the name of
something in the module behind it. -/
structure Names (factory module name : Text) : Prop where
  written : factory = module ++ ':' :: name
  first : ':' ∉ module
  hasModule : module ≠ []
  hasName : name ≠ []

theorem split?_eq_some_iff {factory module name : Text} :
    split? factory = some (module, name) <-> Names factory module name := by
  simp only [split?, Option.filter_eq_some_iff, Text.splitAt?_singleton_eq_some,
    Bool.and_eq_true, Bool.not_eq_true', List.isEmpty_eq_false_iff]
  constructor
  · intro h
    rcases h with ⟨⟨hwritten, hfirst⟩, hmodule, hname⟩
    exact ⟨hwritten, hfirst, hmodule, hname⟩
  · intro hnames
    exact ⟨⟨hnames.written, hnames.first⟩, hnames.hasModule, hnames.hasName⟩

theorem split?_eq_none_iff {factory : Text} :
    split? factory = none <-> ¬ exists module name, Names factory module name := by
  simp only [Option.eq_none_iff_forall_ne_some, ne_eq, Prod.forall, split?_eq_some_iff, not_exists]

theorem Names.unique {factory module name otherModule otherName : Text}
    (h : Names factory module name) (hother : Names factory otherModule otherName) :
    otherModule = module ∧ otherName = name := by
  cases (split?_eq_some_iff.mpr h).symm.trans (split?_eq_some_iff.mpr hother)
  exact ⟨rfl, rfl⟩

structure Finds (installation : Installation ε) (factory module name : Text) (found : Module ε) :
    Prop where
  names : Names factory module name
  imports : Imports installation module (.ok found)

def Gives (installation : Installation ε) (factory : Text) (engine : ε) : Prop :=
  exists module name found target, Finds installation factory module name found ∧
    found.target? name = some target ∧ target.result = .ok (some engine)

/-!
# Loading
-/

inductive Loads (installation : Installation ε) (factory : Text) :
    Except Failure ε -> Prop
  | invalid (hnames : ¬ exists module name, Names factory module name) :
      Loads installation factory (.error (.load (.invalidFactory factory)))
  | notImported {module name : Text} {failure : Failure} (hnames : Names factory module name)
      (himports : Imports installation module (.error failure)) :
      Loads installation factory (.error failure)
  | missing {module name : Text} {found : Module ε}
      (hfinds : Finds installation factory module name found)
      (hmissing : found.target? name = none) :
      Loads installation factory (.error (.load (.missingAttribute module name)))
  | failing {module name : Text} {found : Module ε} {reason : String}
      (hfinds : Finds installation factory module name found)
      (hfailing : found.target? name = some (.failing reason)) :
      Loads installation factory (.error (.breakdown (.factoryFailed reason)))
  | notEngine {module name : Text} {found : Module ε} {target : Target ε}
      (hfinds : Finds installation factory module name found)
      (htarget : found.target? name = some target) (hresult : target.result = .ok none) :
      Loads installation factory (.error (.load (.notEngine factory)))
  | engine {engine : ε} (hgives : Gives installation factory engine) :
      Loads installation factory (.ok engine)

section

variable {installation : Installation ε} {factory module name : Text} {found : Module ε}

theorem load_of_names (hnames : Names factory module name) :
    load installation factory =
      importModule installation module >>= Module.provide factory module name := by
  rw [load, split?_eq_some_iff.mpr hnames]

theorem Finds.load_eq (h : Finds installation factory module name found) :
    load installation factory = found.provide factory module name := by
  rw [load_of_names h.names, importModule_eq_iff.mpr h.imports]
  rfl

theorem Finds.load_of_target (h : Finds installation factory module name found)
    {target : Target ε} (htarget : found.target? name = some target) :
    load installation factory = target.provide factory := by
  rw [h.load_eq, Module.provide, htarget]

theorem Finds.loads (h : Finds installation factory module name found) :
    Loads installation factory (found.provide factory module name) := by
  rw [Module.provide]
  cases htarget : found.target? name with
  | none => exact .missing h htarget
  | some target =>
      cases target with
      | value engine =>
          cases engine with
          | none => exact .notEngine h htarget rfl
          | some engine => exact .engine ⟨_, _, _, _, h, htarget, rfl⟩
      | factory engine =>
          cases engine with
          | none => exact .notEngine h htarget rfl
          | some engine => exact .engine ⟨_, _, _, _, h, htarget, rfl⟩
      | failing reason => exact .failing h htarget

theorem load_loads (installation : Installation ε) (factory : Text) :
    Loads installation factory (load installation factory) := by
  cases hsplit : split? factory with
  | none =>
      rw [load, hsplit]
      exact .invalid (split?_eq_none_iff.mp hsplit)
  | some parts =>
      rcases parts with ⟨module, name⟩
      have hnames := split?_eq_some_iff.mp hsplit
      cases hmodule : importModule installation module with
      | error failure =>
          rw [load_of_names hnames, hmodule]
          exact .notImported hnames (importModule_eq_iff.mp hmodule)
      | ok found =>
          have hfinds : Finds installation factory module name found :=
            ⟨hnames, importModule_eq_iff.mp hmodule⟩
          rw [hfinds.load_eq]
          exact hfinds.loads

theorem Loads.load_eq {outcome : Except Failure ε}
    (h : Loads installation factory outcome) : load installation factory = outcome := by
  cases h with
  | invalid hnames => rw [load, split?_eq_none_iff.mpr hnames]
  | notImported hnames himports =>
      rw [load_of_names hnames, importModule_eq_iff.mpr himports]
      rfl
  | missing hfinds hmissing => rw [hfinds.load_eq, Module.provide, hmissing]
  | failing hfinds hfailing =>
      rw [hfinds.load_of_target hfailing]
      rfl
  | notEngine hfinds htarget hresult =>
      rw [hfinds.load_of_target htarget, Target.provide, hresult]
      rfl
  | engine hgives =>
      rcases hgives with ⟨module, name, found, target, hfinds, htarget, hresult⟩
      rw [hfinds.load_of_target htarget, Target.provide, hresult]
      rfl

theorem load_eq_iff {outcome : Except Failure ε} :
    load installation factory = outcome <-> Loads installation factory outcome := by
  constructor
  · intro houtcome
    rw [← houtcome]
    exact load_loads installation factory
  · exact Loads.load_eq

theorem load_eq_ok_iff {engine : ε} :
    load installation factory = .ok engine <-> Gives installation factory engine := by
  rw [load_eq_iff]
  constructor
  · intro h
    cases h with
    | engine hgives => exact hgives
  · exact .engine

end

/-!
# What is told
-/

def Told (installation : Installation ε) (factory : Text) (outcome : Except Failure ε) :
    Prop :=
  (exists engine, Gives installation factory engine ∧ outcome = .ok engine) ∨
    exists fault, outcome = .error (.load fault)

def IsRelative (factory : Text) : Prop :=
  exists module name, Names factory module name ∧ module.head? = some '.'

/-- A module on the way to the one that a factory names fails on its own when importing comes to it,
or what is called for an engine does.  A module that needs something that is not found does not. -/
inductive Crashes (installation : Installation ε) (factory : Text) : Prop
  | module {module name stop : Text} {reason : String} (hnames : Names factory module name)
      (hdot : module.head? ≠ some '.') (hencloses : Encloses stop module)
      (hreaches : Reaches installation stop)
      (hfailing : installation stop = some (.failing reason)) : Crashes installation factory
  | target {module name : Text} {found : Module ε} {reason : String}
      (hfinds : Finds installation factory module name found)
      (hfailing : found.target? name = some (.failing reason)) : Crashes installation factory

section

variable {installation : Installation ε} {factory module name : Text}

theorem not_told_breakdown {cause : Breakdown} :
    ¬ Told installation factory (.error (.breakdown cause)) := by
  intro htold
  rcases htold with ⟨_origin, _hgives, h⟩ | ⟨_fault, h⟩
  · cases h
  · cases h

theorem Imports.error_cases {failure : Failure} (h : Imports installation name (.error failure)) :
    (exists fault, failure = .load fault) ∨ name.head? = some '.' ∨
      name.head? ≠ some '.' ∧ exists stop reason, Encloses stop name ∧
        Reaches installation stop ∧ installation stop = some (.failing reason) := by
  cases h with
  | relative hdot => exact .inr (.inl hdot)
  | stopped hdot hencloses hreaches hstops =>
      cases hstops with
      | missing => exact .inl ⟨_, rfl⟩
      | insideModule => exact .inl ⟨_, rfl⟩
      | broken => exact .inl ⟨_, rfl⟩
      | failing hfailing => exact .inr (.inr ⟨hdot, _, _, hencloses, hreaches, hfailing⟩)

theorem load_told (habsolute : ¬ IsRelative factory) (hruns : ¬ Crashes installation factory) :
    Told installation factory (load installation factory) := by
  generalize houtcome : load installation factory = outcome
  cases load_eq_iff.mp houtcome with
  | invalid => exact .inr ⟨_, rfl⟩
  | notImported hnames himports =>
      rcases himports.error_cases with
        ⟨fault, rfl⟩ | hdot | ⟨hdot, stop, reason, hencloses, hreaches, hfailing⟩
      · exact .inr ⟨fault, rfl⟩
      · exact absurd ⟨_, _, hnames, hdot⟩ habsolute
      · exact absurd (.module hnames hdot hencloses hreaches hfailing) hruns
  | missing => exact .inr ⟨_, rfl⟩
  | failing hfinds hfailing => exact absurd (.target hfinds hfailing) hruns
  | notEngine => exact .inr ⟨_, rfl⟩
  | engine hgives => exact .inl ⟨_, hgives, rfl⟩

theorem load_of_relative (hnames : Names factory module name)
    (hdot : module.head? = some '.') :
    load installation factory = .error (.breakdown (.relativeModule module)) :=
  Loads.load_eq (.notImported hnames (.relative hdot))

theorem Crashes.not_told (h : Crashes installation factory) :
    ¬ Told installation factory (load installation factory) := by
  cases h with
  | module hnames hdot hencloses hreaches hfailing =>
      rw [Loads.load_eq
        (.notImported hnames (.stopped hdot hencloses hreaches (.failing hfailing)))]
      exact not_told_breakdown
  | target hfinds hfailing =>
      rw [Loads.load_eq (.failing hfinds hfailing)]
      exact not_told_breakdown

/-- A factory gives its engine or is told to be at fault exactly if the name of its module does not
begin with a dot and neither a module nor what is called fails on its own.  The engine is the one
of what the factory names, and a name that begins with a dot is passed on. -/
theorem factory_told_iff (installation : Installation ε) (factory : Text) :
    (Told installation factory (load installation factory) <->
        ¬ IsRelative factory ∧ ¬ Crashes installation factory) ∧
      (forall engine, load installation factory = .ok engine <->
        Gives installation factory engine) ∧
      forall module name, Names factory module name -> module.head? = some '.' ->
        load installation factory = .error (.breakdown (.relativeModule module)) := by
  refine ⟨⟨fun htold => ⟨?_, fun hcrashes => hcrashes.not_told htold⟩, ?_⟩,
    fun _origin => load_eq_ok_iff, fun _module _name => load_of_relative⟩
  · intro hrelative
    rcases hrelative with ⟨module, name, hnames, hdot⟩
    rw [load_of_relative hnames hdot] at htold
    exact not_told_breakdown htold
  · intro h
    exact load_told h.left h.right

end

def testPackage : List (String × Import Engine) :=
  [("tests", .module { isPackage := true, targets := [] }),
    ("tests.fake_engine", .module {
      isPackage := false
      targets := [("SOURCE", .value none), ("FakeState", .factory none),
        ("FakeGrammar", .factory none), ("FakeEngine", .factory (some { policy := .mana }))] })]

def testInstallation : Installation Engine :=
  fun name => testPackage.lookup (String.ofList name)

theorem testInstallation_not_failing (name : Text) (reason : String) :
    testInstallation name ≠ some (.failing reason) := by
  unfold testInstallation testPackage
  rw [List.lookup_cons, List.lookup_cons, List.lookup_nil]
  split
  · simp
  · split <;> simp

theorem not_crashes_of_names {factory module name : Text} (hnames : Names factory module name)
    (htarget : forall found reason, importModule testInstallation module = .ok found ->
      found.target? name ≠ some (.failing reason)) : ¬ Crashes testInstallation factory := by
  intro hcrashes
  cases hcrashes with
  | module _hother _hdot _hencloses _hreaches hfailing =>
      exact testInstallation_not_failing _ _ hfailing
  | target hfinds hfailing =>
      rcases hnames.unique hfinds.names with ⟨rfl, rfl⟩
      exact htarget _ _ (importModule_eq_iff.mpr hfinds.imports) hfailing

theorem nested_class_told :
    ¬ IsRelative "tests.fake_engine:FakeEngine".toList ∧
      ¬ Crashes testInstallation "tests.fake_engine:FakeEngine".toList ∧
      Told testInstallation "tests.fake_engine:FakeEngine".toList
        (load testInstallation "tests.fake_engine:FakeEngine".toList) ∧
      Gives testInstallation "tests.fake_engine:FakeEngine".toList { policy := .mana } := by
  have hnames : Names "tests.fake_engine:FakeEngine".toList "tests.fake_engine".toList
      "FakeEngine".toList :=
    split?_eq_some_iff.mp (by decide +kernel)
  have habsolute : ¬ IsRelative "tests.fake_engine:FakeEngine".toList := by
    intro hrelative
    rcases hrelative with ⟨module, name, hother, hdot⟩
    rw [(hnames.unique hother).left] at hdot
    cases hdot
  have hruns : ¬ Crashes testInstallation "tests.fake_engine:FakeEngine".toList := by
    refine not_crashes_of_names hnames fun found reason hfound hfailing => ?_
    have hmodule : importModule testInstallation "tests.fake_engine".toList = .ok
        { isPackage := false
          targets := [("SOURCE", .value none), ("FakeState", .factory none),
            ("FakeGrammar", .factory none),
            ("FakeEngine", .factory (some { policy := .mana }))] } := by
      rfl
    cases hmodule.symm.trans hfound
    cases hfailing
  have hload : load testInstallation "tests.fake_engine:FakeEngine".toList =
      .ok { policy := .mana } := by
    rfl
  exact ⟨habsolute, hruns, (factory_told_iff _ _).left.mpr ⟨habsolute, hruns⟩,
    ((factory_told_iff _ _).right.left _).mp hload⟩

theorem leading_dot_not_told :
    ¬ Crashes testInstallation ".tests:X".toList ∧
      load testInstallation ".tests:X".toList =
        .error (.breakdown (.relativeModule ".tests".toList)) ∧
      ¬ Told testInstallation ".tests:X".toList (load testInstallation ".tests:X".toList) := by
  have hnames : Names ".tests:X".toList ".tests".toList "X".toList :=
    split?_eq_some_iff.mp (by decide +kernel)
  have hruns : ¬ Crashes testInstallation ".tests:X".toList := by
    refine not_crashes_of_names hnames fun found reason hfound => ?_
    have hmodule : importModule testInstallation ".tests".toList =
        .error (.breakdown (.relativeModule ".tests".toList)) := by
      rfl
    cases hmodule.symm.trans hfound
  have hload : load testInstallation ".tests:X".toList =
      .error (.breakdown (.relativeModule ".tests".toList)) := by
    rfl
  refine ⟨hruns, hload, ?_⟩
  rw [hload]
  exact not_told_breakdown

end EngineFactory
end ScopeProbe
