import ScopeProbe.Proofs.Registry.Runs

/-!
# Failed lookups leave no trace

A lookup that fails leaves the world as it was, provided that its engine does.
So all later lookups go as if it had not been made, and the scope itself is
looked up as for the first time, with the paths and the files as they are by
then.
-/

namespace ScopeProbe

/-- An engine that is the same after a compilation that fails. -/
def Steady {ε γ : Type} (compile : Compiler ε γ) : Prop :=
  forall definition engine failure,
    (compile definition engine).1 = .error failure -> (compile definition engine).2 = engine

theorem steady_engine : Steady Engine.compile := by
  intro definition engine failure h
  rw [Engine.compile] at h ⊢
  cases hpolicy : engine.policy engine.compiled definition with
  | error refusal => rfl
  | ok made =>
      rw [hpolicy] at h
      cases made <;> cases h

namespace World

variable {ε γ : Type} {compile : Compiler ε γ} {world : World ε γ} {scope : String}

def anew (world : World ε γ) : World ε γ :=
  { world with registry := { world.registry with cache := [] } }

theorem remembered?_anew (world : World ε γ) (scope : String) :
    world.anew.registry.remembered? scope = none := rfl

theorem engine_of_error (hsteady : Steady compile) (method : Session.Method) {failure : Failure}
    (h : (world.look compile method scope).outcome = .error failure) :
    (world.look compile method scope).engine = world.engine := by
  rcases look_cases compile world method scope with
    ⟨known, _hmemory, hlook⟩ | ⟨_hunknown, hlook⟩
  · rw [hlook]
    rfl
  · rw [hlook] at h ⊢
    dsimp only at h ⊢
    rcases fetch_cases compile world scope with
      ⟨_hpath, hfetch⟩ | ⟨path, other, _hpath, _hread, hfetch⟩ |
        ⟨path, definition, _hpath, _hread, hfetch⟩
    · rw [hfetch]
    · rw [hfetch]
    · rw [hfetch] at h ⊢
      exact hsteady definition world.engine failure h

theorem after_of_error (hsteady : Steady compile) (method : Session.Method) {failure : Failure}
    (h : (world.look compile method scope).outcome = .error failure) :
    world.after compile (.look method scope) = world := by
  rw [after, (registry_of_error method h).left, engine_of_error hsteady method h]

theorem fetch_anew (compile : Compiler ε γ) (world : World ε γ) (scope : String) :
    world.anew.fetch compile scope =
      { world.fetch compile scope with registry := world.anew.registry } := by
  unfold fetch Registry.fetch anew
  dsimp only
  split
  · rfl
  · split <;> rfl

end World

/-- Two lookups of a scope come to the same in all that others can see of it. -/
structure Lookup.Agrees {ε γ : Type} (scope : String) (found other : Lookup ε γ) : Prop where
  outcome : found.outcome = other.outcome
  engine : found.engine = other.engine
  effects : found.effects = other.effects
  remembered : found.registry.remembered? scope = other.registry.remembered? scope

namespace World

variable {ε γ : Type} {compile : Compiler ε γ} {world : World ε γ} {scope : String}

theorem agrees_anew (method : Session.Method) (h : world.registry.remembered? scope = none) :
    Lookup.Agrees scope (world.look compile method scope)
      (world.anew.look compile method scope) := by
  rw [look_of_unknown method h, look_of_unknown method (remembered?_anew world scope),
    fetch_anew]
  refine ⟨rfl, rfl, rfl, ?_⟩
  dsimp only
  cases (world.fetch compile scope).outcome with
  | error failure => exact h
  | ok grammar =>
      show (world.registry.remember scope grammar).remembered? scope =
        (world.anew.registry.remember scope grammar).remembered? scope
      rw [Registry.remembered?_remember, Registry.remembered?_remember]

theorem outcome_of_compiled (method : Session.Method)
    (h : world.registry.remembered? scope = none) {path : Path} {definition : Definition}
    {grammar : Option γ} (hpath : world.registry.paths.lookup scope = some path)
    (hread : GrammarFile.read world.room world.files path = .ok definition)
    (hcompile : (compile definition world.engine).1 = .ok grammar) :
    (world.look compile method scope).outcome = .ok grammar := by
  rw [look_of_unknown method h]
  show (world.fetch compile scope).outcome = .ok grammar
  rw [fetch, Registry.fetch, hpath]
  dsimp only
  rw [hread]
  exact hcompile

end World

/-- After a lookup that fails, everything goes on as if it had not been made.  Its scope is not
remembered, and the next lookup of it is a first one in the world as it is by then, so it succeeds
once the path leads to a file that the engine takes. -/
theorem failed_lookup_leaves_no_trace {ε γ : Type} {compile : Compiler ε γ}
    (hsteady : Steady compile) (world : World ε γ) (method : Session.Method) (scope : String)
    {failure : Failure} (hfailed : (world.look compile method scope).outcome = .error failure) :
    let later := world.after compile (.look method scope)
    (later.registry.cache = world.registry.cache ∧
        later.registry.paths = world.registry.paths ∧
        later.registry.defaultScope = world.registry.defaultScope) ∧
      (forall operations,
        later.inquiries compile operations = world.inquiries compile operations) ∧
      later.registry.remembered? scope = none ∧
      forall operations, (forall other, .look other scope ∉ operations) ->
        forall next : Session.Method,
          let there := later.run compile operations
          Lookup.Agrees scope (there.look compile next scope)
              (there.anew.look compile next scope) ∧
            forall path definition grammar,
              there.registry.paths.lookup scope = some path ->
                GrammarFile.read there.room there.files path = .ok definition ->
                  (compile definition there.engine).1 = .ok grammar ->
                    (there.look compile next scope).outcome = .ok grammar := by
  intro later
  have hlater : later = world := World.after_of_error hsteady method hfailed
  have hunknown : later.registry.remembered? scope = none := by
    rw [hlater]
    exact (World.registry_of_error method hfailed).right
  refine ⟨?_, ?_, hunknown, ?_⟩
  · rw [hlater]
    exact ⟨rfl, rfl, rfl⟩
  · intro operations
    rw [hlater]
  · intro operations hnever next there
    have hthere : there.registry.remembered? scope = none :=
      World.remembered?_run_eq_none hunknown hnever
    refine ⟨World.agrees_anew next hthere, ?_⟩
    intro path definition grammar hpath hread hcompile
    exact World.outcome_of_compiled next hthere hpath hread hcompile

def definitionFiles (name : String) : FileSystem where
  files := [(["mana.json"], ("\x7b\"scopeName\": \"" ++ name ++ "\"\x7d").toUTF8.toList)]

def foreignWorld : World Engine Nat where
  registry :=
    { paths := [("source.mana", { anchor := .relative, parts := ["mana.json"] })] }
  files := definitionFiles "source.other"
  room := .ample
  engine := { policy := .mana }

theorem foreign_grammar_mended :
    (foreignWorld.look Engine.compile .load "source.mana").outcome.isOk = false ∧
      let later := foreignWorld.after Engine.compile (.look .load "source.mana")
      later.registry.remembered? "source.mana" = none ∧
        ((later.run Engine.compile [.setFiles (definitionFiles "source.mana")]).look
          Engine.compile .find "source.mana").outcome.isOk = true := by
  have hrefused :
      (foreignWorld.look Engine.compile .load "source.mana").outcome.isOk = false := by
    decide +kernel
  cases houtcome : (foreignWorld.look Engine.compile .load "source.mana").outcome with
  | ok grammar =>
      rw [houtcome] at hrefused
      cases hrefused
  | error failure =>
      have hnever (other : Session.Method) : .look other "source.mana" ∉
          ([.setFiles (definitionFiles "source.mana")] : List (Operation Engine)) := by
        intro hmem
        cases List.mem_singleton.mp hmem
      rcases failed_lookup_leaves_no_trace steady_engine foreignWorld .load "source.mana"
        houtcome with ⟨_hregistry, _hinquiries, hunknown, hnext⟩
      rcases hnext _ hnever .find with ⟨hagrees, _hmended⟩
      refine ⟨rfl, hunknown, ?_⟩
      rw [hagrees.outcome]
      decide +kernel

end ScopeProbe
