import ScopeProbe.Proofs.Registry.Recovery

/-!
# Lookups on their own

What comes of a lookup is told by what the registry remembers of its scope and,
if that is nothing, by the paths, the files and the engine.  An engine is told
by the definitions that it has compiled.  So in a run of lookups the first one
of a scope goes as if it were made alone, by an engine that has compiled what
the lookups of other scopes before it have made it compile.
-/

namespace ScopeProbe

/-!
# Engines after compilations
-/

def Effect.definition? : Effect -> Option Definition
  | .compile definition => some definition
  | _ => none

def Inquiry.definitions {ε γ : Type} (inquiry : Inquiry ε γ) : List Definition :=
  inquiry.found.effects.filterMap Effect.definition?

namespace Compiler

variable {ε γ β : Type}

def after (compile : Compiler ε γ) (engine : ε) (definitions : List Definition) : ε :=
  definitions.foldl (fun engine definition => (compile definition engine).2) engine

theorem after_append (compile : Compiler ε γ) (engine : ε) (front back : List Definition) :
    compile.after engine (front ++ back) = compile.after (compile.after engine front) back :=
  List.foldl_append

/-- What can be seen of the grammars that an engine makes is the same whatever the engine has
compiled before. -/
def Forgetful (compile : Compiler ε γ) (view : γ -> β) (engine : ε) : Prop :=
  forall definitions definition,
    (compile definition (compile.after engine definitions)).1.map (Option.map view) =
      (compile definition engine).1.map (Option.map view)

end Compiler

namespace Engine

theorem policy_after (engine : Engine) (definitions : List Definition) :
    (Compiler.after compile engine definitions).policy = engine.policy := by
  induction definitions generalizing engine with
  | nil => rfl
  | cons definition more ih =>
      rw [Compiler.after, List.foldl_cons]
      refine (ih _).trans ?_
      rw [compile]
      split <;> rfl

theorem isOk_compile (definition : Definition) (engine : Engine) :
    (compile definition engine).1.isOk = (engine.policy engine.compiled definition).isOk := by
  rw [compile]
  cases engine.policy engine.compiled definition with
  | error failure => rfl
  | ok made => cases made <;> rfl

theorem forgetful_compile {engine : Engine} {decides : Definition -> Except Failure Bool}
    (hpolicy : engine.policy = fun _ => decides) :
    Compiler.Forgetful compile (fun _ => Mana.grammar) engine := by
  intro definitions definition
  rw [compile, compile, policy_after, hpolicy]
  dsimp only
  cases decides definition with
  | error failure => rfl
  | ok made => cases made <;> rfl

end Engine

namespace World

variable {ε γ : Type} {compile : Compiler ε γ} {world : World ε γ} {scope : String}

/-- The world in which the engine has compiled some definitions before. -/
def behind (compile : Compiler ε γ) (world : World ε γ) (definitions : List Definition) :
    World ε γ :=
  { world with engine := compile.after world.engine definitions }

theorem engine_look (compile : Compiler ε γ) (world : World ε γ) (method : Session.Method)
    (scope : String) :
    (world.look compile method scope).engine =
      compile.after world.engine
        ((world.look compile method scope).effects.filterMap Effect.definition?) := by
  rcases look_cases compile world method scope with
    ⟨grammar, _hmemory, hlook⟩ | ⟨_hunknown, hlook⟩
  · rw [hlook]
    rfl
  · rw [hlook]
    rcases fetch_cases compile world scope with
      ⟨_hpath, hfetch⟩ | ⟨path, failure, _hpath, _hread, hfetch⟩ |
        ⟨path, definition, _hpath, _hread, hfetch⟩ <;>
      simp only [hfetch] <;>
      rfl

theorem anew_after_look (compile : Compiler ε γ) (world : World ε γ) (method : Session.Method)
    (scope : String) :
    (world.after compile (.look method scope)).anew =
      { world.anew with engine := (world.look compile method scope).engine } := by
  rw [after]
  rcases look_cases compile world method scope with
    ⟨grammar, _hmemory, hlook⟩ | ⟨_hunknown, hlook⟩
  · rw [hlook]
    rfl
  · rw [hlook]
    dsimp only
    cases (world.fetch compile scope).outcome <;> rfl

theorem outcome_look_congr (method other : Session.Method) {there : World ε γ}
    (h : world.registry.remembered? scope = none)
    (hthere : there.registry.remembered? scope = none) (hanew : world.anew = there.anew) :
    (world.look compile method scope).outcome = (there.look compile other scope).outcome := by
  calc
    (world.look compile method scope).outcome =
        (world.anew.look compile method scope).outcome := (agrees_anew method h).outcome
    _ = (there.anew.look compile other scope).outcome := by
      rw [hanew, look_eq_find, look_eq_find]
    _ = (there.look compile other scope).outcome := (agrees_anew other hthere).outcome.symm

theorem outcome_fetch (compile : Compiler ε γ) (world : World ε γ) (scope : String) :
    (world.fetch compile scope).outcome =
      match world.registry.paths.lookup scope with
      | none => .ok none
      | some path =>
          (GrammarFile.read world.room world.files path).bind fun definition =>
            (compile definition world.engine).1 := by
  rcases fetch_cases compile world scope with
    ⟨hpath, hfetch⟩ | ⟨path, failure, hpath, hread, hfetch⟩ |
      ⟨path, definition, hpath, hread, hfetch⟩
  · rw [hfetch, hpath]
  · rw [hfetch, hpath]
    dsimp only
    rw [hread]
    rfl
  · rw [hfetch, hpath]
    dsimp only
    rw [hread]
    rfl

theorem outcome_look_behind {β : Type} {view : γ -> β}
    (hforgetful : compile.Forgetful view world.engine) (definitions : List Definition)
    (method : Session.Method) (scope : String) :
    ((world.behind compile definitions).look compile method scope).outcome.map
        (Option.map view) =
      (world.look compile method scope).outcome.map (Option.map view) := by
  cases hmemory : world.registry.remembered? scope with
  | some grammar =>
      have hbehind : (world.behind compile definitions).registry.remembered? scope =
          some grammar := hmemory
      rw [look_of_remembered method hmemory, look_of_remembered method hbehind]
      rfl
  | none =>
      have hbehind : (world.behind compile definitions).registry.remembered? scope = none :=
        hmemory
      rw [look_of_unknown method hmemory, look_of_unknown method hbehind]
      dsimp only
      rw [outcome_fetch, outcome_fetch, behind]
      dsimp only
      cases world.registry.paths.lookup scope with
      | none => rfl
      | some path =>
          dsimp only
          cases GrammarFile.read world.room world.files path with
          | error failure => rfl
          | ok definition => exact hforgetful definitions definition

/-!
# Lookups one after the other
-/

theorem outcome_look_after {other : String} (hother : other ≠ scope)
    (hunknown : world.registry.remembered? scope = none) (definitions : List Definition) :
    (((world.after compile (.look .find other)).behind compile definitions).look compile .load
        scope).outcome =
      ((world.behind compile
        ((world.look compile .find other).effects.filterMap Effect.definition? ++
          definitions)).look compile .load scope).outcome := by
  have hstill : (world.after compile (.look .find other)).registry.remembered? scope = none :=
    (remembered?_of_ne .find (Ne.symm hother)).trans hunknown
  have hengine : (world.after compile (.look .find other)).engine =
      compile.after world.engine
        ((world.look compile .find other).effects.filterMap Effect.definition?) :=
    engine_look compile world .find other
  have hanew : (world.after compile (.look .find other)).anew =
      { world.anew with engine := (world.after compile (.look .find other)).engine } :=
    anew_after_look compile world .find other
  apply outcome_look_congr .load .load
  · exact hstill
  · exact hunknown
  · rw [behind, behind, Compiler.after_append, ← hengine]
    exact congrArg (fun there : World ε γ =>
      { there with engine := compile.after (world.after compile (.look .find other)).engine
                    definitions }) hanew

/-- A scope that a run of lookups makes the registry remember has been settled by the first lookup
of it, in a world that differs from the start by the compilations for other scopes only. -/
theorem settled_by_first {scopes : List String} {grammar : Option γ}
    (hquiet : forall inquiry, inquiry ∈ world.inquiries compile (scopes.map (.look .find)) ->
      inquiry.found.outcome.isOk = true)
    (hunknown : world.registry.remembered? scope = none)
    (hknown : (world.run compile (scopes.map (.look .find))).registry.remembered? scope =
      some grammar) :
    exists earlier, earlier <+: world.inquiries compile (scopes.map (.look .find)) ∧
      (forall inquiry, inquiry ∈ earlier -> inquiry.scope ≠ scope) ∧
      ((world.behind compile (earlier.flatMap Inquiry.definitions)).look compile .load
        scope).outcome = .ok grammar := by
  induction scopes generalizing world with
  | nil =>
      rw [List.map_nil, run, List.foldl_nil, hunknown] at hknown
      cases hknown
  | cons first more ih =>
      by_cases hsame : first = scope
      · subst hsame
        cases houtcome : (world.look compile .find first).outcome with
        | error failure =>
            have hok := hquiet _ List.mem_cons_self
            rw [houtcome] at hok
            cases hok
        | ok settled =>
            have hafter : (world.after compile (.look .find first)).registry.remembered? first =
                some settled := remembered?_of_ok .find houtcome
            have hsettled : ((world.after compile (.look .find first)).run compile
                (more.map (.look .find))).registry.remembered? first = some settled :=
              remembered?_run _ hafter
            have hgrammar : some settled = some grammar := hsettled.symm.trans hknown
            cases hgrammar
            refine ⟨[], List.nil_prefix, ?_, ?_⟩
            · intro inquiry hinquiry
              cases hinquiry
            · show (world.look compile .load first).outcome = _
              rw [look_eq_find, ← houtcome, look_eq_find]
      · have hstill : (world.after compile (.look .find first)).registry.remembered? scope =
            none := (remembered?_of_ne .find (Ne.symm hsame)).trans hunknown
        rcases ih (fun inquiry hinquiry => hquiet inquiry (List.mem_cons_of_mem _ hinquiry))
          hstill hknown with ⟨earlier, hprefix, hothers, houtcome⟩
        refine ⟨{ scope := first, world, found := world.look compile .find first } :: earlier,
          List.cons_prefix_cons.mpr ⟨rfl, hprefix⟩, ?_, ?_⟩
        · intro inquiry hinquiry
          rcases List.mem_cons.mp hinquiry with rfl | hmore
          · exact hsame
          · exact hothers inquiry hmore
        · rw [← houtcome, outcome_look_after hsame hunknown]
          rfl

/-!
# Worlds in which lookups succeed
-/

def Serves (compile : Compiler ε γ) (world : World ε γ) (scope : String) : Prop :=
  forall path, world.registry.paths.lookup scope = some path ->
    exists definition, GrammarFile.read world.room world.files path = .ok definition ∧
      forall definitions,
        (compile definition (compile.after world.engine definitions)).1.isOk = true

theorem Serves.isOk_look (h : world.Serves compile scope) (method : Session.Method) :
    (world.look compile method scope).outcome.isOk = true := by
  cases hmemory : world.registry.remembered? scope with
  | some grammar =>
      rw [look_of_remembered method hmemory]
      rfl
  | none =>
      rw [look_of_unknown method hmemory]
      dsimp only
      rw [outcome_fetch]
      cases hpath : world.registry.paths.lookup scope with
      | none => rfl
      | some path =>
          rcases h path hpath with ⟨definition, hread, htaken⟩
          dsimp only
          rw [hread]
          exact htaken []

theorem Serves.after_look (h : world.Serves compile scope) (method : Session.Method)
    (other : String) : (world.after compile (.look method other)).Serves compile scope := by
  have hanew := anew_after_look compile world method other
  have hpaths : (world.after compile (.look method other)).registry.paths =
      world.registry.paths := congrArg (fun there => there.registry.paths) hanew
  intro path hpath
  rw [hpaths] at hpath
  rcases h path hpath with ⟨definition, hread, htaken⟩
  refine ⟨definition, hread, ?_⟩
  intro definitions
  show (compile definition
    (compile.after (world.look compile method other).engine definitions)).1.isOk = true
  rw [engine_look, ← Compiler.after_append]
  exact htaken _

theorem isOk_of_serves (hserves : forall scope, world.Serves compile scope)
    (scopes : List String) {inquiry : Inquiry ε γ}
    (hinquiry : inquiry ∈ world.inquiries compile (scopes.map (.look .find))) :
    inquiry.found.outcome.isOk = true := by
  induction scopes generalizing world with
  | nil => cases hinquiry
  | cons first more ih =>
      rcases List.mem_cons.mp hinquiry with rfl | hmore
      · exact (hserves first).isOk_look .find
      · exact ih (fun scope => (hserves scope).after_look .find first) hmore

end World

end ScopeProbe
