import ScopeProbe.Proofs.Registry.Isolation
import ScopeProbe.Proofs.Registry.Stability

/-!
# Interleaved loads

Loading a grammar takes two steps.  The first one looks at what the registry
remembers and takes no lock.  If the scope is not there, the second one looks it
up under the lock, where nothing comes in between.  Any number of tasks take
their steps in any order, so that a task may come to its second step long after
another one has settled its scope.

The lookups under the lock form a run, and all that a task takes from the
registry without the lock is remembered for good.  So what is known of runs
carries over to all orders of the steps.
-/

namespace ScopeProbe

/-!
# Tasks
-/

inductive Task (γ : Type) where
  | fresh (scope : String)
  /-- The scope was not remembered, so the task waits for the lock. -/
  | waiting (scope : String)
  | finished (scope : String) (outcome : Except Failure (Option γ))
  deriving DecidableEq

/-- Tasks that share a registry, and the lookups made under its lock, the last one last. -/
structure Pool (ε γ : Type) where
  world : World ε γ
  tasks : List (Task γ)
  inquiries : List (Inquiry ε γ) := []

namespace Pool

variable {ε γ : Type} (compile : Compiler ε γ)

def start (world : World ε γ) (scopes : List String) : Pool ε γ where
  world := world
  tasks := scopes.map .fresh

def step (pool : Pool ε γ) (number : Nat) : Pool ε γ :=
  match pool.tasks[number]? with
  | some (.fresh scope) =>
      match pool.world.registry.remembered? scope with
      | some grammar =>
          { pool with tasks := pool.tasks.set number (.finished scope (.ok grammar)) }
      | none => { pool with tasks := pool.tasks.set number (.waiting scope) }
  | some (.waiting scope) =>
      let found := pool.world.look compile .find scope
      { world := pool.world.after compile (.look .find scope)
        tasks := pool.tasks.set number (.finished scope found.outcome)
        inquiries := pool.inquiries ++ [{ scope, world := pool.world, found }] }
  | _ => pool

def run (pool : Pool ε γ) (schedule : List Nat) : Pool ε γ :=
  schedule.foldl (step compile) pool

theorem run_append (pool : Pool ε γ) (front back : List Nat) :
    pool.run compile (front ++ back) = (pool.run compile front).run compile back :=
  List.foldl_append

variable {compile} {pool : Pool ε γ} {number : Nat}

theorem step_cases (compile : Compiler ε γ) (pool : Pool ε γ) (number : Nat) :
    pool.step compile number = pool ∨
      (exists scope grammar, pool.world.registry.remembered? scope = some grammar ∧
        pool.step compile number =
          { pool with tasks := pool.tasks.set number (.finished scope (.ok grammar)) }) ∨
      (exists scope, pool.world.registry.remembered? scope = none ∧
        pool.step compile number =
          { pool with tasks := pool.tasks.set number (.waiting scope) }) ∨
      (exists scope,
        pool.step compile number =
          { world := pool.world.after compile (.look .find scope)
            tasks := pool.tasks.set number
              (.finished scope (pool.world.look compile .find scope).outcome)
            inquiries := pool.inquiries ++ [
              { scope, world := pool.world, found := pool.world.look compile .find scope }] }) := by
  rw [step]
  split
  · rename_i scope _htask
    split
    · rename_i grammar hmemory
      exact Or.inr (Or.inl ⟨scope, grammar, hmemory, rfl⟩)
    · rename_i hmemory
      exact Or.inr (Or.inr (Or.inl ⟨scope, hmemory, rfl⟩))
  · rename_i scope _htask
    exact Or.inr (Or.inr (Or.inr ⟨scope, rfl⟩))
  · exact Or.inl rfl

theorem load_alone {scope : String} (htask : pool.tasks[number]? = some (.fresh scope)) :
    ((pool.step compile number).step compile number).tasks =
        pool.tasks.set number (.finished scope (pool.world.look compile .load scope).outcome) ∧
      ((pool.step compile number).step compile number).world =
        pool.world.after compile (.look .load scope) := by
  have hbound : number < pool.tasks.length := (List.getElem?_eq_some_iff.mp htask).1
  cases hmemory : pool.world.registry.remembered? scope with
  | some grammar =>
      have hfirst : pool.step compile number =
          { pool with tasks := pool.tasks.set number (.finished scope (.ok grammar)) } := by
        rw [step, htask]
        simp only [hmemory]
      have hsecond : (pool.step compile number).step compile number =
          pool.step compile number := by
        rw [hfirst, step]
        simp [hbound]
      rw [hsecond, hfirst, World.after, World.look_of_remembered .load hmemory]
      exact ⟨rfl, rfl⟩
  | none =>
      have hfirst : pool.step compile number =
          { pool with tasks := pool.tasks.set number (.waiting scope) } := by
        rw [step, htask]
        simp only [hmemory]
      have hlook : pool.world.look compile .load scope = pool.world.look compile .find scope := by
        rw [World.look_eq_find, World.look_eq_find]
      rw [hfirst, step, World.after, hlook]
      simp [hbound, World.after]

/-!
# The run behind an interleaving

Whatever the order of the steps, the lookups under the lock are a run of
lookups, and no task has finished with anything but what the registry remembers
or with the failure of such a lookup.
-/

structure Linear (compile : Compiler ε γ) (world : World ε γ) (pool : Pool ε γ) : Prop where
  world_eq : pool.world =
    world.run compile ((pool.inquiries.map Inquiry.scope).map (.look .find))
  inquiries_eq : pool.inquiries =
    world.inquiries compile ((pool.inquiries.map Inquiry.scope).map (.look .find))
  recalled : forall scope grammar, .finished scope (.ok grammar) ∈ pool.tasks ->
    pool.world.registry.remembered? scope = some grammar
  failed : forall scope failure, .finished scope (.error failure) ∈ pool.tasks ->
    exists inquiry, inquiry ∈ pool.inquiries ∧ inquiry.found.outcome = .error failure

variable {world : World ε γ}

theorem linear_start (compile : Compiler ε γ) (world : World ε γ) (scopes : List String) :
    (start world scopes).Linear compile world := by
  have hfresh (scope : String) (outcome : Except Failure (Option γ)) :
      .finished scope outcome ∉ (start world scopes).tasks := by
    intro htask
    rcases List.mem_map.mp htask with ⟨other, _hother, hsame⟩
    cases hsame
  exact {
    world_eq := rfl
    inquiries_eq := rfl
    recalled := fun scope grammar htask => absurd htask (hfresh scope _)
    failed := fun scope failure htask => absurd htask (hfresh scope _) }

theorem Linear.step (hlinear : pool.Linear compile world) (number : Nat) :
    (pool.step compile number).Linear compile world := by
  rcases step_cases compile pool number with
    hstep | ⟨scope, grammar, hmemory, hstep⟩ | ⟨scope, _hmemory, hstep⟩ | ⟨scope, hstep⟩
  · rw [hstep]
    exact hlinear
  · rw [hstep]
    refine ⟨hlinear.world_eq, hlinear.inquiries_eq, ?_, ?_⟩
    · intro other found htask
      rcases List.mem_or_eq_of_mem_set htask with hbefore | hnew
      · exact hlinear.recalled other found hbefore
      · cases hnew
        exact hmemory
    · intro other failure htask
      rcases List.mem_or_eq_of_mem_set htask with hbefore | hnew
      · exact hlinear.failed other failure hbefore
      · cases hnew
  · rw [hstep]
    refine ⟨hlinear.world_eq, hlinear.inquiries_eq, ?_, ?_⟩
    · intro other found htask
      rcases List.mem_or_eq_of_mem_set htask with hbefore | hnew
      · exact hlinear.recalled other found hbefore
      · cases hnew
    · intro other failure htask
      rcases List.mem_or_eq_of_mem_set htask with hbefore | hnew
      · exact hlinear.failed other failure hbefore
      · cases hnew
  · rw [hstep]
    refine ⟨?_, ?_, ?_, ?_⟩
    · dsimp only
      rw [List.map_append, List.map_append, World.run_append, ← hlinear.world_eq]
      rfl
    · dsimp only
      rw [List.map_append, List.map_append, World.inquiries_append, ← hlinear.world_eq,
        ← hlinear.inquiries_eq]
      rfl
    · intro other found htask
      rcases List.mem_or_eq_of_mem_set htask with hbefore | hnew
      · exact World.remembered?_after (.look .find scope) (hlinear.recalled other found hbefore)
      · injection hnew with hscope hfound
        subst hscope
        exact World.remembered?_of_ok .find hfound.symm
    · intro other failure htask
      rcases List.mem_or_eq_of_mem_set htask with hbefore | hnew
      · rcases hlinear.failed other failure hbefore with ⟨inquiry, hinquiry, hfailure⟩
        exact ⟨inquiry, List.mem_append_left _ hinquiry, hfailure⟩
      · injection hnew with _hscope hfound
        exact ⟨_, List.mem_append_right _ List.mem_cons_self, hfound.symm⟩

theorem linear_run (compile : Compiler ε γ) (world : World ε γ) (scopes : List String)
    (schedule : List Nat) : ((start world scopes).run compile schedule).Linear compile world := by
  suffices hall : forall pool : Pool ε γ, pool.Linear compile world ->
      (pool.run compile schedule).Linear compile world from
    hall _ (linear_start compile world scopes)
  induction schedule with
  | nil => exact fun pool hlinear => hlinear
  | cons number more ih => exact fun pool hlinear => ih _ (hlinear.step number)

theorem remembered?_step {scope : String} {grammar : Option γ} (number : Nat)
    (h : pool.world.registry.remembered? scope = some grammar) :
    (pool.step compile number).world.registry.remembered? scope = some grammar := by
  rcases step_cases compile pool number with
    hstep | ⟨other, found, _hmemory, hstep⟩ | ⟨other, _hmemory, hstep⟩ | ⟨other, hstep⟩
  · rw [hstep]
    exact h
  · rw [hstep]
    exact h
  · rw [hstep]
    exact h
  · rw [hstep]
    exact World.remembered?_after (.look .find other) h

theorem remembered?_run {scope : String} {grammar : Option γ} (schedule : List Nat)
    (h : pool.world.registry.remembered? scope = some grammar) :
    (pool.run compile schedule).world.registry.remembered? scope = some grammar := by
  induction schedule generalizing pool with
  | nil => exact h
  | cons number more ih => exact ih (remembered?_step number h)

/-!
# What tasks agree on
-/

def Quiet (pool : Pool ε γ) : Prop :=
  forall inquiry, inquiry ∈ pool.inquiries -> inquiry.found.outcome.isOk = true

theorem quiet_of_serves (hserves : forall scope, world.Serves compile scope)
    (scopes : List String) (schedule : List Nat) :
    ((start world scopes).run compile schedule).Quiet := by
  have hlinear := linear_run compile world scopes schedule
  rw [Quiet, hlinear.inquiries_eq]
  intro inquiry hinquiry
  exact World.isOk_of_serves hserves _ hinquiry

namespace Linear

variable {scope : String} {outcome : Except Failure (Option γ)}

theorem finished_ok (hlinear : pool.Linear compile world) (hquiet : pool.Quiet)
    (htask : .finished scope outcome ∈ pool.tasks) :
    exists grammar, outcome = .ok grammar ∧
      pool.world.registry.remembered? scope = some grammar := by
  cases outcome with
  | ok grammar => exact ⟨grammar, rfl, hlinear.recalled scope grammar htask⟩
  | error failure =>
      rcases hlinear.failed scope failure htask with ⟨inquiry, hinquiry, hfailure⟩
      have hok := hquiet inquiry hinquiry
      rw [hfailure] at hok
      cases hok

theorem length_definitions_le_one (hlinear : pool.Linear compile world) (hquiet : pool.Quiet)
    (scope : String) :
    ((pool.inquiries.filter (·.scope = scope)).flatMap Inquiry.definitions).length <= 1 := by
  apply length_flatMap_le_one
  · intro inquiry hinquiry
    have hmember : inquiry ∈ world.inquiries compile
        ((pool.inquiries.map Inquiry.scope).map (.look .find)) := by
      rw [← hlinear.inquiries_eq]
      exact List.mem_of_mem_filter hinquiry
    rcases World.found_of_mem_inquiries hmember with ⟨method, hfound⟩
    rw [Inquiry.definitions, hfound]
    rcases World.effects_look compile inquiry.world method inquiry.scope with
      heffects | ⟨heffects, _hnone⟩ | ⟨path, heffects⟩ | ⟨path, definition, heffects⟩
    · rw [heffects]
      exact Nat.zero_le 1
    · rw [heffects]
      exact Nat.zero_le 1
    · rw [heffects]
      exact Nat.zero_le 1
    · rw [heffects]
      exact Nat.le_refl 1
  · have hpair := pairwise_settles compile world
      ((pool.inquiries.map Inquiry.scope).map (.look .find))
    rw [← hlinear.inquiries_eq] at hpair
    refine (hpair.filter _).imp_of_mem ?_
    intro earlier later hearlier hlater hsettles _hcompiled
    rw [List.mem_filter, decide_eq_true_eq] at hearlier hlater
    cases houtcome : earlier.found.outcome with
    | error failure =>
        have hok := hquiet earlier hearlier.left
        rw [houtcome] at hok
        cases hok
    | ok grammar =>
        rw [Inquiry.definitions,
          hsettles (hlater.right.trans hearlier.right.symm) grammar houtcome]
        rfl

/-- A task that has finished has the result of a call on its own, made where the engine has compiled
what the first lookups of other scopes have made it compile. -/
theorem isolated (hlinear : pool.Linear compile world) (hquiet : pool.Quiet)
    (htask : .finished scope outcome ∈ pool.tasks) :
    exists earlier, earlier <+: pool.inquiries ∧
      (forall inquiry, inquiry ∈ earlier -> inquiry.scope ≠ scope) ∧
      outcome = ((world.behind compile (earlier.flatMap Inquiry.definitions)).look compile .load
        scope).outcome := by
  rcases hlinear.finished_ok hquiet htask with ⟨grammar, rfl, hknown⟩
  cases hmemory : world.registry.remembered? scope with
  | some settled =>
      have hstill : pool.world.registry.remembered? scope = some settled := by
        rw [hlinear.world_eq]
        exact World.remembered?_run _ hmemory
      have hgrammar : some settled = some grammar := hstill.symm.trans hknown
      cases hgrammar
      refine ⟨[], List.nil_prefix, ?_, ?_⟩
      · intro inquiry hinquiry
        cases hinquiry
      · show _ = (world.look compile .load scope).outcome
        rw [World.look_of_remembered .load hmemory]
        rfl
  | none =>
      rw [Quiet, hlinear.inquiries_eq] at hquiet
      rw [hlinear.world_eq] at hknown
      rcases World.settled_by_first hquiet hmemory hknown with
        ⟨earlier, hprefix, hothers, houtcome⟩
      refine ⟨earlier, ?_, hothers, houtcome.symm⟩
      rw [hlinear.inquiries_eq]
      exact hprefix

end Linear

end Pool

/-- In whatever order tasks take their steps, as long as no lookup fails each scope is compiled at
most once, all tasks of a scope that finish have the same grammar or all have none, what is
remembered of a scope stays, and each task has the result of a call on its own. -/
theorem interleaved_loads_agree {ε γ : Type} (compile : Compiler ε γ) (world : World ε γ)
    (scopes : List String) (schedule : List Nat)
    (hquiet : ((Pool.start world scopes).run compile schedule).Quiet) :
    let pool := (Pool.start world scopes).run compile schedule
    (forall scope,
        ((pool.inquiries.filter (·.scope = scope)).flatMap Inquiry.definitions).length <= 1) ∧
      (forall scope, exists grammar, forall outcome,
        .finished scope outcome ∈ pool.tasks -> outcome = .ok grammar) ∧
      (forall front back, schedule = front ++ back -> forall scope grammar,
        ((Pool.start world scopes).run compile front).world.registry.remembered? scope =
            some grammar ->
          pool.world.registry.remembered? scope = some grammar) ∧
      forall scope outcome, .finished scope outcome ∈ pool.tasks ->
        (exists earlier, earlier <+: pool.inquiries ∧
          (forall inquiry, inquiry ∈ earlier -> inquiry.scope ≠ scope) ∧
          outcome = ((world.behind compile (earlier.flatMap Inquiry.definitions)).look compile
            .load scope).outcome) ∧
        forall (β : Type) (view : γ -> β), compile.Forgetful view world.engine ->
          outcome.map (Option.map view) =
            (world.look compile .load scope).outcome.map (Option.map view) := by
  intro pool
  have hlinear : pool.Linear compile world := Pool.linear_run compile world scopes schedule
  refine ⟨hlinear.length_definitions_le_one hquiet, ?_, ?_, ?_⟩
  · intro scope
    refine ⟨(pool.world.registry.remembered? scope).getD none, ?_⟩
    intro outcome htask
    rcases hlinear.finished_ok hquiet htask with ⟨grammar, rfl, hknown⟩
    rw [hknown]
    rfl
  · rintro front back hschedule scope grammar hmemory
    show ((Pool.start world scopes).run compile schedule).world.registry.remembered? scope = _
    rw [hschedule, Pool.run_append]
    exact Pool.remembered?_run back hmemory
  · intro scope outcome htask
    have hisolated := hlinear.isolated hquiet htask
    refine ⟨hisolated, ?_⟩
    intro β view hforgetful
    rcases hisolated with ⟨earlier, _hprefix, _hothers, houtcome⟩
    rw [houtcome]
    exact World.outcome_look_behind hforgetful _ .load scope

def manaWorld : World Engine Nat where
  registry :=
    { paths := [("source.mana", { anchor := .relative, parts := ["mana.json"] })] }
  files := definitionFiles "source.mana"
  room := .ample
  engine := { policy := .mana }

theorem manaWorld_serves (scope : String) : manaWorld.Serves Engine.compile scope := by
  intro path hpath
  have hread : (GrammarFile.read manaWorld.room manaWorld.files
      { anchor := .relative, parts := ["mana.json"] }).map
        (fun definition => (EnginePolicy.mana [] definition).isOk) = .ok true := by
    decide +kernel
  have hsame : { anchor := .relative, parts := ["mana.json"] } = path := by
    rw [manaWorld, List.lookup_cons] at hpath
    split at hpath
    · exact Option.some.inj hpath
    · cases hpath
  rw [hsame] at hread
  cases hdefinition : GrammarFile.read manaWorld.room manaWorld.files path with
  | error failure =>
      rw [hdefinition] at hread
      cases hread
  | ok definition =>
      rw [hdefinition] at hread
      refine ⟨definition, rfl, ?_⟩
      intro definitions
      rw [Engine.isOk_compile, Engine.policy_after]
      exact Except.ok.inj hread

theorem late_tasks_share_grammar :
    let pool := (Pool.start manaWorld ["source.mana", "source.mana", "source.other"]).run
      Engine.compile [0, 1, 2, 1, 0, 2]
    pool.Quiet ∧
      pool.tasks = [.finished "source.mana" (.ok (some 0)),
        .finished "source.mana" (.ok (some 0)), .finished "source.other" (.ok none)] ∧
      ((pool.inquiries.filter (·.scope = "source.mana")).flatMap
        Inquiry.definitions).length <= 1 ∧
      Except.ok (some Mana.grammar) =
        (manaWorld.look Engine.compile .load "source.mana").outcome.map
          (Option.map fun _ => Mana.grammar) := by
  have hquiet := Pool.quiet_of_serves manaWorld_serves
    ["source.mana", "source.mana", "source.other"] [0, 1, 2, 1, 0, 2]
  have htasks : ((Pool.start manaWorld ["source.mana", "source.mana", "source.other"]).run
      Engine.compile [0, 1, 2, 1, 0, 2]).tasks =
        [.finished "source.mana" (.ok (some 0)), .finished "source.mana" (.ok (some 0)),
          .finished "source.other" (.ok none)] := by
    decide +kernel
  rcases interleaved_loads_agree Engine.compile manaWorld _ _ hquiet with
    ⟨honce, _hagree, _hstay, hisolated⟩
  refine ⟨hquiet, htasks, honce "source.mana", ?_⟩
  have hfinished : .finished "source.mana" (.ok (some 0)) ∈
      ((Pool.start manaWorld ["source.mana", "source.mana", "source.other"]).run
        Engine.compile [0, 1, 2, 1, 0, 2]).tasks := by
    rw [htasks]
    exact List.mem_cons_self
  exact (hisolated "source.mana" _ hfinished).right _ _ (Engine.forgetful_compile rfl)

end ScopeProbe
