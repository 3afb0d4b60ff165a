import Mathlib.Data.List.Basic
import ScopeProbe.Proofs.Registry.Runs

/-!
# Lookups are stable

The first lookup of a scope that does not fail settles the scope for the rest of
the run: every later one gives the same grammar, or the same answer that there
is none, out of memory alone.  So a scope is compiled with success at most once
and warned about at most once, and the two ways of looking up are the same.
-/

namespace ScopeProbe

/-!
# Settled scopes
-/

/-- If a lookup does not fail, a later one of the same scope recalls its result and does nothing
else. -/
def Inquiry.Settles {ε γ : Type} (earlier later : Inquiry ε γ) : Prop :=
  later.scope = earlier.scope -> forall grammar, earlier.found.outcome = .ok grammar ->
    later.found = later.world.recalled grammar

section Runs

variable {ε γ : Type} {compile : Compiler ε γ} {world : World ε γ}

theorem recalled_of_remembered {operations : List (Operation ε)} {scope : String}
    {grammar : Option γ} (h : world.registry.remembered? scope = some grammar)
    {inquiry : Inquiry ε γ} (hinquiry : inquiry ∈ world.inquiries compile operations)
    (hscope : inquiry.scope = scope) :
    inquiry.found = inquiry.world.recalled grammar := by
  induction operations generalizing world with
  | nil => cases hinquiry
  | cons operation more ih =>
      rw [World.inquiries, List.mem_append] at hinquiry
      rcases hinquiry with hhead | hmore
      · rcases World.of_mem_inquiry? hhead with ⟨hworld, method, hfound⟩
        rw [hfound, hworld, hscope]
        exact World.look_of_remembered method h
      · exact ih (World.remembered?_after operation h) hmore

theorem pairwise_settles (compile : Compiler ε γ) (world : World ε γ)
    (operations : List (Operation ε)) :
    (world.inquiries compile operations).Pairwise Inquiry.Settles := by
  induction operations generalizing world with
  | nil => exact List.Pairwise.nil
  | cons operation more ih =>
      cases operation with
      | setPaths paths => exact ih _
      | setFiles files => exact ih _
      | setRoom room => exact ih _
      | setEngine engine => exact ih _
      | look method scope =>
          refine List.pairwise_cons.mpr ⟨?_, ih _⟩
          intro later hlater hscope grammar hgrammar
          exact recalled_of_remembered (World.remembered?_of_ok method hgrammar) hlater hscope

end Runs

/-!
# Lists in which at most one member gives anything
-/

theorem length_flatMap_le_one {α β : Type} {list : List α} {give : α -> List β}
    (hone : forall member, member ∈ list -> (give member).length <= 1)
    (hpair : list.Pairwise fun earlier later => give earlier ≠ [] -> give later = []) :
    (list.flatMap give).length <= 1 := by
  induction list with
  | nil => exact Nat.zero_le 1
  | cons first more ih =>
      rcases List.pairwise_cons.mp hpair with ⟨hfirst, hmore⟩
      rw [List.flatMap_cons]
      by_cases hnone : give first = []
      · rw [hnone, List.nil_append]
        exact ih (fun member hmember => hone member (List.mem_cons_of_mem _ hmember)) hmore
      · have hempty : more.flatMap give = [] :=
          List.flatMap_eq_nil_iff.mpr fun later hlater => hfirst later hlater hnone
        rw [hempty, List.append_nil]
        exact hone first List.mem_cons_self

/-!
# Compilations and warnings
-/

namespace Effect

def warning (scope : String) : LogEntry :=
  { level := .warning, message := "Unknown scope name: ".toList ++ scope.toList }

def isCompilation : Effect -> Bool
  | compile _ => true
  | _ => false

def isWarning (scope : String) : Effect -> Bool
  | log entry => entry = warning scope
  | _ => false

theorem isWarning_unknownScope {scope other : String}
    (h : isWarning scope (unknownScope other) = true) : other = scope := by
  have hentry : warning other = warning scope := of_decide_eq_true h
  have hmessage := congrArg LogEntry.message hentry
  exact String.toList_inj.mp (List.append_cancel_left hmessage)

theorem isWarning_compiling (scope other : String) (path : Path) :
    isWarning scope (compiling other path) = false := by
  rw [compiling, isWarning, decide_eq_false_iff_not]
  intro hentry
  cases congrArg LogEntry.level hentry

end Effect

namespace World

variable {ε γ : Type}

theorem effects_look (compile : Compiler ε γ) (world : World ε γ) (method : Session.Method)
    (scope : String) :
    (world.look compile method scope).effects = [] ∨
      ((world.look compile method scope).effects = [.unknownScope scope] ∧
        (world.look compile method scope).outcome = .ok none) ∨
      (exists path, (world.look compile method scope).effects = [.read path]) ∨
      (exists path definition, (world.look compile method scope).effects =
        [.read path, .compiling scope path, .compile definition]) := by
  rcases look_cases compile world method scope with
    ⟨grammar, _hmemory, hlook⟩ | ⟨_hunknown, hlook⟩
  · exact Or.inl (congrArg Lookup.effects hlook)
  · rw [hlook]
    rcases fetch_cases compile world scope with
      ⟨_hpath, hfetch⟩ | ⟨path, failure, _hpath, _hread, hfetch⟩ |
        ⟨path, definition, _hpath, _hread, hfetch⟩
    · exact Or.inr (Or.inl ⟨congrArg Lookup.effects hfetch, congrArg Lookup.outcome hfetch⟩)
    · exact Or.inr (Or.inr (Or.inl ⟨path, congrArg Lookup.effects hfetch⟩))
    · exact Or.inr (Or.inr (Or.inr ⟨path, definition, congrArg Lookup.effects hfetch⟩))

end World

namespace Inquiry

variable {ε γ : Type}

def compilations (scope : String) (inquiry : Inquiry ε γ) : List Effect :=
  if inquiry.scope = scope ∧ inquiry.found.outcome.isOk = true then
    inquiry.found.effects.filter Effect.isCompilation
  else []

/-- The warnings about a scope, whether the level that is set lets them through or not. -/
def warnings (scope : String) (inquiry : Inquiry ε γ) : List Effect :=
  inquiry.found.effects.filter (Effect.isWarning scope)

variable {compile : Compiler ε γ} {world : World ε γ} {operations : List (Operation ε)}
  {inquiry : Inquiry ε γ}

theorem length_compilations_le_one (h : inquiry ∈ world.inquiries compile operations)
    (scope : String) : (inquiry.compilations scope).length <= 1 := by
  rcases World.found_of_mem_inquiries h with ⟨method, hfound⟩
  rw [compilations, hfound]
  split
  · rcases World.effects_look compile inquiry.world method inquiry.scope with
      heffects | ⟨heffects, _hnone⟩ | ⟨path, heffects⟩ | ⟨path, definition, heffects⟩
    · rw [heffects]
      exact Nat.zero_le 1
    · rw [heffects]
      exact Nat.zero_le 1
    · rw [heffects]
      exact Nat.zero_le 1
    · rw [heffects]
      exact Nat.le_refl 1
  · exact Nat.zero_le 1

theorem warnings_cases (h : inquiry ∈ world.inquiries compile operations) (scope : String) :
    inquiry.warnings scope = [] ∨
      ((inquiry.warnings scope).length = 1 ∧ inquiry.scope = scope ∧
        inquiry.found.outcome = .ok none) := by
  rcases World.found_of_mem_inquiries h with ⟨method, hfound⟩
  rw [warnings, hfound]
  rcases World.effects_look compile inquiry.world method inquiry.scope with
    heffects | ⟨heffects, hnone⟩ | ⟨path, heffects⟩ | ⟨path, definition, heffects⟩
  · exact Or.inl (by rw [heffects]; rfl)
  · rw [heffects, List.filter_singleton]
    cases hwarning : Effect.isWarning scope (.unknownScope inquiry.scope) with
    | false => exact Or.inl rfl
    | true => exact Or.inr ⟨rfl, Effect.isWarning_unknownScope hwarning, hnone⟩
  · exact Or.inl (by rw [heffects]; rfl)
  · left
    rw [heffects, List.filter_cons_of_neg (by simp [Effect.isWarning]),
      List.filter_cons_of_neg (by simp [Effect.isWarning_compiling]),
      List.filter_cons_of_neg (by simp [Effect.isWarning]), List.filter_nil]

end Inquiry

section Counts

variable {ε γ : Type} (compile : Compiler ε γ) (world : World ε γ)
  (operations : List (Operation ε)) (scope : String)

theorem length_compilations_run_le_one :
    ((world.inquiries compile operations).flatMap (Inquiry.compilations scope)).length <= 1 := by
  apply length_flatMap_le_one
  · intro inquiry hinquiry
    exact inquiry.length_compilations_le_one hinquiry scope
  · refine (pairwise_settles compile world operations).imp ?_
    intro earlier later hsettles hcompiled
    rw [Inquiry.compilations] at hcompiled
    split at hcompiled
    · rename_i hearlier
      rcases hearlier with ⟨hscope, hok⟩
      rw [Inquiry.compilations]
      split
      · rename_i hlater
        cases houtcome : earlier.found.outcome with
        | error failure =>
            rw [houtcome] at hok
            cases hok
        | ok grammar =>
            rw [hsettles (hlater.left.trans hscope.symm) grammar houtcome]
            rfl
      · rfl
    · exact absurd rfl hcompiled

theorem length_warnings_run_le_one :
    ((world.inquiries compile operations).flatMap (Inquiry.warnings scope)).length <= 1 := by
  apply length_flatMap_le_one
  · intro inquiry hinquiry
    rcases inquiry.warnings_cases hinquiry scope with hnone | ⟨hone, _hscope, _houtcome⟩
    · rw [hnone]
      exact Nat.zero_le 1
    · exact Nat.le_of_eq hone
  · refine (pairwise_settles compile world operations).imp_of_mem ?_
    intro earlier later hearlier hlater hsettles hwarned
    rcases earlier.warnings_cases hearlier scope with hnone | ⟨_hone, hscope, houtcome⟩
    · exact absurd hnone hwarned
    · rcases later.warnings_cases hlater scope with hquiet | ⟨_hone, hother, _hnone⟩
      · exact hquiet
      · rw [Inquiry.warnings, hsettles (hother.trans hscope.symm) none houtcome]
        rfl

end Counts

/-!
# Ways of looking up
-/

inductive Operation.SameUpToMethod {ε : Type} : Operation ε -> Operation ε -> Prop where
  | look (method other : Session.Method) (scope : String) :
      SameUpToMethod (.look method scope) (.look other scope)
  | same (operation : Operation ε) : SameUpToMethod operation operation

theorem Operation.SameUpToMethod.after_eq {ε γ : Type} {operation other : Operation ε}
    (h : operation.SameUpToMethod other) (compile : Compiler ε γ) (world : World ε γ) :
    world.after compile other = world.after compile operation ∧
      world.inquiry? compile other = world.inquiry? compile operation := by
  cases h with
  | same => exact ⟨rfl, rfl⟩
  | look method second scope =>
      have hlook : world.look compile second scope = world.look compile method scope := by
        rw [World.look_eq_find, World.look_eq_find]
      rw [World.after, World.after, World.inquiry?, World.inquiry?, hlook]
      exact ⟨rfl, rfl⟩

theorem inquiries_congr {ε γ : Type} (compile : Compiler ε γ)
    {operations others : List (Operation ε)}
    (h : List.Forall₂ Operation.SameUpToMethod operations others) (world : World ε γ) :
    world.inquiries compile others = world.inquiries compile operations ∧
      world.run compile others = world.run compile operations := by
  induction h generalizing world with
  | nil => exact ⟨rfl, rfl⟩
  | cons hsame _hmore ih =>
      rename_i operation other more rest
      rcases hsame.after_eq compile world with ⟨hafter, hinquiry⟩
      rcases ih (world.after compile operation) with ⟨hinquiries, hrun⟩
      rw [World.inquiries, World.inquiries, hafter, hinquiry, hinquiries]
      refine ⟨rfl, ?_⟩
      show (world.after compile other).run compile rest = _
      rw [hafter, hrun]
      rfl

/-- In every run the lookup that settles a scope settles it for good, so that each scope is compiled
with success and warned about at most once, and it makes no difference in which way a scope is
looked up. -/
theorem lookups_stable {ε γ : Type} (compile : Compiler ε γ) (world : World ε γ)
    (operations : List (Operation ε)) :
    (world.inquiries compile operations).Pairwise Inquiry.Settles ∧
      (forall scope,
        ((world.inquiries compile operations).flatMap (Inquiry.compilations scope)).length <= 1 ∧
          ((world.inquiries compile operations).flatMap (Inquiry.warnings scope)).length <= 1) ∧
      (forall others, List.Forall₂ Operation.SameUpToMethod operations others ->
        world.inquiries compile others = world.inquiries compile operations ∧
          world.run compile others = world.run compile operations) := by
  refine ⟨pairwise_settles compile world operations, ?_, ?_⟩
  · intro scope
    exact ⟨length_compilations_run_le_one compile world operations scope,
      length_warnings_run_le_one compile world operations scope⟩
  · intro others hsame
    exact inquiries_congr compile hsame world

end ScopeProbe
