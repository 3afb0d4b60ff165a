import ScopeProbe.Session

/-!
# Runs of lookups

Between two lookups everything around a registry may change: its table of paths, the files, the
room to read them, and the engine.  A run is a list of lookups and such changes, and each lookup is
made in the world that the run has led to by then.
-/

namespace ScopeProbe

/-!
# Worlds and operations
-/

/-- All that a lookup depends on. -/
structure World (ε γ : Type) where
  registry : Registry γ
  files : FileSystem
  room : Room
  engine : ε

inductive Operation (ε : Type) where
  | look (method : Session.Method) (scope : String)
  | setPaths (paths : List (String × Path))
  | setFiles (files : FileSystem)
  | setRoom (room : Room)
  | setEngine (engine : ε)

structure Inquiry (ε γ : Type) where
  scope : String
  world : World ε γ
  found : Lookup ε γ

namespace World

variable {ε γ : Type} (compile : Compiler ε γ)

def look (world : World ε γ) (method : Session.Method) (scope : String) : Lookup ε γ :=
  match method with
  | .find => Registry.find compile world.room world.files scope world.registry world.engine
  | .load => Registry.load compile world.room world.files scope world.registry world.engine

def after (world : World ε γ) : Operation ε -> World ε γ
  | .look method scope =>
      let found := world.look compile method scope
      { world with registry := found.registry, engine := found.engine }
  | .setPaths paths => { world with registry := { world.registry with paths } }
  | .setFiles files => { world with files }
  | .setRoom room => { world with room }
  | .setEngine engine => { world with engine }

def run (world : World ε γ) (operations : List (Operation ε)) : World ε γ :=
  operations.foldl (after compile) world

def inquiry? (world : World ε γ) : Operation ε -> Option (Inquiry ε γ)
  | .look method scope => some { scope, world, found := world.look compile method scope }
  | _ => none

def inquiries (world : World ε γ) : List (Operation ε) -> List (Inquiry ε γ)
  | [] => []
  | operation :: more =>
      (world.inquiry? compile operation).toList ++
        inquiries (world.after compile operation) more

def recalled (world : World ε γ) (grammar : Option γ) : Lookup ε γ :=
  { outcome := .ok grammar, registry := world.registry, engine := world.engine, effects := [] }

/-!
# What a lookup does

A lookup recalls what is remembered.  Otherwise it fetches the grammar from the
files, and remembers it unless it fails.
-/

/-- The lookup of a scope that is not remembered, before its result is kept. -/
def fetch (world : World ε γ) (scope : String) : Lookup ε γ :=
  Registry.fetch compile world.room world.files scope world.registry world.engine

variable (world : World ε γ) (method : Session.Method) (scope : String)

theorem look_eq_find :
    world.look compile method scope =
      Registry.find compile world.room world.files scope world.registry world.engine := by
  cases method with
  | find => rfl
  | load =>
      exact Registry.load_eq_find compile world.room world.files scope world.registry world.engine

variable {compile world scope}

theorem look_of_remembered {grammar : Option γ}
    (h : world.registry.remembered? scope = some grammar) :
    world.look compile method scope = world.recalled grammar := by
  rw [look_eq_find, Registry.find, h]
  rfl

theorem fetch_cases (compile : Compiler ε γ) (world : World ε γ) (scope : String) :
    (world.registry.paths.lookup scope = none ∧
        world.fetch compile scope =
          { outcome := .ok none, registry := world.registry, engine := world.engine
            effects := [.unknownScope scope] }) ∨
      (exists path failure, world.registry.paths.lookup scope = some path ∧
        GrammarFile.read world.room world.files path = .error failure ∧
        world.fetch compile scope =
          { outcome := .error failure, registry := world.registry, engine := world.engine
            effects := [.read path] }) ∨
      (exists path definition, world.registry.paths.lookup scope = some path ∧
        GrammarFile.read world.room world.files path = .ok definition ∧
        world.fetch compile scope =
          { outcome := (compile definition world.engine).1
            registry := world.registry
            engine := (compile definition world.engine).2
            effects := [.read path, .compiling scope path, .compile definition] }) := by
  rw [fetch, Registry.fetch]
  cases hpath : world.registry.paths.lookup scope with
  | none => exact Or.inl ⟨rfl, rfl⟩
  | some path =>
      cases hread : GrammarFile.read world.room world.files path with
      | error failure =>
          refine Or.inr (Or.inl ⟨path, failure, rfl, hread, ?_⟩)
          simp only [hread]
      | ok definition =>
          refine Or.inr (Or.inr ⟨path, definition, rfl, hread, ?_⟩)
          simp only [hread]

theorem fetch_registry (compile : Compiler ε γ) (world : World ε γ) (scope : String) :
    (world.fetch compile scope).registry = world.registry := by
  rcases fetch_cases compile world scope with
    ⟨_hpath, hfetch⟩ | ⟨_path, _failure, _hpath, _hread, hfetch⟩ |
      ⟨_path, _definition, _hpath, _hread, hfetch⟩ <;>
    rw [hfetch]

theorem keep_fetch (compile : Compiler ε γ) (world : World ε γ) (scope : String) :
    Registry.keep scope (world.fetch compile scope) =
      { world.fetch compile scope with
        registry :=
          match (world.fetch compile scope).outcome with
          | .ok grammar => world.registry.remember scope grammar
          | .error _ => world.registry } := by
  have hregistry := fetch_registry compile world scope
  generalize world.fetch compile scope = found at hregistry
  rcases found with ⟨outcome, registry, engine, effects⟩
  cases hregistry
  cases outcome <;> rfl

theorem look_of_unknown (h : world.registry.remembered? scope = none) :
    world.look compile method scope =
      { world.fetch compile scope with
        registry :=
          match (world.fetch compile scope).outcome with
          | .ok grammar => world.registry.remember scope grammar
          | .error _ => world.registry } := by
  rw [look_eq_find, Registry.find, h]
  exact keep_fetch compile world scope

theorem look_cases (compile : Compiler ε γ) (world : World ε γ) (method : Session.Method)
    (scope : String) :
    (exists grammar, world.registry.remembered? scope = some grammar ∧
        world.look compile method scope = world.recalled grammar) ∨
      (world.registry.remembered? scope = none ∧
        world.look compile method scope =
          { world.fetch compile scope with
            registry :=
              match (world.fetch compile scope).outcome with
              | .ok grammar => world.registry.remember scope grammar
              | .error _ => world.registry }) := by
  cases hmemory : world.registry.remembered? scope with
  | some grammar => exact Or.inl ⟨grammar, rfl, look_of_remembered method hmemory⟩
  | none => exact Or.inr ⟨rfl, look_of_unknown method hmemory⟩

theorem remembered?_of_ok {grammar : Option γ}
    (h : (world.look compile method scope).outcome = .ok grammar) :
    (world.look compile method scope).registry.remembered? scope = some grammar := by
  rcases look_cases compile world method scope with
    ⟨known, hmemory, hlook⟩ | ⟨_hunknown, hlook⟩
  · rw [hlook] at h ⊢
    cases h
    exact hmemory
  · rw [hlook] at h ⊢
    dsimp only at h ⊢
    rw [h]
    exact Registry.remembered?_remember scope grammar world.registry

theorem registry_of_error {failure : Failure}
    (h : (world.look compile method scope).outcome = .error failure) :
    (world.look compile method scope).registry = world.registry ∧
      world.registry.remembered? scope = none := by
  rcases look_cases compile world method scope with
    ⟨known, _hmemory, hlook⟩ | ⟨hunknown, hlook⟩
  · rw [hlook] at h
    cases h
  · rw [hlook] at h ⊢
    dsimp only at h ⊢
    rw [h]
    exact ⟨rfl, hunknown⟩

theorem remembered?_of_ne {other : String} (hother : other ≠ scope) :
    (world.look compile method scope).registry.remembered? other =
      world.registry.remembered? other := by
  rcases look_cases compile world method scope with
    ⟨known, _hmemory, hlook⟩ | ⟨_hunknown, hlook⟩
  · rw [hlook]
    rfl
  · rw [hlook]
    dsimp only
    cases (world.fetch compile scope).outcome with
    | error failure => rfl
    | ok grammar => exact Registry.remembered?_remember_of_ne hother grammar world.registry

/-!
# What a run remembers
-/

theorem remembered?_after (operation : Operation ε) {grammar : Option γ}
    (h : world.registry.remembered? scope = some grammar) :
    (world.after compile operation).registry.remembered? scope = some grammar := by
  cases operation with
  | setPaths paths => exact h
  | setFiles files => exact h
  | setRoom room => exact h
  | setEngine engine => exact h
  | look method other =>
      show (world.look compile method other).registry.remembered? scope = some grammar
      by_cases hsame : scope = other
      · subst hsame
        apply remembered?_of_ok
        rw [look_of_remembered method h]
        rfl
      · rw [remembered?_of_ne method hsame]
        exact h

theorem remembered?_run (operations : List (Operation ε)) {grammar : Option γ}
    (h : world.registry.remembered? scope = some grammar) :
    (world.run compile operations).registry.remembered? scope = some grammar := by
  induction operations generalizing world with
  | nil => exact h
  | cons operation more ih => exact ih (remembered?_after operation h)

theorem remembered?_run_eq_none {operations : List (Operation ε)}
    (h : world.registry.remembered? scope = none)
    (hnever : forall method, .look method scope ∉ operations) :
    (world.run compile operations).registry.remembered? scope = none := by
  induction operations generalizing world with
  | nil => exact h
  | cons operation more ih =>
      apply ih
      · cases operation with
        | setPaths paths => exact h
        | setFiles files => exact h
        | setRoom room => exact h
        | setEngine engine => exact h
        | look method other =>
            have hother : scope ≠ other := by
              rintro rfl
              exact hnever method List.mem_cons_self
            exact (remembered?_of_ne method hother).trans h
      · intro method hmore
        exact hnever method (List.mem_cons_of_mem _ hmore)

/-!
# Runs in pieces
-/

theorem run_append (world : World ε γ) (front back : List (Operation ε)) :
    world.run compile (front ++ back) = (world.run compile front).run compile back :=
  List.foldl_append

theorem inquiries_append (world : World ε γ) (front back : List (Operation ε)) :
    world.inquiries compile (front ++ back) =
      world.inquiries compile front ++ (world.run compile front).inquiries compile back := by
  induction front generalizing world with
  | nil => rfl
  | cons operation more ih =>
      rw [List.cons_append, inquiries, inquiries, ih, List.append_assoc]
      rfl

theorem of_mem_inquiry? {operation : Operation ε} {inquiry : Inquiry ε γ}
    (h : inquiry ∈ (world.inquiry? compile operation).toList) :
    inquiry.world = world ∧
      exists method, inquiry.found = world.look compile method inquiry.scope := by
  cases operation with
  | setPaths paths => cases h
  | setFiles files => cases h
  | setRoom room => cases h
  | setEngine engine => cases h
  | look method scope =>
      cases List.mem_singleton.mp h
      exact ⟨rfl, method, rfl⟩

theorem found_of_mem_inquiries {operations : List (Operation ε)} {inquiry : Inquiry ε γ}
    (h : inquiry ∈ world.inquiries compile operations) :
    exists method, inquiry.found = inquiry.world.look compile method inquiry.scope := by
  induction operations generalizing world with
  | nil => cases h
  | cons operation more ih =>
      rw [inquiries, List.mem_append] at h
      rcases h with hhead | hmore
      · rcases of_mem_inquiry? hhead with ⟨hworld, method, hfound⟩
        rw [hworld]
        exact ⟨method, hfound⟩
      · exact ih hmore

end World
end ScopeProbe
