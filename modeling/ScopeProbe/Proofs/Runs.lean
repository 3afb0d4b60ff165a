import ScopeProbe.Classification

/-!
# Runs of a grammar

A run reads the lines of a source one after the other and hands the state at
the end of a line on to the next one.  Nothing here depends on a span: a run is
what walking over an excerpt and classifying its tokens are measured against.
-/

namespace ScopeProbe

/-- One line of a run: its number, the request, and the tokens reported for it. -/
structure Visit (σ : Type) where
  index : Nat
  call : Call σ
  tokens : List RawToken

namespace Visit

variable {σ : Type}

def texts (visit : Visit σ) : List (Text × List String) :=
  visit.tokens.map fun token => (token.textIn visit.call.line, token.scopes)

end Visit

namespace Grammar

variable {σ : Type}

def visits (grammar : Grammar σ) (index : Nat) (before : Option σ) :
    List Text -> List (Visit σ)
  | [] => []
  | line :: more =>
      let result := grammar line before
      { index, call := { line, before }, tokens := result.tokens } ::
        visits grammar (index + 1) (some result.state) more

def stateAfter (grammar : Grammar σ) (before : Option σ) (lines : List Text) : Option σ :=
  lines.foldl (fun before line => some (grammar line before).state) before

/-- All tokens of a run with the numbers of their lines. -/
def stream (grammar : Grammar σ) (lines : List Text) : List (Nat × RawToken) :=
  (grammar.visits 0 none lines).flatMap fun visit => visit.tokens.map (visit.index, ·)

def emitted (grammar : Grammar σ) (before : Option σ) (lines : List Text) :
    List (Text × List String) :=
  (grammar.visits 0 before lines).flatMap Visit.texts

/-!
# Runs in pieces
-/

variable (grammar : Grammar σ)

theorem visits_cons (index : Nat) (before : Option σ) (line : Text) (more : List Text) :
    grammar.visits index before (line :: more) =
      { index, call := { line, before }, tokens := (grammar line before).tokens } ::
        grammar.visits (index + 1) (some (grammar line before).state) more := rfl

@[simp] theorem stateAfter_cons (before : Option σ) (line : Text) (more : List Text) :
    grammar.stateAfter before (line :: more) =
      grammar.stateAfter (some (grammar line before).state) more := rfl

theorem visits_append (index : Nat) (before : Option σ) (front back : List Text) :
    grammar.visits index before (front ++ back) =
      grammar.visits index before front ++
        grammar.visits (index + front.length) (grammar.stateAfter before front) back := by
  induction front generalizing index before with
  | nil => rfl
  | cons line more ih =>
      rw [List.cons_append, visits_cons, visits_cons, ih, stateAfter_cons,
        List.length_cons, List.cons_append]
      congr 3
      omega

theorem length_visits (index : Nat) (before : Option σ) (lines : List Text) :
    (grammar.visits index before lines).length = lines.length := by
  induction lines generalizing index before with
  | nil => rfl
  | cons line more ih => rw [visits_cons, List.length_cons, List.length_cons, ih]

theorem getElem?_calls (index : Nat) (before : Option σ) (lines : List Text) (k : Nat) :
    ((grammar.visits index before lines).map Visit.call)[k]? =
      lines[k]?.map fun line =>
        { line, before := grammar.stateAfter before (lines.take k) } := by
  induction lines generalizing index before k with
  | nil => rfl
  | cons line more ih =>
      cases k with
      | zero => rfl
      | succ k =>
          rw [visits_cons, List.map_cons, List.getElem?_cons_succ, ih,
            List.getElem?_cons_succ, List.take_succ_cons, stateAfter_cons]

theorem index_bounds {index : Nat} {before : Option σ} {lines : List Text}
    {visit : Visit σ} (hvisit : visit ∈ grammar.visits index before lines) :
    index <= visit.index ∧ visit.index < index + lines.length := by
  induction lines generalizing index before with
  | nil => cases hvisit
  | cons line more ih =>
      rw [visits_cons] at hvisit
      rcases List.mem_cons.mp hvisit with rfl | hlater
      · simp
      · have hbounds := ih hlater
        rw [List.length_cons]
        omega

theorem getElem?_visits {index : Nat} {before : Option σ} {lines : List Text}
    {visit : Visit σ} (hvisit : visit ∈ grammar.visits index before lines) :
    (grammar.visits index before lines)[visit.index - index]? = some visit := by
  induction lines generalizing index before with
  | nil => cases hvisit
  | cons line more ih =>
      rw [visits_cons] at hvisit ⊢
      rcases List.mem_cons.mp hvisit with rfl | hlater
      · simp
      · have hnumber : visit.index - index = visit.index - (index + 1) + 1 := by
          have hbounds := grammar.index_bounds hlater
          omega
        rw [hnumber, List.getElem?_cons_succ]
        exact ih hlater

theorem call_of_mem_visits {index : Nat} {before : Option σ} {lines : List Text}
    {visit : Visit σ} (hvisit : visit ∈ grammar.visits index before lines) :
    exists line, lines[visit.index - index]? = some line ∧
      visit.call =
        { line, before := grammar.stateAfter before (lines.take (visit.index - index)) } := by
  have hcall := congrArg (Option.map Visit.call) (grammar.getElem?_visits hvisit)
  rw [← List.getElem?_map, getElem?_calls] at hcall
  rcases Option.map_eq_some_iff.mp hcall with ⟨line, hline, hsame⟩
  exact ⟨line, hline, hsame.symm⟩

theorem getElem?_index {index : Nat} {before : Option σ} {lines : List Text}
    {visit : Visit σ} (hvisit : visit ∈ grammar.visits index before lines) :
    lines[visit.index - index]? = some visit.call.line := by
  rcases grammar.call_of_mem_visits hvisit with ⟨line, hline, hcall⟩
  rw [hline, hcall]

theorem before_visits {index : Nat} {before : Option σ} {lines : List Text}
    {visit : Visit σ} (hvisit : visit ∈ grammar.visits index before lines) :
    visit.call.before = grammar.stateAfter before (lines.take (visit.index - index)) := by
  rcases grammar.call_of_mem_visits hvisit with ⟨line, _hline, hcall⟩
  rw [hcall]

theorem tokens_visits {index : Nat} {before : Option σ} {lines : List Text}
    {visit : Visit σ} (hvisit : visit ∈ grammar.visits index before lines) :
    visit.tokens = (grammar visit.call.line visit.call.before).tokens := by
  induction lines generalizing index before with
  | nil => cases hvisit
  | cons line more ih =>
      rw [visits_cons] at hvisit
      rcases List.mem_cons.mp hvisit with rfl | hlater
      · rfl
      · exact ih hlater

theorem flatMap_texts_visits (index : Nat) (before : Option σ) (lines : List Text) :
    (grammar.visits index before lines).flatMap Visit.texts =
      grammar.emitted before lines := by
  rw [emitted]
  generalize 0 = other
  induction lines generalizing index other before with
  | nil => rfl
  | cons line more ih =>
      rw [visits_cons, visits_cons, List.flatMap_cons, List.flatMap_cons,
        ih (index + 1) _ (other + 1)]
      rfl

theorem emitted_cons (before : Option σ) (line : Text) (more : List Text) :
    grammar.emitted before (line :: more) =
      (grammar line before).tokens.map (fun token => (token.textIn line, token.scopes)) ++
        grammar.emitted (some (grammar line before).state) more := by
  rw [emitted, visits_cons, List.flatMap_cons, flatMap_texts_visits]
  rfl

end Grammar
end ScopeProbe
