import Mathlib.Data.List.Basic
import Mathlib.Data.Prod.Lex
import ScopeProbe.Proofs.Runs

/-!
# Walking over a span

Walking over an excerpt reads every line once and in order, whatever the span,
and keeps the tokens of the run that stand between the two ends of the span in
reading order.  The conditions on the first and on the last line of the span
are one comparison of places each.
-/

namespace ScopeProbe

/-!
# Places in a source

A place is a line with an index in it, and places are compared by their lines
first.
-/

namespace Span

/-- A token with the number of its line stands in a span if it has a scope, does not start in
front of the span and does not end behind it.  An end behind the line counts as the end of the
line. -/
def Holds (span : Span) (lines : List Text) (entry : Nat × RawToken) : Prop :=
  entry.2.scopes ≠ [] ∧
    toLex (span.startLine, span.startIndex) <= toLex ((entry.1 : Int), entry.2.start) ∧
    toLex ((entry.1 : Int), min entry.2.stop (lines[entry.1]?.getD []).length) <=
      toLex (span.endLine, span.endIndex)

instance (span : Span) (lines : List Text) (entry : Nat × RawToken) :
    Decidable (span.Holds lines entry) :=
  inferInstanceAs (Decidable (_ ∧ _ ∧ _))

theorem keeps_iff {span : Span} {index : Nat} {line : Text} {token : RawToken} :
    span.keeps index line token = true <->
      (span.startLine <= index ∧ (index : Int) <= span.endLine) ∧
        ((index : Int) = span.startLine -> span.startIndex <= token.start) ∧
        ((index : Int) = span.endLine -> min token.stop line.length <= span.endIndex) ∧
        token.scopes ≠ [] := by
  have hscopes : (!token.scopes.isEmpty) = true <-> token.scopes ≠ [] := by
    cases token.scopes <;> simp
  simp only [keeps, Bool.and_eq_true, hscopes, Bool.not_eq_true', Bool.and_eq_false_imp,
    beq_iff_eq, decide_eq_true_iff, decide_eq_false_iff_not, Int.not_lt, and_assoc]

theorem keeps_iff_holds {span : Span} {lines : List Text} {index : Nat} {line : Text}
    (token : RawToken) (hline : lines[index]? = some line) :
    span.keeps index line token = true <-> span.Holds lines (index, token) := by
  rw [keeps_iff, Holds, hline, Option.getD_some, Prod.Lex.toLex_le_toLex,
    Prod.Lex.toLex_le_toLex]
  constructor
  · rintro ⟨hline, hstart, hstop, hscopes⟩
    refine ⟨hscopes, ?_, ?_⟩ <;> dsimp only <;> omega
  · rintro ⟨hscopes, hstart, hstop⟩
    dsimp only at hstart hstop
    refine ⟨?_, ?_, ?_, hscopes⟩ <;> omega

end Span

/-!
# The walk and the run

A walk makes the requests of the run, and what it keeps of a line is what the
span keeps of the tokens that the run has there.
-/

namespace Excerpt

variable {σ : Type} (grammar : Grammar σ)

theorem walkFrom_calls (span : Span) (index : Nat) (before : Option σ) (lines : List Text) :
    (walkFrom grammar span index before lines).calls =
      (grammar.visits index before lines).map Visit.call := by
  induction lines generalizing index before with
  | nil => rfl
  | cons line more ih =>
      rw [walkFrom, Grammar.visits_cons, List.map_cons, ih]

theorem walkFrom_kept (span : Span) (index : Nat) (before : Option σ) (lines : List Text) :
    (walkFrom grammar span index before lines).kept =
      (grammar.visits index before lines).flatMap fun visit =>
        (span.filter visit.index visit.call.line visit.tokens).map (visit.index, ·) := by
  induction lines generalizing index before with
  | nil => rfl
  | cons line more ih =>
      rw [walkFrom, Grammar.visits_cons, List.flatMap_cons, ih]

theorem spanTokens_eq_filter_stream (excerpt : Excerpt) :
    excerpt.spanTokens grammar =
      (grammar.stream excerpt.lines).filter fun entry =>
        excerpt.span.Holds excerpt.lines entry := by
  rw [spanTokens, walk, walkFrom_kept, Grammar.stream, List.filter_flatMap]
  apply List.flatMap_congr
  intro visit hvisit
  have hline : excerpt.lines[visit.index]? = some visit.call.line := by
    simpa using grammar.getElem?_index hvisit
  rw [Span.filter, List.filter_map]
  congr 2
  funext token
  exact Bool.eq_iff_iff.mpr
    ((Span.keeps_iff_holds token hline).trans decide_eq_true_iff.symm)

end Excerpt

/-!
# Requests in a chain
-/

namespace Grammar

variable {σ : Type}

/-- Requests that ask for every line once and in order, the first from no state and each later one
from the state in which the one before it has ended. -/
structure Chained (grammar : Grammar σ) (lines : List Text) (calls : List (Call σ)) : Prop where
  asked : calls.map Call.line = lines
  first : forall call, calls[0]? = some call -> call.before = none
  next : forall (k : Nat) (call later : Call σ),
    calls[k]? = some call -> calls[k + 1]? = some later ->
      later.before = some (grammar call.line call.before).state

theorem map_line_calls (grammar : Grammar σ) (index : Nat) (before : Option σ)
    (lines : List Text) :
    ((grammar.visits index before lines).map Visit.call).map Call.line = lines := by
  induction lines generalizing index before with
  | nil => rfl
  | cons line more ih =>
      rw [visits_cons, List.map_cons, List.map_cons, ih]

theorem chained_calls (grammar : Grammar σ) (lines : List Text) :
    Chained grammar lines ((grammar.visits 0 none lines).map Visit.call) where
  asked := map_line_calls grammar 0 none lines
  first := by
    intro call hcall
    rw [getElem?_calls] at hcall
    rcases Option.map_eq_some_iff.mp hcall with ⟨line, _hline, rfl⟩
    rfl
  next := by
    intro k call later hcall hlater
    rw [getElem?_calls] at hcall hlater
    rcases Option.map_eq_some_iff.mp hcall with ⟨line, hline, rfl⟩
    rcases Option.map_eq_some_iff.mp hlater with ⟨lineBehind, _hbehind, rfl⟩
    show grammar.stateAfter none (lines.take (k + 1)) = _
    rw [List.take_add_one, hline, stateAfter, List.foldl_append]
    rfl

end Grammar

/-!
# The walk is exact
-/

namespace Excerpt

/-- Walking over an excerpt asks for its lines in a chain that is the same for any span, and keeps
of the stream of all tokens exactly those that the span holds. -/
theorem walk_exact {σ : Type} (grammar : Grammar σ) (excerpt : Excerpt) :
    Grammar.Chained grammar excerpt.lines (excerpt.calls grammar) ∧
      (forall span : Span,
        ({ excerpt with span } : Excerpt).calls grammar = excerpt.calls grammar) ∧
      excerpt.spanTokens grammar =
        (grammar.stream excerpt.lines).filter fun entry =>
          excerpt.span.Holds excerpt.lines entry := by
  have hcalls (other : Excerpt) :
      other.calls grammar = (grammar.visits 0 none other.lines).map Visit.call :=
    walkFrom_calls grammar other.span 0 none other.lines
  refine ⟨?_, ?_, spanTokens_eq_filter_stream grammar excerpt⟩
  · rw [hcalls]
    exact Grammar.chained_calls grammar excerpt.lines
  · intro span
    rw [hcalls, hcalls]

end Excerpt
end ScopeProbe
