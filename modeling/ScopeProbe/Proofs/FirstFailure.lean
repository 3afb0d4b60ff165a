import Mathlib.Data.List.Basic
import ScopeProbe.Proofs.LineEnds

/-!
# The first failure

A reading fails at the first token kept whose innermost scope is outside of the
vocabulary, tells the place of that token, and asks for no line behind it.  If
there is no such token, the reading asks for every line and gives what
classifying the lexemes kept gives.
-/

namespace ScopeProbe

/-!
# Names outside of the vocabulary
-/

namespace Scope

def vocabulary : List String :=
  all.map raw

def isUnknown (name : String) : Bool :=
  name ∉ vocabulary

theorem isUnknown_eq_false {name : String} :
    isUnknown name = false <-> exists scope : Scope, name = scope.raw := by
  rw [isUnknown, decide_eq_false_iff_not, Decidable.not_not, vocabulary, List.mem_map]
  constructor
  · rintro ⟨scope, _hscope, rfl⟩
    exact ⟨scope, rfl⟩
  · rintro ⟨scope, rfl⟩
    exact ⟨scope, mem_all scope, rfl⟩

theorem ofRaw?_of_isUnknown {name : String} (hunknown : isUnknown name = true) :
    ofRaw? name = none := by
  apply List.find?_eq_none.mpr
  intro scope _hscope hname
  have hknown := isUnknown_eq_false.mpr ⟨scope, (beq_iff_eq.mp hname).symm⟩
  rw [hunknown] at hknown
  cases hknown

end Scope

open Scope (isUnknown)

/-!
# Failures of lists

Classifying in order fails with the first lexeme whose scope is unknown, whatever
comes behind it.
-/

section

variable (excludeCarriers : Bool)

theorem classifyLexeme_of_known {name : String} (text : Text) (hknown : isUnknown name = false) :
    exists found, classifyLexeme excludeCarriers text name = .ok found := by
  rcases Scope.isUnknown_eq_false.mp hknown with ⟨scope, rfl⟩
  rw [classifyLexeme_raw]
  exact ⟨_, rfl⟩

theorem classifyLexeme_of_unknown {name : String} (text : Text)
    (hunknown : isUnknown name = true) :
    classifyLexeme excludeCarriers text name = .error { scope := name } := by
  rw [classifyLexeme, Scope.ofRaw?_of_isUnknown hunknown]

theorem classifyLexemes_eq_error {lexemes : List (Text × String)} {lexeme : Text × String}
    (hfirst : lexemes.find? (fun other => isUnknown other.2) = some lexeme) :
    classifyLexemes excludeCarriers lexemes = .error { scope := lexeme.2 } := by
  induction lexemes with
  | nil => cases hfirst
  | cons head more ih =>
      rw [classifyLexemes]
      cases hhead : isUnknown head.2 with
      | true =>
          rw [List.find?_cons_of_pos (by exact hhead), Option.some.injEq] at hfirst
          rw [classifyLexeme_of_unknown excludeCarriers head.1 hhead, hfirst]
          rfl
      | false =>
          rw [List.find?_cons_of_neg (by simp [hhead])] at hfirst
          rcases classifyLexeme_of_known excludeCarriers head.1 hhead with ⟨found, hfound⟩
          rw [hfound, ih hfirst]
          rfl

def RawToken.failureIn (index : Nat) (line : Text) (token : RawToken) : UnrecognizedScope where
  scope := token.innermost
  text := token.textIn line
  line := some index
  column := some token.start
  sourceLine := line

theorem classifyLine_eq_error (index : Nat) (line : Text) {tokens : List RawToken}
    {token : RawToken}
    (hfirst : tokens.find? (fun other => isUnknown other.innermost) = some token) :
    classifyLine excludeCarriers index line tokens = .error (token.failureIn index line) := by
  induction tokens with
  | nil => cases hfirst
  | cons head more ih =>
      rw [classifyLine]
      cases hhead : isUnknown head.innermost with
      | true =>
          rw [List.find?_cons_of_pos (by exact hhead), Option.some.injEq] at hfirst
          rw [RawToken.classify, classifyLexeme_of_unknown excludeCarriers _ hhead, ← hfirst]
          rfl
      | false =>
          rw [List.find?_cons_of_neg (by simp [hhead])] at hfirst
          rcases classifyLexeme_of_known excludeCarriers (head.textIn line) hhead with
            ⟨found, hfound⟩
          rw [classify_eq_ok hfound, ih hfirst]
          rfl

theorem classifyLine_of_known (index : Nat) (line : Text) {tokens : List RawToken}
    (hnone : tokens.find? (fun other => isUnknown other.innermost) = none) :
    exists found, classifyLine excludeCarriers index line tokens = .ok found := by
  have hknown : forall lexeme, lexeme ∈ tokens.map (RawToken.lexemeIn line) ->
      exists scope : Scope, lexeme.2 = scope.raw := by
    intro lexeme hlexeme
    rcases List.mem_map.mp hlexeme with ⟨token, htoken, rfl⟩
    apply Scope.isUnknown_eq_false.mp
    rw [← Bool.not_eq_true]
    exact List.find?_eq_none.mp hnone token htoken
  rcases classifyLexemes_of_known excludeCarriers hknown with ⟨found, hfound, _hspelled⟩
  exact ⟨found, classifyLine_of_lexemes index hfound⟩

end

/-!
# Failures of readings

By induction over the lines: as long as no token is unknown the reading goes on
to the next line, and the first unknown token ends it.
-/

namespace Excerpt

variable {σ : Type} (grammar : Grammar σ) (excludeCarriers : Bool)

def isUnknownEntry (entry : Nat × RawToken) : Bool :=
  isUnknown entry.2.innermost

theorem readFrom_of_unknown (span : Span) (index : Nat) (before : Option σ)
    (lines : List Text) {number : Nat} {token : RawToken}
    (hfirst : (walkFrom grammar span index before lines).kept.find? isUnknownEntry =
      some (number, token)) :
    exists line, index <= number ∧ lines[number - index]? = some line ∧
      readFrom grammar span excludeCarriers index before lines =
        { calls := (grammar.visits index before (lines.take (number - index + 1))).map Visit.call
          outcome := .error (token.failureIn number line) } := by
  induction lines generalizing index before with
  | nil => cases hfirst
  | cons line more ih =>
      rw [walkFrom, List.find?_append, List.find?_map] at hfirst
      rw [readFrom]
      cases hline : (span.filter index line (grammar line before).tokens).find?
          (isUnknownEntry ∘ (index, ·)) with
      | some first =>
          rw [hline] at hfirst
          cases hfirst
          refine ⟨line, Nat.le_refl _, ?_, ?_⟩
          · rw [Nat.sub_self, List.getElem?_cons_zero]
          · dsimp only
            rw [classifyLine_eq_error excludeCarriers number line hline, Nat.sub_self]
            rfl
      | none =>
          rw [hline] at hfirst
          rcases ih _ _ hfirst with ⟨source, hnumber, hsource, hread⟩
          rcases classifyLine_of_known excludeCarriers index line hline with ⟨found, hfound⟩
          have hbehind : number - index = number - (index + 1) + 1 := by omega
          refine ⟨source, by omega, ?_, ?_⟩
          · rw [hbehind, List.getElem?_cons_succ]
            exact hsource
          · dsimp only
            rw [hfound, hread, hbehind, List.take_succ_cons, Grammar.visits_cons]
            rfl

theorem calls_readFrom_of_known (span : Span) (index : Nat) (before : Option σ)
    (lines : List Text)
    (hnone : (walkFrom grammar span index before lines).kept.find? isUnknownEntry = none) :
    (readFrom grammar span excludeCarriers index before lines).calls =
      (grammar.visits index before lines).map Visit.call := by
  induction lines generalizing index before with
  | nil => rfl
  | cons line more ih =>
      rw [walkFrom, List.find?_append, List.find?_map, Option.or_eq_none_iff,
        Option.map_eq_none_iff] at hnone
      rcases classifyLine_of_known excludeCarriers index line hnone.left with ⟨found, hfound⟩
      rw [readFrom, Grammar.visits_cons, List.map_cons, ← ih _ _ hnone.right]
      dsimp only
      rw [hfound]

/-- The first token that walking over an excerpt keeps with an innermost scope outside of the
vocabulary, with the number of its line. -/
def firstUnknown? (excerpt : Excerpt) : Option (Nat × RawToken) :=
  (excerpt.spanTokens grammar).find? isUnknownEntry

variable {grammar}

theorem read_of_unknown {excerpt : Excerpt} {index : Nat} {token : RawToken}
    (hfirst : excerpt.firstUnknown? grammar = some (index, token)) :
    exists line, excerpt.lines[index]? = some line ∧
      excerpt.read grammar excludeCarriers =
        { calls := (grammar.visits 0 none (excerpt.lines.take (index + 1))).map Visit.call
          outcome := .error (token.failureIn index line) } := by
  rcases readFrom_of_unknown grammar excludeCarriers excerpt.span 0 none excerpt.lines hfirst with
    ⟨line, _hindex, hline, hread⟩
  exact ⟨line, hline, hread⟩

theorem read_of_known {excerpt : Excerpt} (hnone : excerpt.firstUnknown? grammar = none) :
    exists tokens,
      classifyLexemes excludeCarriers (excerpt.spanLexemes grammar) = .ok tokens ∧
        excerpt.read grammar excludeCarriers =
          { calls := (grammar.visits 0 none excerpt.lines).map Visit.call
            outcome := .ok tokens } := by
  have hknown : forall lexeme,
      lexeme ∈ keptLexemes excerpt.span (grammar.visits 0 none excerpt.lines) ->
        exists scope : Scope, lexeme.2 = scope.raw := by
    intro lexeme hlexeme
    rw [keptLexemes_eq_spanLexemes] at hlexeme
    rcases List.mem_map.mp hlexeme with ⟨entry, hentry, rfl⟩
    apply Scope.isUnknown_eq_false.mp
    rw [← Bool.not_eq_true]
    exact List.find?_eq_none.mp hnone entry hentry
  rcases readFrom_of_known grammar excludeCarriers hknown with ⟨tokens, houtcome, hlexemes⟩
  rw [keptLexemes_eq_spanLexemes] at hlexemes
  refine ⟨tokens, hlexemes, ?_⟩
  rw [read, ← houtcome,
    ← calls_readFrom_of_known grammar excludeCarriers excerpt.span 0 none excerpt.lines hnone]

theorem classifyLexemes_of_firstUnknown {excerpt : Excerpt} {index : Nat} {token : RawToken}
    (hfirst : excerpt.firstUnknown? grammar = some (index, token)) :
    classifyLexemes excludeCarriers (excerpt.spanLexemes grammar) =
      .error { scope := token.innermost } := by
  have hlexeme : (excerpt.spanLexemes grammar).find? (fun other => isUnknown other.2) =
      some (token.lexemeIn (excerpt.lineAt index)) := by
    rw [spanLexemes, List.find?_map]
    exact congrArg (Option.map _) hfirst
  exact classifyLexemes_eq_error excludeCarriers hlexeme

variable (grammar)

/-- Reading an excerpt and classifying the lexemes that walking over it keeps succeed together and
with the same tokens, and then every line has been asked for.  Otherwise both fail for the first
token whose innermost scope is outside of the vocabulary.  The reading locates its failure at that
token, and the lines asked for end with the line of the token. -/
theorem first_failure_located (excerpt : Excerpt) :
    match excerpt.firstUnknown? grammar with
    | none =>
        (exists tokens,
          classifyLexemes excludeCarriers (excerpt.spanLexemes grammar) = .ok tokens ∧
            excerpt.classify grammar excludeCarriers = .ok tokens) ∧
          grammar.Chained excerpt.lines (excerpt.read grammar excludeCarriers).calls
    | some (index, token) =>
        exists name line, token.scopes.getLast? = some name ∧
          excerpt.lines[index]? = some line ∧
          classifyLexemes excludeCarriers (excerpt.spanLexemes grammar) =
            .error { scope := name } ∧
          excerpt.classify grammar excludeCarriers =
            .error
              { scope := name
                text := line.cut token.start token.stop
                line := some index
                column := some token.start
                sourceLine := line } ∧
          grammar.Chained (excerpt.lines.take (index + 1))
            (excerpt.read grammar excludeCarriers).calls := by
  cases hfirst : excerpt.firstUnknown? grammar with
  | none =>
      rcases read_of_known excludeCarriers hfirst with ⟨tokens, htokens, hread⟩
      rw [classify, hread]
      exact ⟨⟨tokens, htokens, rfl⟩, grammar.chained_calls excerpt.lines⟩
  | some entry =>
      rcases entry with ⟨index, token⟩
      rcases read_of_unknown excludeCarriers hfirst with ⟨line, hline, hread⟩
      have hlexemes := classifyLexemes_of_firstUnknown excludeCarriers hfirst
      rcases of_mem_spanTokens (List.mem_of_find?_eq_some hfirst) with ⟨_hstream, hscopes, _hcovers⟩
      have hname : token.scopes.getLast? = some token.innermost := by
        rw [RawToken.innermost, List.getLast?_eq_some_getLast hscopes]
        rfl
      rw [classify, hread]
      exact ⟨token.innermost, line, hname, hline, hlexemes, rfl,
        grammar.chained_calls (excerpt.lines.take (index + 1))⟩

end Excerpt
end ScopeProbe
