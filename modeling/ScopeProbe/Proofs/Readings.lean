import Mathlib.Data.List.Basic
import ScopeProbe.Proofs.Outcomes
import ScopeProbe.Proofs.Runs
import ScopeProbe.Proofs.Vocabulary

/-!
# Readings of an excerpt

A reading classifies the tokens of a run that its span keeps, line by line and
in order.  If all their innermost scopes are in the vocabulary the reading
succeeds, and its tokens are those lexemes less the carriers that are left out.
-/

namespace ScopeProbe

def carrierNames : List String :=
  Scope.carriers.map Scope.raw

def heard (entry : Text × List String) : Text × String :=
  (entry.1, entry.2.getLast?.getD "")

def Token.spelled (token : Token) : Text × String :=
  (token.text, token.scope.raw)

def RawToken.lexemeIn (line : Text) (token : RawToken) : Text × String :=
  (token.textIn line, token.innermost)

/-!
# Classification in order

Classifying a list succeeds exactly if classifying its head and its tail does.
-/

section

variable {excludeCarriers : Bool}

theorem classifyLexemes_cons {text : Text} {name : String} {more : List (Text × String)}
    {tokens : List Token} :
    classifyLexemes excludeCarriers ((text, name) :: more) = .ok tokens <->
      exists first later, classifyLexeme excludeCarriers text name = .ok first ∧
        classifyLexemes excludeCarriers more = .ok later ∧ first.toList ++ later = tokens := by
  rw [classifyLexemes, bind_eq_ok]
  apply exists_congr
  intro first
  rw [bind_eq_ok, ← exists_and_left]
  apply exists_congr
  intro later
  show _ ∧ _ ∧ Except.ok (first.toList ++ later) = Except.ok tokens <-> _
  rw [Except.ok.injEq]

theorem classifyLexemes_append {front back : List (Text × String)} {first later : List Token}
    (hfront : classifyLexemes excludeCarriers front = .ok first)
    (hback : classifyLexemes excludeCarriers back = .ok later) :
    classifyLexemes excludeCarriers (front ++ back) = .ok (first ++ later) := by
  induction front generalizing first with
  | nil =>
      cases hfront
      exact hback
  | cons lexeme more ih =>
      rcases classifyLexemes_cons.mp hfront with ⟨token, tokens, hlexeme, hmore, rfl⟩
      rw [List.append_assoc]
      exact classifyLexemes_cons.mpr ⟨token, _, hlexeme, ih hmore, rfl⟩

theorem classify_eq_ok {index : Nat} {line : Text} {token : RawToken} {found : Option Token}
    (hlexeme : classifyLexeme excludeCarriers (token.textIn line) token.innermost = .ok found) :
    token.classify excludeCarriers index line = .ok found := by
  rw [RawToken.classify, hlexeme]

theorem classifyLine_of_lexemes (index : Nat) {line : Text} {tokens : List RawToken}
    {found : List Token}
    (hlexemes : classifyLexemes excludeCarriers (tokens.map (RawToken.lexemeIn line)) =
      .ok found) :
    classifyLine excludeCarriers index line tokens = .ok found := by
  induction tokens generalizing found with
  | nil => exact hlexemes
  | cons token more ih =>
      rcases classifyLexemes_cons.mp hlexemes with ⟨first, later, hlexeme, hmore, rfl⟩
      rw [classifyLine, classify_eq_ok hlexeme]
      apply bind_eq_ok.mpr
      refine ⟨first, rfl, bind_eq_ok.mpr ⟨later, ih hmore, rfl⟩⟩

end

/-!
# Lexemes of the vocabulary
-/

theorem contains_carrierNames (scope : Scope) :
    carrierNames.contains scope.raw = scope.isCarrier := by
  rw [Bool.eq_iff_iff, List.contains_iff_mem, carrierNames,
    List.mem_map_of_injective Scope.raw_injective, Scope.isCarrier, List.contains_iff_mem]

theorem classifyLexeme_raw (excludeCarriers : Bool) (text : Text) (scope : Scope) :
    classifyLexeme excludeCarriers text scope.raw =
      .ok (if excludeCarriers && scope.isCarrier then none else some { text, scope }) := by
  rw [classifyLexeme, Scope.ofRaw?_raw]
  exact (apply_ite Except.ok _ _ _).symm

theorem classifyLexemes_of_known (excludeCarriers : Bool) {lexemes : List (Text × String)}
    (hknown : forall lexeme, lexeme ∈ lexemes -> exists scope : Scope, lexeme.2 = scope.raw) :
    exists tokens, classifyLexemes excludeCarriers lexemes = .ok tokens ∧
      tokens.map Token.spelled =
        lexemes.filter fun lexeme =>
          !(excludeCarriers && carrierNames.contains lexeme.2) := by
  induction lexemes with
  | nil => exact ⟨[], rfl, rfl⟩
  | cons lexeme more ih =>
      rcases ih (fun other hother => hknown other (List.mem_cons_of_mem _ hother)) with
        ⟨tokens, htokens, hspelled⟩
      rcases hknown lexeme List.mem_cons_self with ⟨scope, hscope⟩
      rcases lexeme with ⟨text, name⟩
      have hname : name = scope.raw := hscope
      subst hname
      refine ⟨_, classifyLexemes_cons.mpr
        ⟨_, _, classifyLexeme_raw excludeCarriers text scope, htokens, rfl⟩, ?_⟩
      rw [List.filter_cons, contains_carrierNames]
      cases hleft : excludeCarriers && scope.isCarrier with
      | true => exact hspelled
      | false =>
          rw [if_neg (by simp), if_pos (by simp), List.map_append, hspelled]
          rfl

/-!
# Readings
-/

namespace Excerpt

variable {σ : Type} (grammar : Grammar σ)

/-- The lexemes that a span keeps of the lines of a run. -/
def keptLexemes (span : Span) (visits : List (Visit σ)) : List (Text × String) :=
  visits.flatMap fun visit =>
    (span.filter visit.index visit.call.line visit.tokens).map
      (RawToken.lexemeIn visit.call.line)

theorem keptLexemes_append (span : Span) (front back : List (Visit σ)) :
    keptLexemes span (front ++ back) = keptLexemes span front ++ keptLexemes span back :=
  List.flatMap_append

theorem readFrom_of_known (excludeCarriers : Bool) {span : Span} {index : Nat}
    {before : Option σ} {lines : List Text}
    (hknown : forall lexeme,
      lexeme ∈ keptLexemes span (grammar.visits index before lines) ->
        exists scope : Scope, lexeme.2 = scope.raw) :
    exists tokens, (readFrom grammar span excludeCarriers index before lines).outcome = .ok tokens ∧
      classifyLexemes excludeCarriers
        (keptLexemes span (grammar.visits index before lines)) = .ok tokens := by
  induction lines generalizing index before with
  | nil => exact ⟨[], rfl, rfl⟩
  | cons line more ih =>
      rw [Grammar.visits_cons, keptLexemes, List.flatMap_cons] at hknown ⊢
      rcases classifyLexemes_of_known excludeCarriers
        (fun lexeme hlexeme => hknown lexeme (List.mem_append_left _ hlexeme)) with
        ⟨first, hfirst, _hspelled⟩
      rcases ih (fun lexeme hlexeme => hknown lexeme (List.mem_append_right _ hlexeme)) with
        ⟨later, hlater, hlexemes⟩
      refine ⟨first ++ later, ?_, classifyLexemes_append hfirst hlexemes⟩
      rw [readFrom, classifyLine_of_lexemes index hfirst]
      show Except.map (first ++ ·) _ = _
      rw [hlater]
      rfl

theorem classify_of_known (excludeCarriers : Bool) (excerpt : Excerpt)
    (hknown : forall lexeme,
      lexeme ∈ keptLexemes excerpt.span (grammar.visits 0 none excerpt.lines) ->
        exists scope : Scope, lexeme.2 = scope.raw) :
    (excerpt.classify grammar excludeCarriers).map (List.map Token.spelled) =
      .ok ((keptLexemes excerpt.span (grammar.visits 0 none excerpt.lines)).filter
        fun lexeme => !(excludeCarriers && carrierNames.contains lexeme.2)) := by
  rcases readFrom_of_known grammar excludeCarriers hknown with
    ⟨tokens, houtcome, htokens⟩
  rcases classifyLexemes_of_known excludeCarriers hknown with ⟨same, hsame, hspelled⟩
  rw [hsame] at htokens
  cases htokens
  rw [classify, read, houtcome, ← hspelled]
  rfl

end Excerpt
end ScopeProbe
