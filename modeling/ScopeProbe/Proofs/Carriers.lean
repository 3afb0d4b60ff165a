import ScopeProbe.Proofs.FirstFailure

/-!
# Leaving out carriers

Whether carriers are left out makes no difference to what is asked of a grammar,
nor to whether and how a reading fails.  It only filters the tokens of a reading
that succeeds.
-/

namespace ScopeProbe

/-!
# Classifying with and without carriers
-/

def withoutCarriers (tokens : List Token) : List Token :=
  tokens.filter fun token => !token.scope.isCarrier

theorem classifyLexeme_exclude (text : Text) (name : String) :
    classifyLexeme true text name =
      (classifyLexeme false text name).map (Option.filter fun token => !token.scope.isCarrier) := by
  rw [classifyLexeme, classifyLexeme]
  cases Scope.ofRaw? name with
  | none => rfl
  | some scope =>
      cases hcarrier : scope.isCarrier <;> simp [Except.map, Option.filter, hcarrier]

theorem classifyLexemes_exclude (lexemes : List (Text × String)) :
    classifyLexemes true lexemes = (classifyLexemes false lexemes).map withoutCarriers := by
  induction lexemes with
  | nil => rfl
  | cons lexeme more ih =>
      rw [classifyLexemes, classifyLexemes, classifyLexeme_exclude, ih]
      cases classifyLexeme false lexeme.1 lexeme.2 with
      | error failure => rfl
      | ok found =>
          cases classifyLexemes false more with
          | error failure => rfl
          | ok tokens =>
              show Except.ok ((found.filter _).toList ++ withoutCarriers tokens) =
                Except.ok (withoutCarriers (found.toList ++ tokens))
              rw [Option.toList_filter, withoutCarriers, withoutCarriers, List.filter_append]

/-!
# Readings with and without carriers
-/

namespace Excerpt

variable {σ : Type} (grammar : Grammar σ) (excerpt : Excerpt)

theorem read_exclude :
    excerpt.read grammar true =
      { calls := (excerpt.read grammar false).calls
        outcome := (excerpt.read grammar false).outcome.map withoutCarriers } := by
  cases hfirst : excerpt.firstUnknown? grammar with
  | none =>
      rcases read_of_known true hfirst with ⟨tokens, htokens, hread⟩
      rcases read_of_known false hfirst with ⟨all, hall, hreadAll⟩
      rw [classifyLexemes_exclude, hall] at htokens
      cases htokens
      rw [hread, hreadAll]
      rfl
  | some entry =>
      rcases read_of_unknown true hfirst with ⟨line, hline, hread⟩
      rcases read_of_unknown false hfirst with ⟨same, hsame, hreadAll⟩
      rw [hline] at hsame
      cases hsame
      rw [hread, hreadAll]
      rfl

/-- Leaving out carriers filters the tokens of a reading and of a list of lexemes.  A failure stays
the same failure, and the requests are the same in any case. -/
theorem exclusion_only_filters :
    excerpt.classify grammar true = (excerpt.classify grammar false).map withoutCarriers ∧
      (excerpt.read grammar true).calls = (excerpt.read grammar false).calls ∧
      forall lexemes, classifyLexemes true lexemes =
        (classifyLexemes false lexemes).map withoutCarriers := by
  refine ⟨?_, ?_, classifyLexemes_exclude⟩
  · rw [classify, read_exclude]
    rfl
  · rw [read_exclude]

end Excerpt
end ScopeProbe
