import ScopeProbe.Proofs.Mana.Code

/-!
# Preprocessor lines

Outside of block comments a line of the preprocessor is read in modes of its own
from its start to its end, so nothing on it is read as code.  It leaves the state
as it was, and the other lines are read as if it were not there.
-/

namespace ScopeProbe
namespace Mana

/-!
# Steps on a line of the preprocessor
-/

inductive Mode.BehindSign : Mode -> Prop where
  | directive : BehindSign .directive
  | preprocessor (message : Bool) : BehindSign (.preprocessor message)

def Mode.OfPreprocessor (mode : Mode) : Prop :=
  mode = .hash ∨ mode.BehindSign

def preprocessorScopes : List (List Scope) :=
  [[], [.punctuationSeparatorHash], [.entityNameVariablePreprocessorSymbol],
    [.stringUnquotedPreprocessorMessage]] ++
    directives.map fun entry => [entry.2]

def messageScopes : List Scope :=
  [.keywordPreprocessorRegion, .keywordPreprocessorEndregion, .keywordPreprocessorError,
    .keywordPreprocessorWarning]

/-- A step of the preprocessor leaves the state as it was and stays with the preprocessor, and a
message follows each directive that asks for one. -/
structure Step.Apart (state : State) (next : Step) : Prop where
  state_eq : next.state = state
  mode : next.mode.OfPreprocessor
  message : forall scope, scope ∈ messageScopes -> next.inner = [.metaPreprocessor, scope] ->
    next.mode = .preprocessor true

structure Step.Inside (next : Step) : Prop where
  inner : exists inner, inner ∈ preprocessorScopes ∧ next.inner = .metaPreprocessor :: inner
  mode : next.mode.BehindSign

theorem message_of_directive :
    forall entry, entry ∈ directives -> entry.2 ∈ messageScopes ->
      messageDirectives.contains entry.1 = true := by
  decide

theorem Step.Apart.of_other {state : State} {next : Step} (hstate : next.state = state)
    (hmode : next.mode.OfPreprocessor)
    (hother : messageScopes.all fun scope => next.inner != [.metaPreprocessor, scope]) :
    next.Apart state := by
  refine ⟨hstate, hmode, ?_⟩
  intro scope hscope hinner
  have hnot := List.all_eq_true.mp hother scope hscope
  rw [bne_iff_ne] at hnot
  exact absurd hinner hnot

section Steps

variable (state : State) (c : Char) (rest : Text)

theorem hashStep_apart : (hashStep state c rest).Apart state := by
  unfold hashStep
  split
  · exact Step.Apart.of_other rfl (Or.inl rfl) rfl
  · exact Step.Apart.of_other rfl (Or.inr Mode.BehindSign.directive) rfl

theorem preprocessorStep_apart (message : Bool) :
    (preprocessorStep state message c rest).Apart state := by
  have hmode : (Mode.preprocessor message).OfPreprocessor :=
    Or.inr (Mode.BehindSign.preprocessor message)
  unfold preprocessorStep
  split_ifs <;> exact Step.Apart.of_other rfl hmode rfl

theorem directiveStep_apart : (directiveStep state c rest).Apart state := by
  simp only [directiveStep]
  split
  · refine ⟨rfl, Or.inr (Mode.BehindSign.preprocessor _), ?_⟩
    intro scope hscope hinner
    cases hword : directives.lookup (c :: rest.take (runLength isWordChar rest)) with
    | none =>
        rw [hword] at hinner
        cases hinner
    | some found =>
        rw [hword] at hinner
        cases hinner
        exact congrArg Mode.preprocessor (message_of_directive _ (mem_of_lookup hword) hscope)
  · exact preprocessorStep_apart state c rest false

theorem step_apart {mode : Mode} (hmode : mode.OfPreprocessor) :
    (step state mode c rest).Apart state := by
  rcases hmode with rfl | hbehind
  · exact hashStep_apart state c rest
  · cases hbehind with
    | directive => exact directiveStep_apart state c rest
    | preprocessor message => exact preprocessorStep_apart state c rest message

theorem preprocessorStep_inside (message : Bool) :
    (preprocessorStep state message c rest).Inside := by
  have hmode := Mode.BehindSign.preprocessor message
  unfold preprocessorStep
  split_ifs
  · exact ⟨⟨[], by decide, rfl⟩, hmode⟩
  · exact ⟨⟨[.stringUnquotedPreprocessorMessage], by decide, rfl⟩, hmode⟩
  · exact ⟨⟨[.entityNameVariablePreprocessorSymbol], by decide, rfl⟩, hmode⟩
  · exact ⟨⟨[], by decide, rfl⟩, hmode⟩

theorem directiveStep_inside : (directiveStep state c rest).Inside := by
  simp only [directiveStep]
  split
  · refine ⟨?_, Mode.BehindSign.preprocessor _⟩
    cases hword : directives.lookup (c :: rest.take (runLength isWordChar rest)) with
    | none => exact ⟨[], by decide, rfl⟩
    | some scope =>
        refine ⟨[scope], List.mem_append_right _ ?_, rfl⟩
        exact List.mem_map.mpr ⟨_, mem_of_lookup hword, rfl⟩
  · exact preprocessorStep_inside state c rest false

theorem step_inside {mode : Mode} (hmode : mode.BehindSign) :
    (step state mode c rest).Inside := by
  cases hmode with
  | directive => exact directiveStep_inside state c rest
  | preprocessor message => exact preprocessorStep_inside state c rest message

end Steps

/-!
# Scanning a line of the preprocessor
-/

theorem moments_apart {state : State} {mode : Mode} (hmode : mode.OfPreprocessor) (text : Text) :
    forall moment, moment ∈ moments state mode 0 text -> moment.mode.OfPreprocessor := by
  induction state, mode, text using moment_induction with
  | done state mode =>
      intro moment hmoment
      cases hmoment
  | next first ih =>
      intro moment hmoment
      rw [moments_moment] at hmoment
      rcases List.mem_cons.mp hmoment with rfl | hlater
      · exact hmode
      · exact ih (step_apart first.state first.head first.rest hmode).mode moment hlater

theorem scan_apart {state : State} {mode : Mode} (hmode : mode.OfPreprocessor) (text : Text) :
    (scan state mode 0 text).2 = state := by
  induction state, mode, text using moment_induction with
  | done state mode => rfl
  | next moment ih =>
      have hapart : moment.step.Apart moment.state :=
        step_apart moment.state moment.head moment.rest hmode
      rw [scan_moment]
      exact (ih hapart.mode).trans hapart.state_eq

theorem scan_inside {state : State} {mode : Mode} (hmode : mode.BehindSign) (text : Text) :
    forall lexeme, lexeme ∈ (scan state mode 0 text).1 ->
      exists inner, inner ∈ preprocessorScopes ∧ lexeme.inner = .metaPreprocessor :: inner := by
  induction state, mode, text using moment_induction with
  | done state mode =>
      intro lexeme hlexeme
      cases hlexeme
  | next moment ih =>
      have hinside : moment.step.Inside :=
        step_inside moment.state moment.head moment.rest hmode
      intro lexeme hlexeme
      rw [scan_moment] at hlexeme
      rcases List.mem_cons.mp hlexeme with rfl | hlater
      · exact hinside.inner
      · exact ih hinside.mode lexeme hlater

def messageLexemes (text : Text) : List Lexeme :=
  blankLexemes [.metaPreprocessor] text ++
    if text.dropWhile isBlank = [] then []
    else
      [{ text := text.dropWhile isBlank,
         inner := [.metaPreprocessor, .stringUnquotedPreprocessorMessage] }]

theorem scan_message (state : State) (text : Text) :
    (scan state (.preprocessor true) 0 text).1 = messageLexemes text := by
  have hblanks : forall c rest, isBlank c = true ->
      step state (.preprocessor true) c rest =
        ⟨runLength isBlank rest, [.metaPreprocessor], .preprocessor true, state⟩ := by
    intro c rest hc
    exact if_pos hc
  rw [scan_blanks hblanks, messageLexemes]
  congr 1
  cases hrest : text.dropWhile isBlank with
  | nil => rfl
  | cons c rest =>
      have hc : isBlank c = false := head?_dropWhile_isBlank text c (by rw [hrest]; rfl)
      have hstep : step state (.preprocessor true) c rest =
          ⟨rest.length, [.metaPreprocessor, .stringUnquotedPreprocessorMessage],
            .preprocessor true, state⟩ := by
        show preprocessorStep state true c rest = _
        rw [preprocessorStep, if_neg (by simp [hc]), if_pos rfl]
      rw [if_neg (List.cons_ne_nil c rest), scan, hstep, scan_eq_scan_drop, List.drop_length,
        List.take_length]
      rfl

/-!
# Tokens of a line of the preprocessor
-/

theorem startMode_preprocessor {state : State} (hcode : state.inComment = false) {line : Text}
    (hline : isPreprocessorLine line = true) : startMode state line = .hash := by
  rw [startMode, hcode, hline]
  rfl

def codeScopes : List Scope :=
  [.commentLineDoubleSlash, .commentBlock, .punctuationDefinitionComment,
    .punctuationWhitespaceCommentLeading, .stringQuotedDouble, .punctuationDefinitionStringBegin,
    .punctuationDefinitionStringEnd, .punctuationCurlybraceOpen, .punctuationCurlybraceClose,
    .entityNameFunction, .entityNameVariableField, .entityNameVariableLocal,
    .entityNameVariableEnumMember, .variableOtherReadwrite] ++
    Declaration.all.map Declaration.nameScope

/-- A line leaves no trace in the state or in the tokens of code: at most one token of blanks stands
in front, all others are in the scope of the preprocessor, and the message of a directive is the
rest of the line. -/
structure StandsApart (line : Text) (before : Option State) : Prop where
  state_eq : (grammar line before).state = before.getD {}
  scopes : exists front back, (grammar line before).tokens = front ++ back ∧
    front.length <= 1 ∧
    (forall token, token ∈ front ->
      (token.textIn line).all isBlank = true ∧ token.scopes = [Scope.source.raw]) ∧
    forall token, token ∈ back -> exists inner, inner ∈ preprocessorScopes ∧
      token.scopes = (Scope.source :: .metaPreprocessor :: inner).map Scope.raw
  noCode : forall token, token ∈ (grammar line before).tokens ->
    forall scope, scope ∈ codeScopes -> scope.raw ∉ token.scopes
  message : forall front token back scope,
    (grammar line before).tokens = front ++ token :: back -> scope ∈ messageScopes ->
      token.scopes = [Scope.source, .metaPreprocessor, scope].map Scope.raw ->
        back = Lexeme.rawTokens token.stop.toNat
          (messageLexemes (line.drop token.stop.toNat))

section Lines

variable {before : Option State} {line : Text}

theorem tokens_preprocessor (hcode : (before.getD {}).inComment = false)
    (hline : isPreprocessorLine line = true) :
    exists c rest, (grammar line before).tokens =
      Lexeme.rawTokens 0 (blankLexemes [] line) ++
        Lexeme.rawTokens (line.takeWhile isBlank).length
          (signLexeme c :: (scan (before.getD {}) .directive 0 rest).1) := by
  cases hrest : line.dropWhile isBlank with
  | nil =>
      rw [← isPreprocessorLine_dropWhile, hrest] at hline
      cases hline
  | cons c rest =>
      refine ⟨c, rest, ?_⟩
      rw [grammar_tokens, lexLine_sign hcode hline hrest, rawTokens_append, flatten_blankLexemes,
        Nat.zero_add]

theorem blank_tokens (line : Text) :
    (Lexeme.rawTokens 0 (blankLexemes [] line)).length <= 1 ∧
      forall token, token ∈ Lexeme.rawTokens 0 (blankLexemes [] line) ->
        (token.textIn line).all isBlank = true ∧ token.scopes = [Scope.source.raw] := by
  rw [blankLexemes]
  split_ifs with hnone
  · exact ⟨Nat.zero_le 1, fun _token htoken => absurd htoken List.not_mem_nil⟩
  · refine ⟨Nat.le_refl 1, ?_⟩
    intro token htoken
    rw [List.mem_singleton.mp htoken]
    have hcut := Text.cut_middle [] (line.takeWhile isBlank) (line.dropWhile isBlank)
    rw [List.takeWhile_append_dropWhile, List.nil_append] at hcut
    refine ⟨?_, rfl⟩
    rw [RawToken.textIn]
    exact (congrArg (List.all · isBlank) hcut).trans List.all_takeWhile

theorem scopes_behind_blanks {state : State} {start : Nat} {c : Char} {rest : Text} :
    forall token, token ∈
        Lexeme.rawTokens start (signLexeme c :: (scan state .directive 0 rest).1) ->
      exists inner, inner ∈ preprocessorScopes ∧
        token.scopes = (Scope.source :: .metaPreprocessor :: inner).map Scope.raw := by
  intro token htoken
  rcases Lexeme.mem_rawTokens_scopes htoken with ⟨lexeme, hlexeme, hscopes⟩
  have hinner : exists inner, inner ∈ preprocessorScopes ∧
      lexeme.inner = .metaPreprocessor :: inner := by
    rcases List.mem_cons.mp hlexeme with rfl | hlater
    · exact ⟨[.punctuationSeparatorHash], by decide, rfl⟩
    · exact scan_inside Mode.BehindSign.directive rest lexeme hlater
  rcases hinner with ⟨inner, hmember, hinner⟩
  refine ⟨inner, hmember, ?_⟩
  rw [hscopes, Lexeme.scopes, hinner]

theorem code_apart :
    forall inner, inner ∈ preprocessorScopes -> forall scope, scope ∈ codeScopes ->
      scope ∉ Scope.source :: .metaPreprocessor :: inner := by
  decide

theorem messages_told (hcode : (before.getD {}).inComment = false)
    (hline : isPreprocessorLine line = true) {front back : List RawToken} {token : RawToken}
    {scope : Scope} (htokens : (grammar line before).tokens = front ++ token :: back)
    (hscope : scope ∈ messageScopes)
    (hscopes : token.scopes = [Scope.source, .metaPreprocessor, scope].map Scope.raw) :
    back = Lexeme.rawTokens token.stop.toNat (messageLexemes (line.drop token.stop.toNat)) := by
  rcases moments_of_tokens htokens with ⟨passed, coming, moment, hmoments, rfl, rfl, rfl⟩
  have hcomes : ComesTo (before.getD {}) line (Lexeme.width (passed.map Moment.lexeme)) moment :=
    ⟨passed, coming, hmoments, rfl⟩
  have hinner : moment.step.inner = [.metaPreprocessor, scope] := inner_of_scopes hscopes
  rw [lineMoments, startMode_preprocessor hcode hline] at hmoments
  have hmember : moment ∈ moments (before.getD {}) .hash 0 line := by
    rw [hmoments]
    exact List.mem_append_right _ List.mem_cons_self
  have hapart : moment.step.Apart moment.state :=
    step_apart moment.state moment.head moment.rest
      (moments_apart (Or.inl rfl) line moment hmember)
  rw [← moments_behind hmoments, hapart.message scope hscope hinner, ← scan_fst, scan_message]
  have hstop : (moment.lexeme.tokenAt
      (Lexeme.width (passed.map Moment.lexeme))).stop.toNat =
        Lexeme.width (passed.map Moment.lexeme) + moment.lexeme.text.length := rfl
  rw [hstop, hcomes.drop_behind]

theorem standsApart_of_preprocessor (hcode : (before.getD {}).inComment = false)
    (hline : isPreprocessorLine line = true) : StandsApart line before := by
  rcases tokens_preprocessor hcode hline with ⟨c, rest, htokens⟩
  refine ⟨?_, ⟨_, _, htokens, (blank_tokens line).left, (blank_tokens line).right,
    scopes_behind_blanks⟩, ?_, fun _front _token _back _scope => messages_told hcode hline⟩
  · rw [grammar_state, lexLine, startMode_preprocessor hcode hline]
    exact scan_apart (Or.inl rfl) line
  · intro token htoken scope hscope hraw
    rw [htokens] at htoken
    rcases List.mem_append.mp htoken with hblank | hbehind
    · rw [((blank_tokens line).right token hblank).right, List.mem_singleton, Scope.raw_inj] at hraw
      rw [hraw] at hscope
      exact absurd hscope (by decide)
    · rcases scopes_behind_blanks token hbehind with ⟨inner, hinner, hscopes⟩
      rw [hscopes, List.mem_map_of_injective Scope.raw_injective] at hraw
      exact code_apart inner hinner scope hscope hraw

end Lines

/-!
# Runs with and without a line of the preprocessor
-/

theorem map_tokens_visits {before other : Option State} (h : before.getD {} = other.getD {})
    (index number : Nat) (lines : List Text) :
    (grammar.visits index before lines).map Visit.tokens =
      (grammar.visits number other lines).map Visit.tokens := by
  induction lines generalizing index number before other with
  | nil => rfl
  | cons line more ih =>
      have htokens : (grammar line before).tokens = (grammar line other).tokens := by
        rw [grammar_tokens, grammar_tokens, h]
      have hstate : (grammar line before).state = (grammar line other).state := by
        rw [grammar_state, grammar_state, h]
      rw [Grammar.visits_cons, Grammar.visits_cons, List.map_cons, List.map_cons, htokens, hstate,
        ih rfl (index + 1) (number + 1)]

/-- Outside of block comments a line of the preprocessor stands apart, and a source has the same
tokens on all its other lines with the line and without it. -/
theorem preprocessor_line_stands_apart {before : Option State} {line : Text}
    (hcode : (before.getD {}).inComment = false) (hline : isPreprocessorLine line = true) :
    StandsApart line before ∧
      forall (start : Option State) (front back : List Text),
        grammar.stateAfter start front = before ->
          exists passed coming : List (List RawToken),
            passed.length = front.length ∧ coming.length = back.length ∧
              (grammar.visits 0 start (front ++ line :: back)).map Visit.tokens =
                passed ++ (grammar line before).tokens :: coming ∧
              (grammar.visits 0 start (front ++ back)).map Visit.tokens = passed ++ coming := by
  have hapart := standsApart_of_preprocessor hcode hline
  refine ⟨hapart, ?_⟩
  intro start front back hbefore
  have hstate : (some (grammar line before).state).getD {} = before.getD {} := hapart.state_eq
  have hbehind : (grammar.visits (front.length + 1) (some (grammar line before).state) back).map
      Visit.tokens = (grammar.visits front.length before back).map Visit.tokens :=
    map_tokens_visits hstate _ _ back
  refine ⟨(grammar.visits 0 start front).map Visit.tokens,
    (grammar.visits front.length before back).map Visit.tokens, ?_, ?_, ?_, ?_⟩
  · rw [List.length_map, Grammar.length_visits]
  · rw [List.length_map, Grammar.length_visits]
  · rw [Grammar.visits_append, hbefore, Grammar.visits_cons, List.map_append, List.map_cons,
      Nat.zero_add, hbehind]
  · rw [Grammar.visits_append, hbefore, List.map_append, Nat.zero_add]

theorem region_stands_apart :
    (((some { blocks := [.typeBody], pending := some .ofEnum } : Option State)).getD {}).inComment =
        false ∧
      isPreprocessorLine "\t#region \"\x7b /* class X".toList = true ∧
      StandsApart "\t#region \"\x7b /* class X".toList
          (some { blocks := [.typeBody], pending := some .ofEnum }) ∧
        forall (start : Option State) (front back : List Text),
          grammar.stateAfter start front =
              some { blocks := [.typeBody], pending := some .ofEnum } ->
            exists passed coming : List (List RawToken),
              passed.length = front.length ∧ coming.length = back.length ∧
                (grammar.visits 0 start
                    (front ++ "\t#region \"\x7b /* class X".toList :: back)).map Visit.tokens =
                  passed ++ (grammar "\t#region \"\x7b /* class X".toList
                    (some { blocks := [.typeBody], pending := some .ofEnum })).tokens :: coming ∧
                (grammar.visits 0 start (front ++ back)).map Visit.tokens =
                  passed ++ coming := by
  have hline : isPreprocessorLine "\t#region \"\x7b /* class X".toList = true := by decide
  exact ⟨rfl, hline, preprocessor_line_stands_apart rfl hline⟩

end Mana
end ScopeProbe
