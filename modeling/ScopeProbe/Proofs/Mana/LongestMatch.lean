import ScopeProbe.Proofs.Mana.Code
import ScopeProbe.Proofs.Mana.Words

/-!
# Longest match

A step never leaves behind what it could have taken.  An operator is the longest
one ahead, a run of characters of one kind ends where the kind does, and a
character is reported as meaningless only if nothing in code begins with it.
-/

namespace ScopeProbe
namespace Mana

/-!
# Operators
-/

theorem operators_sorted :
    operators.Pairwise fun entry other => other.1.length <= entry.1.length := by
  decide

theorem operator_of_first :
    forall entry, entry ∈ operators ->
      exists other, other ∈ operators ∧ other.1 = entry.1.take 1 := by
  decide

theorem operator?_longest {text : Text} {entry : Text × Scope} (h : operator? text = some entry) :
    entry ∈ operators ∧
      forall other, other ∈ operators -> other.1 <+: text ->
        other.1.length <= entry.1.length := by
  rcases List.find?_eq_some_iff_append.mp h with ⟨_hahead, front, back, htable, hfront⟩
  refine ⟨List.mem_of_find?_eq_some h, ?_⟩
  intro other hother hprefix
  rw [htable] at hother
  rcases List.mem_append.mp hother with hbefore | hbehind
  · have hnot := hfront other hbefore
    rw [Bool.not_eq_true'] at hnot
    have hfound : other.1.isPrefixOf text = true := List.isPrefixOf_iff_prefix.mpr hprefix
    exact absurd (hfound.symm.trans hnot) (by simp)
  · rcases List.mem_cons.mp hbehind with rfl | hlater
    · exact Nat.le_refl _
    · have hsorted := operators_sorted
      rw [htable, List.pairwise_append, List.pairwise_cons] at hsorted
      exact hsorted.right.left.left other hlater

theorem head?_of_operator?_none {c : Char} {rest : Text} (h : operator? (c :: rest) = none) :
    forall entry, entry ∈ operators -> entry.1.head? ≠ some c := by
  intro entry hentry hhead
  rcases operator_of_first entry hentry with ⟨other, hother, hfirst⟩
  rcases List.head?_eq_some_iff.mp hhead with ⟨more, hmore⟩
  have hfound : other.1.isPrefixOf (c :: rest) = true := by
    rw [hfirst, hmore]
    simp
  exact List.find?_eq_none.mp h other hother hfound

/-!
# Kinds of tokens
-/

inductive StartsCode : Text -> Prop where
  | word {c : Char} {rest : Text} : isWordStart c = true -> StartsCode (c :: rest)
  | number {c : Char} {rest : Text} : Unicode.isDigit c = true -> StartsCode (c :: rest)
  | literal {rest : Text} : StartsCode ('"' :: rest)
  | interpolated {rest : Text} : StartsCode ('$' :: '"' :: rest)
  | lineComment {rest : Text} : StartsCode ('/' :: '/' :: rest)
  | blockComment {rest : Text} : StartsCode ('/' :: '*' :: rest)
  | operator {c : Char} {rest : Text} {entry : Text × Scope} :
      entry ∈ operators -> entry.1.head? = some c -> StartsCode (c :: rest)
  | punctuation {c : Char} {rest : Text} {scope : Scope} :
      (c, scope) ∈ Mana.punctuation -> StartsCode (c :: rest)

def runKind? : List Scope -> Option (Char -> Bool)
  | [scope] =>
      if scope = .punctuationWhitespaceCommentLeading then some isBlank
      else if scope = .constantNumericDecimal then some Unicode.isDigit
      else if scope = .constantNumericHex then some Hexadecimal.isDigit
      else none
  | [.metaPreprocessor, scope] =>
      if scope = .entityNameVariablePreprocessorSymbol ∨ scope ∈ directives.map Prod.snd then
        some isWordChar
      else none
  | [.stringQuotedDouble, .metaInterpolation, scope] =>
      if scope = .variableOtherReadwrite then some isWordChar else none
  | _ => none

def isOperator (scope : Scope) : Bool :=
  (.keywordOperatorNullConditional :: operators.map Prod.snd).contains scope

structure Step.Whole (c : Char) (rest : Text) (next : Step) : Prop where
  operator : forall scope, next.inner.getLast? = some scope -> isOperator scope = true ->
    exists text, operator? (c :: rest) = some (text, scope) ∧ next.extra = text.length - 1
  run : forall kind, runKind? next.inner = some kind ->
    kind c = true ∧ next.extra = runLength kind rest
  plain : next.inner = [] ->
    isBlank c = true ∧ next.extra = runLength isBlank rest ∨
      isBlank c = false ∧ next.extra = 0 ∧ ¬ StartsCode (c :: rest)

def idle (inner : List Scope) : Bool :=
  !inner.isEmpty && !inner.getLast?.any isOperator && (runKind? inner).isNone

/-- A name that begins as those of operators do.  Names are compared by their octets, which is
cheaper to check than comparing characters. -/
def namesOperator (name : String) : Bool :=
  "keyword.operator".toByteArray.data.toList.isPrefixOf name.toByteArray.data.toList

theorem isOperator_of_name :
    forall scope, scope ∈ Scope.all -> namesOperator scope.raw = true ->
      isOperator scope = true := by
  decide +kernel

theorem idle_reservedWords :
    forall entry, entry ∈ reservedWords -> idle [entry.2.scope] = true := by
  decide

theorem idle_punctuation :
    forall entry, entry ∈ punctuation -> idle [entry.2] = true := by
  decide

theorem runKind?_operators :
    forall entry, entry ∈ operators -> (runKind? [entry.2]).isNone = true := by
  decide

theorem runKind?_directives :
    forall entry, entry ∈ directives -> isOperator entry.2 = false := by
  decide

namespace Step.Whole

variable {c : Char} {rest : Text} {next : Step}

theorem of_idle (hidle : idle next.inner = true) : next.Whole c rest := by
  rw [idle, Bool.and_eq_true, Bool.and_eq_true, Bool.not_eq_true', Bool.not_eq_true',
    Option.isNone_iff_eq_none] at hidle
  rcases hidle with ⟨⟨hinner, hoperator⟩, hrun⟩
  refine ⟨?_, ?_, ?_⟩
  · intro scope hlast hscope
    rw [hlast, Option.any_some, hscope] at hoperator
    cases hoperator
  · intro kind hkind
    rw [hrun] at hkind
    cases hkind
  · intro hnone
    rw [hnone] at hinner
    cases hinner

theorem of_run {kind : Char -> Bool} (hkind : runKind? next.inner = some kind)
    (hoperator : next.inner.getLast?.any isOperator = false)
    (hc : kind c = true) (hextra : next.extra = runLength kind rest) : next.Whole c rest := by
  refine ⟨?_, ?_, ?_⟩
  · intro scope hlast hscope
    rw [hlast, Option.any_some, hscope] at hoperator
    cases hoperator
  · intro other hother
    rw [hkind] at hother
    cases hother
    exact ⟨hc, hextra⟩
  · intro hnone
    rw [hnone] at hkind
    cases hkind

theorem of_plain (hinner : next.inner = [])
    (hplain : isBlank c = true ∧ next.extra = runLength isBlank rest ∨
      isBlank c = false ∧ next.extra = 0 ∧ ¬ StartsCode (c :: rest)) : next.Whole c rest := by
  refine ⟨?_, ?_, fun _hinner => hplain⟩
  · intro scope hlast
    rw [hinner] at hlast
    cases hlast
  · intro kind hkind
    rw [hinner] at hkind
    cases hkind

end Step.Whole

section Steps

variable (state : State) (c : Char) (rest : Text)

theorem commentStep_whole : (commentStep state c rest).Whole c rest := by
  unfold commentStep
  split <;> exact Step.Whole.of_idle rfl

theorem wordStep_whole (afterType : Bool) : (wordStep state afterType c rest).Whole c rest := by
  simp only [wordStep]
  split
  · rename_i word hword
    exact Step.Whole.of_idle (idle_reservedWords _ (mem_of_lookup hword))
  · split
    · rename_i kind _hkind
      cases kind <;> exact Step.Whole.of_idle rfl
    · simp only [identifierScope]
      split_ifs <;> exact Step.Whole.of_idle rfl

theorem numberStart_whole (hdigit : Unicode.isDigit c = true) :
    (numberStart state c rest).Whole c rest := by
  unfold numberStart
  split
  · exact Step.Whole.of_idle rfl
  · exact Step.Whole.of_run rfl rfl hdigit rfl

theorem symbolStep_whole (hvisible : isBlank c = false)
    (hother : StartsCode (c :: rest) ->
      (exists entry, entry ∈ operators ∧ entry.1.head? = some c) ∨
        exists scope, (c, scope) ∈ punctuation) :
    (symbolStep state c rest).Whole c rest := by
  unfold symbolStep
  split
  · rename_i text scope hoperator
    refine ⟨?_, ?_, ?_⟩
    · intro other hlast _hscope
      cases hlast
      exact ⟨text, hoperator, rfl⟩
    · intro kind hkind
      have hnone := runKind?_operators _ (operator?_longest hoperator).left
      rw [Option.isNone_iff_eq_none] at hnone
      cases hkind.symm.trans hnone
    · intro hnone
      cases hnone
  · rename_i hoperator
    split
    · rename_i scope hscope
      exact Step.Whole.of_idle (idle_punctuation _ (mem_of_lookup hscope))
    · rename_i hpunctuation
      refine Step.Whole.of_plain rfl (Or.inr ⟨hvisible, rfl, ?_⟩)
      intro hstarts
      rcases hother hstarts with ⟨entry, hentry, hhead⟩ | ⟨scope, hscope⟩
      · exact head?_of_operator?_none hoperator entry hentry hhead
      · have hmissing := List.lookup_eq_none_iff.mp hpunctuation (c, scope) hscope
        simp at hmissing

theorem codeStep_whole (afterType : Bool)
    (hvisible : state.inComment = false -> isBlank c = false) :
    (codeStep state afterType c rest).Whole c rest := by
  unfold codeStep
  split_ifs with hcomment hline hblock hinterpolated hquote hdigit hstart
  · exact commentStep_whole state c rest
  · exact Step.Whole.of_idle rfl
  · exact Step.Whole.of_idle rfl
  · exact Step.Whole.of_idle rfl
  · exact Step.Whole.of_idle rfl
  · exact numberStart_whole state c rest hdigit
  · exact wordStep_whole state c rest afterType
  · rw [Bool.not_eq_true] at hcomment
    apply symbolStep_whole state c rest (hvisible hcomment)
    -- All that begins something else than a symbol has been tried before.
    intro hstarts
    cases hstarts with
    | word hword => exact absurd hword hstart
    | number hnumber => exact absurd hnumber hdigit
    | literal => exact absurd rfl hquote
    | interpolated => exact absurd ⟨rfl, rfl⟩ hinterpolated
    | lineComment => exact absurd ⟨rfl, rfl⟩ hline
    | blockComment => exact absurd ⟨rfl, rfl⟩ hblock
    | operator hentry hhead => exact Or.inl ⟨_, hentry, hhead⟩
    | punctuation hscope => exact Or.inr ⟨_, hscope⟩

theorem blankOrCodeStep_whole (atStart afterType : Bool) :
    (blankOrCodeStep state atStart afterType c rest).Whole c rest := by
  simp only [blankOrCodeStep]
  split
  · rename_i hblank
    rw [Bool.and_eq_true] at hblank
    have hplain : (Step.mk (runLength isBlank rest) [] (.code afterType) state).Whole c rest :=
      Step.Whole.of_plain rfl (Or.inl ⟨hblank.right, rfl⟩)
    simp only [leadingBlanks]
    split_ifs
    · exact Step.Whole.of_run rfl rfl hblank.right rfl
    · exact hplain
    · exact hplain
  · rename_i hcode
    apply codeStep_whole
    intro hcomment
    simpa [hcomment] using hcode

theorem hexStep_whole : (hexStep state c rest).Whole c rest := by
  unfold hexStep
  split
  · rename_i hdigit
    exact Step.Whole.of_run rfl rfl hdigit rfl
  · exact blankOrCodeStep_whole state c rest false false

theorem numberStep_whole : (numberStep state c rest).Whole c rest := by
  unfold numberStep
  split_ifs with hdigit
  · exact Step.Whole.of_run rfl rfl hdigit rfl
  · exact Step.Whole.of_idle rfl
  · exact Step.Whole.of_idle rfl
  · exact Step.Whole.of_idle rfl
  · exact blankOrCodeStep_whole state c rest false false

theorem stringStep_whole (interpolated : Bool) :
    (stringStep state interpolated c rest).Whole c rest := by
  unfold stringStep
  split_ifs <;> exact Step.Whole.of_idle rfl

theorem interpolationStep_whole : (interpolationStep state c rest).Whole c rest := by
  unfold interpolationStep
  split_ifs with _hclose _hblank hword
  · exact Step.Whole.of_idle rfl
  · exact Step.Whole.of_idle rfl
  · exact Step.Whole.of_run rfl rfl (isWordChar_of_isWordStart hword) rfl
  · exact Step.Whole.of_idle rfl

theorem hashStep_whole : (hashStep state c rest).Whole c rest := by
  unfold hashStep
  split
  · rename_i hblank
    exact Step.Whole.of_plain rfl (Or.inl ⟨hblank, rfl⟩)
  · exact Step.Whole.of_idle rfl

theorem preprocessorStep_whole (message : Bool) :
    (preprocessorStep state message c rest).Whole c rest := by
  unfold preprocessorStep
  split_ifs with _hblank _hmessage hword
  · exact Step.Whole.of_idle rfl
  · exact Step.Whole.of_idle rfl
  · exact Step.Whole.of_run rfl rfl (isWordChar_of_isWordStart hword) rfl
  · exact Step.Whole.of_idle rfl

theorem directiveStep_whole : (directiveStep state c rest).Whole c rest := by
  simp only [directiveStep]
  split
  · rename_i hword
    cases hlookup : directives.lookup (c :: rest.take (runLength isWordChar rest)) with
    | none => exact Step.Whole.of_idle rfl
    | some scope =>
        have hentry := mem_of_lookup hlookup
        have hdirective : scope ∈ directives.map Prod.snd :=
          List.mem_map.mpr ⟨_, hentry, rfl⟩
        have hkind : runKind? [.metaPreprocessor, scope] = some isWordChar :=
          if_pos (Or.inr hdirective)
        exact Step.Whole.of_run hkind (runKind?_directives _ hentry) hword rfl
  · exact preprocessorStep_whole state c rest false

theorem step_whole (mode : Mode) : (step state mode c rest).Whole c rest := by
  cases mode with
  | lineStart => exact blankOrCodeStep_whole state c rest true false
  | code afterType => exact blankOrCodeStep_whole state c rest false afterType
  | lineComment => exact Step.Whole.of_idle rfl
  | hexDigits => exact hexStep_whole state c rest
  | number => exact numberStep_whole state c rest
  | string interpolated => exact stringStep_whole state c rest interpolated
  | interpolation => exact interpolationStep_whole state c rest
  | hash => exact hashStep_whole state c rest
  | directive => exact directiveStep_whole state c rest
  | preprocessor message => exact preprocessorStep_whole state c rest message

end Steps

/-!
# Tokens of a line
-/

structure MaximalRun (kind : Char -> Bool) (line : Text) (token : RawToken) : Prop where
  within : (token.textIn line).all kind = true
  stops : forall c, c ∈ (line.drop token.stop.toNat).head? -> kind c = false

/-- A token that takes as much of its line as its rule allows, behind the tokens in front of it. -/
structure LongestMatch (line : Text) (front : List RawToken) (token : RawToken) : Prop where
  operator : namesOperator token.innermost = true ->
    exists entry, entry ∈ operators ∧ token.textIn line = entry.1 ∧
      token.innermost = entry.2.raw ∧
      forall other, other ∈ operators -> other.1 <+: line.drop token.start.toNat ->
        other.1.length <= entry.1.length
  word : isWord (token.entryIn line) = true -> MaximalRun isWordChar line token
  directive : front.getLast?.any isSign = true ->
    (token.textIn line).head?.any isWordChar = true -> MaximalRun isWordChar line token
  run : forall inner kind, token.scopes = (Scope.source :: inner).map Scope.raw ->
    runKind? inner = some kind -> MaximalRun kind line token
  plain : token.scopes = [Scope.source.raw] ->
    MaximalRun isBlank line token ∨
      exists c, token.textIn line = [c] ∧ isBlank c = false ∧
        ¬ StartsCode (line.drop token.start.toNat)

theorem ComesTo.maximalRun {state : State} {line : Text} {position : Nat} {moment : Moment}
    (h : ComesTo state line position moment) {kind : Char -> Bool}
    (hhead : kind moment.head = true)
    (hextra : moment.step.extra = runLength kind moment.rest) :
    MaximalRun kind line (moment.lexeme.tokenAt position) := by
  refine ⟨?_, ?_⟩
  · rw [h.textIn, Moment.lexeme, hextra, take_runLength, List.all_cons, hhead, Bool.true_and]
    exact List.all_takeWhile
  · intro c hc
    have hstop : line.drop (position + moment.lexeme.text.length) =
        moment.rest.dropWhile kind := by
      rw [h.drop_behind, Moment.behind, hextra, drop_runLength]
    have hnone := List.head?_dropWhile_not kind moment.rest
    rw [Lexeme.tokenAt, Int.toNat_natCast, hstop] at hc
    rw [hc] at hnone
    exact hnone

theorem innermost_tokenAt (position : Nat) (lexeme : Lexeme) :
    (lexeme.tokenAt position).innermost = lexeme.innermost.raw :=
  congrArg Prod.snd lexeme.heard_eq

theorem mode_behind_sign {state : State} {mode : Mode} {c : Char} {rest : Text}
    (hsign : (step state mode c rest).inner.getLast? = some .punctuationSeparatorHash) :
    (step state mode c rest).mode = .directive := by
  cases hmode : mode with
  | hash =>
      rw [hmode] at hsign
      revert hsign
      show (hashStep state c rest).inner.getLast? = _ -> (hashStep state c rest).mode = _
      unfold hashStep
      split
      · intro hnone
        cases hnone
      · intro _hsign
        rfl
  | _ =>
      have hsilent : (step state mode c rest).silent = true :=
        step_silent state c rest (by simp [hmode])
      rw [Step.silent, hsign] at hsilent
      simp at hsilent

theorem getLast?_of_isSign {lexeme : Lexeme} {position : Nat}
    (hsign : isSign (lexeme.tokenAt position) = true) :
    lexeme.inner.getLast? = some .punctuationSeparatorHash := by
  rw [isSign, innermost_tokenAt, beq_iff_eq, Scope.raw_inj, Lexeme.innermost] at hsign
  cases hlast : lexeme.inner.getLast? with
  | none =>
      rw [hlast] at hsign
      cases hsign
  | some scope =>
      rw [hlast] at hsign
      exact congrArg some hsign

theorem mode_of_isSign {state : State} {mode : Mode} {text : Text} {passed coming : List Moment}
    {moment : Moment} (h : moments state mode 0 text = passed ++ moment :: coming)
    (hsign : (Lexeme.rawTokens 0 (passed.map Moment.lexeme)).getLast?.any isSign = true) :
    moment.mode = .directive := by
  rcases List.eq_nil_or_concat' passed with rfl | ⟨others, last, rfl⟩
  · cases hsign
  · have hlast : (Lexeme.rawTokens 0 ((others ++ [last]).map Moment.lexeme)).getLast? =
        some (last.lexeme.tokenAt (Lexeme.width (others.map Moment.lexeme))) := by
      rw [List.map_append, rawTokens_append, Nat.zero_add]
      exact List.getLast?_concat
    rw [hlast] at hsign
    rw [List.append_assoc, List.singleton_append] at h
    rcases moments_eq_cons (moments_behind h) with ⟨_htext, _hstate, hmode, _hmore⟩
    rw [hmode]
    exact mode_behind_sign (getLast?_of_isSign hsign)

theorem directiveStep_extra (state : State) {c : Char} (rest : Text) (hc : isWordChar c = true) :
    (directiveStep state c rest).extra = runLength isWordChar rest := by
  simp only [directiveStep]
  rw [if_pos hc]

theorem isWordStart_of_isWord {moment : Moment} (h : isWord moment.lexeme.entry = true) :
    isWordStart moment.head = true := by
  rw [isWord, Bool.and_eq_true] at h
  exact h.left

/-- Every token of a line is as long as its rule allows: operators are the longest ones ahead, words
and runs of digits and of blanks end where their characters do, and nothing that begins something
in code is reported as meaningless. -/
theorem every_token_longest {before : Option State} {line : Text} {front back : List RawToken}
    {token : RawToken} (htokens : (grammar line before).tokens = front ++ token :: back) :
    LongestMatch line front token := by
  rcases moments_of_tokens htokens with ⟨passed, coming, moment, hmoments, rfl, rfl, _hback⟩
  have hcomes : ComesTo (before.getD {}) line (Lexeme.width (passed.map Moment.lexeme)) moment :=
    ⟨passed, coming, hmoments, rfl⟩
  have hwhole : moment.step.Whole moment.head moment.rest :=
    step_whole moment.state moment.head moment.rest moment.mode
  have hahead : line.drop (moment.lexeme.tokenAt
      (Lexeme.width (passed.map Moment.lexeme))).start.toNat = moment.head :: moment.rest :=
    hcomes.drop_eq
  refine ⟨?_, ?_, ?_, ?_, ?_⟩
  · intro hname
    rw [innermost_tokenAt] at hname ⊢
    have hoperator := isOperator_of_name _ (Scope.mem_all _) hname
    cases hlast : moment.lexeme.inner.getLast? with
    | none =>
        rw [Lexeme.innermost, hlast] at hoperator
        cases hoperator
    | some scope =>
        have hinnermost : moment.lexeme.innermost = scope := by
          rw [Lexeme.innermost, hlast]
          rfl
        rw [hinnermost] at hoperator ⊢
        rcases hwhole.operator scope hlast hoperator with ⟨text, hfound, hextra⟩
        rcases operator?_longest hfound with ⟨hentry, hlongest⟩
        rw [hahead, hcomes.textIn]
        refine ⟨(text, scope), hentry, ?_, rfl, hlongest⟩
        rw [Moment.lexeme, hextra]
        exact take_operator hfound
  · intro hword
    have hentry : (moment.lexeme.tokenAt (Lexeme.width (passed.map Moment.lexeme))).entryIn line =
        moment.lexeme.entry := Prod.ext hcomes.textIn rfl
    rw [hentry] at hword
    rcases moment.sorted with htakes | hwordless
    · have hextra : moment.step.extra = runLength isWordChar moment.rest := by
        rw [htakes.step_eq, wordStep_extra]
      exact hcomes.maximalRun (isWordChar_of_isWordStart (isWordStart_of_isWord hword)) hextra
    · exact absurd (hword.symm.trans hwordless.isWord_eq) Bool.true_eq_false.mp
  · intro hsign hhead
    have hmode := mode_of_isSign hmoments hsign
    rw [hcomes.textIn] at hhead
    have hextra : moment.step.extra = runLength isWordChar moment.rest := by
      rw [Moment.step, hmode]
      exact directiveStep_extra moment.state moment.rest hhead
    exact hcomes.maximalRun hhead hextra
  · intro inner kind hscopes hkind
    rw [← inner_of_scopes hscopes] at hkind
    rcases hwhole.run kind hkind with ⟨hhead, hextra⟩
    exact hcomes.maximalRun hhead hextra
  · intro hscopes
    have hnames : moment.lexeme.scopes.map Scope.raw = [Scope.source].map Scope.raw := hscopes
    have hinner : moment.step.inner = [] := inner_of_scopes hnames
    rcases hwhole.plain hinner with ⟨hblank, hextra⟩ | ⟨hvisible, hextra, hnot⟩
    · exact Or.inl (hcomes.maximalRun hblank hextra)
    · refine Or.inr ⟨moment.head, ?_, hvisible, ?_⟩
      · rw [hcomes.textIn, Moment.lexeme, hextra]
        rfl
      · rw [hahead]
        exact hnot

theorem shift_assignment_longest :
    (grammar "a>>=b".toList none).tokens =
        (grammar "a>>=b".toList none).tokens.take 1 ++
          { start := 1, stop := 4,
            scopes := [Scope.source.raw, Scope.keywordOperatorAssignmentCompoundBitwise.raw] } ::
            (grammar "a>>=b".toList none).tokens.drop 2 ∧
      LongestMatch "a>>=b".toList ((grammar "a>>=b".toList none).tokens.take 1)
        { start := 1, stop := 4,
          scopes := [Scope.source.raw, Scope.keywordOperatorAssignmentCompoundBitwise.raw] } := by
  have htokens : (grammar "a>>=b".toList none).tokens =
      (grammar "a>>=b".toList none).tokens.take 1 ++
        { start := 1, stop := 4,
          scopes := [Scope.source.raw, Scope.keywordOperatorAssignmentCompoundBitwise.raw] } ::
          (grammar "a>>=b".toList none).tokens.drop 2 := by
    decide +kernel
  exact ⟨htokens, every_token_longest htokens⟩

end Mana
end ScopeProbe
