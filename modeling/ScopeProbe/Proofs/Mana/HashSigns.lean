import ScopeProbe.Proofs.Mana.Events
import ScopeProbe.Proofs.Mana.Surroundings
import ScopeProbe.Taxonomy

/-!
# Hash signs

Whether a line is one of the preprocessor is told with all white space in mind,
but the indentation that is taken off such a line is one of spaces and tabs.
What is behind it is reported as the hash sign, whatever it is.  So each
preprocessor line has exactly one token in the scope of hash signs, no other
line has one, and the token is the hash sign just where the line is indented by
spaces and tabs.
-/

namespace ScopeProbe
namespace Mana

/-!
# Steps that report no hash sign

Only the step that waits for the hash sign reports one, and no other step comes
to wait for it.
-/

/-- A step that neither reports a hash sign nor waits for one. -/
def Step.silent (next : Step) : Bool :=
  next.inner.getLast? != some .punctuationSeparatorHash && next.mode != .hash

theorem silent_operators :
    forall entry, entry ∈ operators -> entry.2 ≠ .punctuationSeparatorHash := by
  decide

theorem silent_punctuation :
    forall entry, entry ∈ punctuation -> entry.2 ≠ .punctuationSeparatorHash := by
  decide

theorem silent_reservedWords :
    forall entry, entry ∈ reservedWords -> entry.2.scope ≠ .punctuationSeparatorHash := by
  decide

theorem silent_directives :
    forall entry, entry ∈ directives -> entry.2 ≠ .punctuationSeparatorHash := by
  decide

theorem silent_single {extra : Nat} {scope : Scope} {mode : Mode} {state : State}
    (hscope : scope ≠ .punctuationSeparatorHash) (hmode : mode ≠ .hash) :
    (Step.mk extra [scope] mode state).silent = true := by
  simp [Step.silent, hscope, hmode]

section Steps

variable (state : State) (c : Char) (rest : Text)

theorem commentStep_silent : (commentStep state c rest).silent = true := by
  unfold commentStep
  split <;> rfl

theorem identifierScope_ne (afterType : Bool) :
    identifierScope state afterType rest ≠ .punctuationSeparatorHash := by
  unfold identifierScope
  split_ifs <;> decide

theorem wordStep_silent (afterType : Bool) :
    (wordStep state afterType c rest).silent = true := by
  simp only [wordStep]
  split
  · rename_i word hword
    exact silent_single (silent_reservedWords _ (mem_of_lookup hword)) (by simp)
  · split
    · rename_i kind _hkind
      cases kind <;> rfl
    · exact silent_single (identifierScope_ne _ _ _) (by simp)

theorem numberStart_silent : (numberStart state c rest).silent = true := by
  unfold numberStart
  split <;> rfl

theorem symbolStep_silent : (symbolStep state c rest).silent = true := by
  unfold symbolStep
  split
  · rename_i operator scope hoperator
    exact silent_single (silent_operators _ (List.mem_of_find?_eq_some hoperator)) (by simp)
  · split
    · rename_i scope hscope
      exact silent_single (silent_punctuation _ (mem_of_lookup hscope)) (by simp)
    · rfl

theorem codeStep_silent (afterType : Bool) : (codeStep state afterType c rest).silent = true := by
  unfold codeStep
  split_ifs
  · exact commentStep_silent state c rest
  · rfl
  · rfl
  · rfl
  · rfl
  · exact numberStart_silent state c rest
  · exact wordStep_silent state c rest afterType
  · exact symbolStep_silent state c rest

theorem blankOrCodeStep_silent (atStart afterType : Bool) :
    (blankOrCodeStep state atStart afterType c rest).silent = true := by
  simp only [blankOrCodeStep, leadingBlanks]
  split
  · split_ifs <;> rfl
  · exact codeStep_silent state c rest afterType

theorem hexStep_silent : (hexStep state c rest).silent = true := by
  unfold hexStep
  split
  · rfl
  · exact blankOrCodeStep_silent state c rest false false

theorem numberStep_silent : (numberStep state c rest).silent = true := by
  unfold numberStep
  split_ifs
  · rfl
  · rfl
  · rfl
  · rfl
  · exact blankOrCodeStep_silent state c rest false false

theorem stringStep_silent (interpolated : Bool) :
    (stringStep state interpolated c rest).silent = true := by
  unfold stringStep
  split_ifs <;> rfl

theorem interpolationStep_silent : (interpolationStep state c rest).silent = true := by
  unfold interpolationStep
  split_ifs <;> rfl

theorem preprocessorStep_silent (message : Bool) :
    (preprocessorStep state message c rest).silent = true := by
  unfold preprocessorStep
  split_ifs <;> rfl

theorem directiveStep_silent : (directiveStep state c rest).silent = true := by
  simp only [directiveStep]
  split
  · cases hword : directives.lookup (c :: rest.take (runLength isWordChar rest)) with
    | none => rfl
    | some scope =>
        have hscope := silent_directives _ (mem_of_lookup hword)
        simp [Step.silent, hscope]
  · exact preprocessorStep_silent state c rest false

theorem step_silent {mode : Mode} (hmode : mode ≠ .hash) :
    (step state mode c rest).silent = true := by
  cases mode with
  | lineStart => exact blankOrCodeStep_silent state c rest true false
  | code afterType => exact blankOrCodeStep_silent state c rest false afterType
  | lineComment => rfl
  | hexDigits => exact hexStep_silent state c rest
  | number => exact numberStep_silent state c rest
  | string interpolated => exact stringStep_silent state c rest interpolated
  | interpolation => exact interpolationStep_silent state c rest
  | hash => exact absurd rfl hmode
  | directive => exact directiveStep_silent state c rest
  | preprocessor message => exact preprocessorStep_silent state c rest message

end Steps

/-!
# Lexemes of a line
-/

def Lexeme.isSign (lexeme : Lexeme) : Bool :=
  lexeme.inner.getLast? == some .punctuationSeparatorHash

theorem Lexeme.isSign_eq_false {moment : Moment} (hsilent : moment.step.silent = true) :
    moment.lexeme.isSign = false := by
  rw [Step.silent, Bool.and_eq_true, bne_iff_ne] at hsilent
  rw [isSign, beq_eq_false_iff_ne]
  exact hsilent.left

theorem signs_scan {state : State} {mode : Mode} (hmode : mode ≠ .hash) (text : Text) :
    forall lexeme, lexeme ∈ (scan state mode 0 text).1 -> lexeme.isSign = false := by
  induction state, mode, text using moment_induction with
  | done state mode =>
      intro lexeme hlexeme
      cases hlexeme
  | next moment ih =>
      have hsilent : moment.step.silent = true :=
        step_silent moment.state moment.head moment.rest hmode
      have hnext : moment.step.mode ≠ .hash := by
        rw [Step.silent, Bool.and_eq_true] at hsilent
        simpa using hsilent.right
      intro lexeme hlexeme
      rw [scan_moment] at hlexeme
      rcases List.mem_cons.mp hlexeme with rfl | hmore
      · exact Lexeme.isSign_eq_false hsilent
      · exact ih hnext lexeme hmore

def signLexeme (c : Char) : Lexeme where
  text := [c]
  inner := [.metaPreprocessor, .punctuationSeparatorHash]

theorem scan_sign {state : State} {c : Char} (hc : isBlank c = false) (rest : Text) :
    (scan state .hash 0 (c :: rest)).1 = signLexeme c :: (scan state .directive 0 rest).1 := by
  have hstep : step state .hash c rest =
      ⟨0, [.metaPreprocessor, .punctuationSeparatorHash], .directive, state⟩ := by
    show hashStep state c rest = _
    rw [hashStep, if_neg (by simp [hc])]
  rw [scan, hstep]
  rfl

def blankLexemes (inner : List Scope) (text : Text) : List Lexeme :=
  if text.takeWhile isBlank = [] then [] else [{ text := text.takeWhile isBlank, inner }]

theorem flatten_blankLexemes (inner : List Scope) (text : Text) :
    ((blankLexemes inner text).map Lexeme.text).flatten = text.takeWhile isBlank := by
  rw [blankLexemes]
  split_ifs with hnone
  · exact hnone.symm
  · exact List.append_nil _

theorem of_mem_blankLexemes {inner : List Scope} {text : Text} {lexeme : Lexeme}
    (hlexeme : lexeme ∈ blankLexemes inner text) :
    lexeme.text.all isBlank = true ∧ lexeme.inner = inner := by
  rw [blankLexemes] at hlexeme
  split_ifs at hlexeme with hnone
  · cases hlexeme
  · rw [List.mem_singleton.mp hlexeme]
    exact ⟨List.all_takeWhile, rfl⟩

theorem scan_blanks {state : State} {mode : Mode} {inner : List Scope}
    (hstep : forall c rest, isBlank c = true ->
      step state mode c rest = ⟨runLength isBlank rest, inner, mode, state⟩) (text : Text) :
    (scan state mode 0 text).1 =
      blankLexemes inner text ++ (scan state mode 0 (text.dropWhile isBlank)).1 := by
  cases text with
  | nil => rfl
  | cons c rest =>
      cases hc : isBlank c with
      | true =>
          rw [scan_run (hstep c rest hc), blankLexemes, List.takeWhile_cons_of_pos hc,
            List.dropWhile_cons_of_pos hc, if_neg (List.cons_ne_nil _ _)]
          rfl
      | false =>
          have hnone : (c :: rest).takeWhile isBlank = [] :=
            List.takeWhile_cons_of_neg (by simp [hc])
          rw [blankLexemes, if_pos hnone, List.dropWhile_cons_of_neg (by simp [hc])]
          rfl

theorem lexLine_sign {state : State} (hcode : state.inComment = false) {line : Text}
    (hline : isPreprocessorLine line = true) {c : Char} {rest : Text}
    (hrest : line.dropWhile isBlank = c :: rest) :
    (lexLine state line).1 =
      blankLexemes [] line ++ signLexeme c :: (scan state .directive 0 rest).1 := by
  have hc : isBlank c = false := head?_dropWhile_isBlank line c (by rw [hrest]; rfl)
  have hmode : startMode state line = .hash := by
    rw [startMode, hcode, hline]
    rfl
  have hblanks : forall d more, isBlank d = true ->
      step state .hash d more = ⟨runLength isBlank more, [], .hash, state⟩ := by
    intro d more hd
    exact if_pos hd
  rw [lexLine, hmode, scan_blanks hblanks, hrest, scan_sign hc]

/-!
# Tokens of a line
-/

def isSign (token : RawToken) : Bool :=
  token.innermost == Scope.punctuationSeparatorHash.raw

def signToken (position : Nat) : RawToken where
  start := position
  stop := (position + 1 : Nat)
  scopes := [Scope.source, .metaPreprocessor, .punctuationSeparatorHash].map Scope.raw

theorem signs_rawTokens {start : Nat} {lexemes : List Lexeme}
    (hsilent : forall lexeme, lexeme ∈ lexemes -> lexeme.isSign = false) :
    forall token, token ∈ Lexeme.rawTokens start lexemes -> isSign token = false := by
  intro token htoken
  rcases Lexeme.mem_rawTokens_scopes htoken with ⟨lexeme, hlexeme, hscopes⟩
  have hscope : lexeme.innermost ≠ .punctuationSeparatorHash := by
    intro hsame
    have hnot := hsilent lexeme hlexeme
    rw [Lexeme.isSign, beq_eq_false_iff_ne] at hnot
    cases hlast : lexeme.inner.getLast? with
    | none =>
        rw [Lexeme.innermost, hlast] at hsame
        cases hsame
    | some scope =>
        rw [Lexeme.innermost, hlast] at hsame
        exact hnot (hlast.trans (congrArg some hsame))
  have hname : token.innermost = lexeme.innermost.raw := by
    rw [RawToken.innermost, hscopes]
    exact congrArg Prod.snd lexeme.heard_eq
  rw [isSign, hname, beq_eq_false_iff_ne]
  exact fun hraw => hscope (Scope.raw_injective hraw)

theorem tokens_sign {before : Option State} (hcode : (before.getD {}).inComment = false)
    {line : Text} (hline : isPreprocessorLine line = true) {c : Char} {rest : Text}
    (hrest : line.dropWhile isBlank = c :: rest) :
    exists front : List RawToken, (forall token, token ∈ front -> isSign token = false) ∧
      (grammar line before).tokens =
        front ++ signToken (line.takeWhile isBlank).length ::
          Lexeme.rawTokens ((line.takeWhile isBlank).length + 1)
            (scan (before.getD {}) .directive 0 rest).1 := by
  have hsilent : forall lexeme, lexeme ∈ blankLexemes [] line -> lexeme.isSign = false := by
    intro lexeme hlexeme
    rw [Lexeme.isSign, (of_mem_blankLexemes hlexeme).right]
    rfl
  refine ⟨Lexeme.rawTokens 0 (blankLexemes [] line), signs_rawTokens hsilent, ?_⟩
  rw [grammar_tokens, lexLine_sign hcode hline hrest, rawTokens_append, flatten_blankLexemes,
    Nat.zero_add]
  rfl

theorem filter_sign {before : Option State} (hcode : (before.getD {}).inComment = false)
    {line : Text} (hline : isPreprocessorLine line = true) :
    (grammar line before).tokens.filter isSign =
      [signToken (line.takeWhile isBlank).length] := by
  cases hrest : line.dropWhile isBlank with
  | nil =>
      rw [← isPreprocessorLine_dropWhile, hrest] at hline
      cases hline
  | cons c rest =>
      rcases tokens_sign hcode hline hrest with ⟨front, hfront, htokens⟩
      have hback : forall token,
          token ∈ Lexeme.rawTokens ((line.takeWhile isBlank).length + 1)
            (scan (before.getD {}) .directive 0 rest).1 -> isSign token = false :=
        signs_rawTokens (signs_scan (by simp) rest)
      have hsign : isSign (signToken (line.takeWhile isBlank).length) = true := by
        rw [isSign, beq_iff_eq]
        rfl
      rw [htokens, List.filter_append, List.filter_cons_of_pos hsign,
        List.filter_eq_nil_iff.mpr fun token htoken => by simp [hfront token htoken],
        List.filter_eq_nil_iff.mpr fun token htoken => by simp [hback token htoken]]
      rfl

theorem exists_sign_iff {before : Option State} (hcode : (before.getD {}).inComment = false)
    (line : Text) :
    (exists token, token ∈ (grammar line before).tokens ∧ isSign token = true) <->
      isPreprocessorLine line = true := by
  constructor
  · rintro ⟨token, htoken, hsign⟩
    by_contra hline
    have hmode : startMode (before.getD {}) line ≠ .hash := by
      rw [startMode, hcode, Bool.not_false, Bool.true_and, if_neg hline]
      simp
    rw [grammar_tokens] at htoken
    rw [signs_rawTokens (signs_scan hmode line) token htoken] at hsign
    cases hsign
  · intro hline
    have hmember : signToken (line.takeWhile isBlank).length ∈
        (grammar line before).tokens.filter isSign := by
      rw [filter_sign hcode hline]
      exact List.mem_singleton_self _
    exact ⟨_, List.mem_filter.mp hmember⟩

/-!
# The hash sign in its place
-/

def indentation (line : Text) : Text :=
  line.takeWhile Unicode.isBlank

def wordBehindSign (line : Text) : Text :=
  ((line.dropWhile Unicode.isBlank).drop 1).takeWhile isWordChar

theorem indentation_eq {line : Text} (hblank : (indentation line).all isBlank = true) :
    indentation line = line.takeWhile isBlank ∧
      line.dropWhile Unicode.isBlank = line.dropWhile isBlank := by
  induction line with
  | nil => exact ⟨rfl, rfl⟩
  | cons c rest ih =>
      cases hc : Unicode.isBlank c with
      | false =>
          have hnot : isBlank c = false := by
            by_contra hblank
            rw [Bool.not_eq_false] at hblank
            rw [unicode_of_isBlank hblank] at hc
            cases hc
          rw [indentation]
          simp [hc, hnot]
      | true =>
          rw [indentation, List.takeWhile_cons_of_pos hc, List.all_cons, Bool.and_eq_true]
            at hblank
          rcases ih hblank.right with ⟨hindentation, hbehind⟩
          rw [indentation] at hindentation ⊢
          rw [List.takeWhile_cons_of_pos hc, List.takeWhile_cons_of_pos hblank.left,
            List.dropWhile_cons_of_pos hc, List.dropWhile_cons_of_pos hblank.left, hindentation,
            hbehind]
          exact ⟨rfl, rfl⟩

theorem blank_of_sign {line rest : Text} (hrest : line.dropWhile isBlank = '#' :: rest) :
    (indentation line).all isBlank = true := by
  have hline : line = line.takeWhile isBlank ++ '#' :: rest := by
    rw [← hrest, List.takeWhile_append_dropWhile]
  have hblank : forall c, c ∈ line.takeWhile isBlank -> isBlank c = true :=
    List.all_eq_true.mp List.all_takeWhile
  have hindentation : indentation line = line.takeWhile isBlank := by
    calc
      indentation line =
          (line.takeWhile isBlank ++ '#' :: rest).takeWhile Unicode.isBlank := by
        rw [← hline]
        rfl
      _ = line.takeWhile isBlank ++ ('#' :: rest).takeWhile Unicode.isBlank :=
        List.takeWhile_append_of_pos fun c hc => unicode_of_isBlank (hblank c hc)
      _ = line.takeWhile isBlank := List.append_nil _
  rw [hindentation]
  exact List.all_eq_true.mpr hblank

theorem textIn_sign {line rest : Text} {c : Char}
    (hrest : line.dropWhile isBlank = c :: rest) :
    (signToken (line.takeWhile isBlank).length).textIn line = [c] := by
  have hline : line = line.takeWhile isBlank ++ c :: rest := by
    rw [← hrest, List.takeWhile_append_dropWhile]
  generalize line.takeWhile isBlank = front at hline ⊢
  rw [hline]
  exact Text.cut_middle front [c] rest

theorem scan_directive (state : State) {rest : Text} {scope : Scope}
    (hword : directives.lookup (rest.takeWhile isWordChar) = some scope) :
    exists more, (scan state .directive 0 rest).1 =
      { text := rest.takeWhile isWordChar, inner := [.metaPreprocessor, scope] } :: more := by
  cases rest with
  | nil => cases hword
  | cons c rest =>
      cases hc : isWordChar c with
      | false =>
          rw [List.takeWhile_cons_of_neg (by simp [hc])] at hword
          cases hword
      | true =>
          rw [List.takeWhile_cons_of_pos hc] at hword ⊢
          have hstep : step state .directive c rest =
              ⟨runLength isWordChar rest, [.metaPreprocessor, scope],
                .preprocessor (messageDirectives.contains (c :: rest.takeWhile isWordChar)),
                state⟩ := by
            show directiveStep state c rest = _
            simp only [directiveStep]
            rw [if_pos hc, take_runLength, hword]
            rfl
          rw [scan_run hstep]
          exact ⟨_, rfl⟩

/-- The tokens of a line tell its hash sign: there is a hash token just where a hash sign is the
first character that is not white space, only one, at that character, it is the taxonomy's
constant, and the name of a directive behind it is told as such. -/
structure SignTold (line : Text) (tokens : List RawToken) : Prop where
  told : (exists token, token ∈ tokens ∧ isSign token = true) <-> isPreprocessorLine line = true
  sign : isPreprocessorLine line = true ->
    exists token constant, tokens.filter isSign = [token] ∧
      token.start = (indentation line).length ∧ token.textIn line = ['#'] ∧
      Taxonomy.token "Punctuation.Hash" none = .ok constant ∧
      forall index, token.classify true index line = .ok (some constant)
  directive : isPreprocessorLine line = true ->
    forall scope, directives.lookup (wordBehindSign line) = some scope ->
      exists token, token ∈ tokens ∧ token.start = (indentation line).length + 1 ∧
        token.textIn line = wordBehindSign line ∧ token.innermost = scope.raw

theorem token_hash :
    Taxonomy.token "Punctuation.Hash" none =
      .ok { text := ['#'], scope := .punctuationSeparatorHash } := by
  rfl

theorem signTold_of_blank {before : Option State} (hcode : (before.getD {}).inComment = false)
    {line : Text}
    (hblank : isPreprocessorLine line = true -> (indentation line).all isBlank = true) :
    SignTold line (grammar line before).tokens := by
  have hsplit (hline : isPreprocessorLine line = true) :
      indentation line = line.takeWhile isBlank ∧
        exists rest, line.dropWhile isBlank = '#' :: rest ∧
          wordBehindSign line = rest.takeWhile isWordChar := by
    rcases indentation_eq (hblank hline) with ⟨hindentation, hbehind⟩
    rw [isPreprocessorLine, hbehind, beq_iff_eq] at hline
    refine ⟨hindentation, (line.dropWhile isBlank).tail, ?_, ?_⟩
    · exact (List.cons_head?_tail hline).symm
    · rw [wordBehindSign, hbehind, List.drop_one]
  refine ⟨exists_sign_iff hcode line, ?_, ?_⟩
  · intro hline
    rcases hsplit hline with ⟨hindentation, rest, hrest, _hword⟩
    have htext := textIn_sign hrest
    refine ⟨_, _, filter_sign hcode hline, ?_, htext, token_hash, ?_⟩
    · rw [hindentation]
      rfl
    · intro index
      apply classify_eq_ok
      rw [htext]
      exact classifyLexeme_raw true ['#'] .punctuationSeparatorHash
  · intro hline scope hscope
    rcases hsplit hline with ⟨hindentation, rest, hrest, hword⟩
    rw [hword] at hscope ⊢
    rcases tokens_sign hcode hline hrest with ⟨front, _hfront, htokens⟩
    rcases scan_directive (before.getD {}) hscope with ⟨more, hscan⟩
    rw [htokens, hscan, Lexeme.rawTokens]
    refine ⟨_, List.mem_append_right _ (List.mem_cons_of_mem _ List.mem_cons_self), ?_, ?_, ?_⟩
    · rw [hindentation]
      rfl
    · have hline : line =
          (line.takeWhile isBlank ++ ['#']) ++
            (rest.takeWhile isWordChar ++ rest.dropWhile isWordChar) := by
        rw [List.takeWhile_append_dropWhile, List.append_assoc, List.singleton_append, ← hrest,
          List.takeWhile_append_dropWhile]
      have hcut := Text.cut_middle (line.takeWhile isBlank ++ ['#']) (rest.takeWhile isWordChar)
        (rest.dropWhile isWordChar)
      rw [← hline, List.length_append] at hcut
      exact hcut
    · rfl

/-- Outside of block comments just the lines of the preprocessor have a hash token.  Each of them
has one, behind its spaces and tabs, and it is the hash sign if and only if all the white space in
front of the sign is spaces and tabs. -/
theorem sign_told_iff {before : Option State} (hcode : (before.getD {}).inComment = false)
    (line : Text) :
    ((exists token, token ∈ (grammar line before).tokens ∧ isSign token = true) <->
        isPreprocessorLine line = true) ∧
      (isPreprocessorLine line = true ->
        (grammar line before).tokens.filter isSign =
            [signToken (line.takeWhile isBlank).length] ∧
          exists c rest, line.dropWhile isBlank = c :: rest ∧
            (signToken (line.takeWhile isBlank).length).textIn line = [c]) ∧
      (SignTold line (grammar line before).tokens <->
        (isPreprocessorLine line = true -> (indentation line).all isBlank = true)) := by
  refine ⟨exists_sign_iff hcode line, ?_, ?_, ?_⟩
  · intro hline
    refine ⟨filter_sign hcode hline, ?_⟩
    cases hrest : line.dropWhile isBlank with
    | nil =>
        rw [← isPreprocessorLine_dropWhile, hrest] at hline
        cases hline
    | cons c rest => exact ⟨c, rest, rfl, textIn_sign hrest⟩
  · intro htold hline
    rcases htold.sign hline with ⟨token, _constant, hfilter, _hstart, htext, _hconstant⟩
    rw [filter_sign hcode hline] at hfilter
    cases hrest : line.dropWhile isBlank with
    | nil =>
        rw [← isPreprocessorLine_dropWhile, hrest] at hline
        cases hline
    | cons c rest =>
        cases hfilter
        rw [textIn_sign hrest] at htext
        cases htext
        exact blank_of_sign hrest
  · exact signTold_of_blank hcode

theorem indented_sign_told :
    ((none : Option State).getD {}).inComment = false ∧
      SignTold "\t #if DEBUG".toList (grammar "\t #if DEBUG".toList none).tokens := by
  have hblank : (indentation "\t #if DEBUG".toList).all isBlank = true := by decide
  exact ⟨rfl, (sign_told_iff rfl _).right.right.mpr fun _hline => hblank⟩

/-- Behind a form feed a hash sign makes the line one of the preprocessor, and then the form feed
itself is reported as the hash sign. -/
theorem form_feed_told_as_sign :
    isPreprocessorLine "\x0c#if".toList = true ∧
      ((grammar "\x0c#if".toList none).tokens.filter isSign).map
          (fun token => token.textIn "\x0c#if".toList) = [['\x0c']] ∧
      ¬ SignTold "\x0c#if".toList (grammar "\x0c#if".toList none).tokens := by
  have hline : isPreprocessorLine "\x0c#if".toList = true := by decide
  have htexts : ((grammar "\x0c#if".toList none).tokens.filter isSign).map
      (fun token => token.textIn "\x0c#if".toList) = [['\x0c']] := by
    decide +kernel
  refine ⟨hline, htexts, ?_⟩
  intro htold
  rcases htold.sign hline with ⟨token, _constant, hfilter, _hstart, htext, _hconstant⟩
  rw [hfilter, List.map_singleton, htext] at htexts
  exact absurd htexts (by decide)

end Mana
end ScopeProbe
