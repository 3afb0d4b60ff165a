import ScopeProbe.Proofs.Mana.Events

/-!
# Words of code

A word stands in code, outside of literals, comments and preprocessor lines.
Which tokens are words can be seen from their texts and scopes, and these are
the tokens that the lexer takes as words: every other step leaves a waiting
declaration alone and keeps a type in mind over blanks only.
-/

namespace ScopeProbe
namespace Mana

/-!
# Tokens that are words
-/

def enclosing : List Scope :=
  [.commentLineDoubleSlash, .commentBlock, .stringQuotedDouble, .metaPreprocessor,
    .constantNumericDecimal, .constantNumericHex]

/-- A token, by its text and the names of its scopes, is a word of code if it begins as words do and
none of the scopes encloses it. -/
def isWord (entry : Text × List String) : Bool :=
  entry.1.head?.any isWordStart &&
    entry.2.all fun name => !(enclosing.map Scope.raw).contains name

def reservedIn? (entry : Text × List String) : Option Reserved :=
  if isWord entry then reserved? entry.1 else none

def isIdentifier (entry : Text × List String) : Bool :=
  isWord entry && (reserved? entry.1).isNone

def keyword? (entry : Text × List String) : Option Declaration :=
  match reservedIn? entry with
  | some (.declaration kind) => some kind
  | _ => none

def namesType (entry : Text × List String) : Bool :=
  (reservedIn? entry).any Reserved.namesType

/-!
# Steps that take words

A step in code takes a word if its first character begins words.  Any other
step takes a token that is no word, leaves a waiting declaration alone, and
keeps a type in mind only over blanks.
-/

theorem isWord_raw (c : Char) (more : Text) (inner : List Scope) :
    isWord (c :: more, (Scope.source :: inner).map Scope.raw) =
      (isWordStart c && inner.all fun scope => !enclosing.contains scope) := by
  have hcontains (scope : Scope) :
      (enclosing.map Scope.raw).contains scope.raw = enclosing.contains scope := by
    rw [Bool.eq_iff_iff, List.contains_iff_mem, List.contains_iff_mem,
      List.mem_map_of_injective Scope.raw_injective]
  have hnames :
      (fun name => !(enclosing.map Scope.raw).contains name) ∘ Scope.raw =
        fun scope => !enclosing.contains scope :=
    funext fun scope => congrArg not (hcontains scope)
  have hsource : (!enclosing.contains .source) = true := by decide
  rw [isWord, List.all_map, hnames, List.all_cons, hsource, Bool.true_and]
  rfl

theorem isWordStart_of_isBlank {c : Char} (h : isBlank c = true) : isWordStart c = false := by
  rw [isBlank, Bool.or_eq_true, beq_iff_eq, beq_iff_eq] at h
  rcases h with rfl | rfl <;> decide +kernel

theorem all_isBlank_of_isWord {entry : Text × List String} (h : isWord entry = true) :
    entry.1.all isBlank = false := by
  rcases entry with ⟨text, names⟩
  cases text with
  | nil => cases h
  | cons c more =>
      rw [isWord, Bool.and_eq_true] at h
      have hstart : isWordStart c = true := h.left
      have hvisible : isBlank c = false := by
        rw [← Bool.not_eq_true]
        intro hblank
        rw [isWordStart_of_isBlank hblank] at hstart
        cases hstart
      rw [List.all_cons, hvisible, Bool.false_and]

def Mode.afterType : Mode -> Bool
  | .code afterType => afterType
  | _ => false

structure Wordless (state : State) (mode : Mode) (c : Char) (more : Text) (next : Step) :
    Prop where
  isWord_eq : isWord (c :: more, (Scope.source :: next.inner).map Scope.raw) = false
  pending : next.state.pending = state.pending
  afterType : (state.inComment = true -> mode.afterType = false) ->
    next.mode.afterType = (mode.afterType && (c :: more).all isBlank)
  inComment : next.mode.afterType = true -> next.state.inComment = false

namespace Wordless

variable {state : State} {mode : Mode} {c : Char} {more : Text} {next : Step}

theorem of_forgetful (hword : isWordStart c = false ∨ next.inner.any enclosing.contains = true)
    (hpending : next.state.pending = state.pending) (hmode : next.mode.afterType = false)
    (hblank : mode.afterType = false ∨ isBlank c = false ∨ state.inComment = true) :
    Wordless state mode c more next where
  isWord_eq := by
    rw [isWord_raw]
    rcases hword with hstart | henclosed
    · rw [hstart, Bool.false_and]
    · rw [← List.not_any_eq_all_not, henclosed, Bool.not_true, Bool.and_false]
  pending := hpending
  afterType := by
    intro hcomment
    rw [hmode]
    rcases hblank with hnone | hvisible | hinside
    · rw [hnone, Bool.false_and]
    · rw [List.all_cons, hvisible, Bool.false_and, Bool.and_false]
    · rw [hcomment hinside, Bool.false_and]
  inComment := by
    intro htype
    rw [hmode] at htype
    cases htype

theorem of_blanks (hstate : next.state = state) (hcode : state.inComment = false)
    (hblank : (c :: more).all isBlank = true) (hmode : next.mode.afterType = mode.afterType) :
    Wordless state mode c more next where
  isWord_eq := by
    rw [List.all_cons, Bool.and_eq_true] at hblank
    rw [isWord_raw, isWordStart_of_isBlank hblank.left, Bool.false_and]
  pending := congrArg State.pending hstate
  afterType := by
    intro _hcomment
    rw [hmode, hblank, Bool.and_true]
  inComment := by
    intro _htype
    rw [hstate]
    exact hcode

end Wordless

def Sorted (state : State) (mode : Mode) (c : Char) (rest : Text) (next : Step) : Prop :=
  (isWordStart c = true ∧ state.inComment = false ∧
      next = wordStep state mode.afterType c rest) ∨
    Wordless state mode c (rest.take next.extra) next

theorem Sorted.of_enclosed {state : State} {mode : Mode} {c : Char} {rest : Text} {next : Step}
    (henclosed : next.inner.any enclosing.contains = true)
    (hpending : next.state.pending = state.pending) (hmode : next.mode.afterType = false)
    (hblank : mode.afterType = false ∨ isBlank c = false ∨ state.inComment = true) :
    Sorted state mode c rest next :=
  Or.inr (Wordless.of_forgetful (Or.inr henclosed) hpending hmode hblank)

section Steps

variable (state : State) (mode : Mode) (c : Char) (rest : Text)

theorem commentStep_sorted (hcomment : state.inComment = true) :
    Sorted state mode c rest (commentStep state c rest) := by
  unfold commentStep
  split <;> exact Sorted.of_enclosed rfl rfl rfl (Or.inr (Or.inr hcomment))

theorem numberStart_sorted (hvisible : isBlank c = false) :
    Sorted state mode c rest (numberStart state c rest) := by
  unfold numberStart
  split <;> exact Sorted.of_enclosed rfl rfl rfl (Or.inr (Or.inl hvisible))

theorem symbolStep_sorted (hstart : isWordStart c = false) (hvisible : isBlank c = false) :
    Sorted state mode c rest (symbolStep state c rest) := by
  refine Or.inr (Wordless.of_forgetful (Or.inl hstart) ?_ ?_ (Or.inr (Or.inl hvisible)))
  · simp only [symbolStep]
    split
    · rfl
    · split
      · split_ifs <;> rfl
      · rfl
  · simp only [symbolStep]
    split
    · rfl
    · split <;> rfl

theorem codeStep_sorted (hvisible : state.inComment = false -> isBlank c = false) :
    Sorted state mode c rest (codeStep state mode.afterType c rest) := by
  unfold codeStep
  split
  · rename_i hcomment
    exact commentStep_sorted state mode c rest hcomment
  · rename_i hcode
    rw [Bool.not_eq_true] at hcode
    have hblank := hvisible hcode
    split_ifs with _hline _hblock _hstring _hquote _hdigit hstart
    · exact Sorted.of_enclosed rfl rfl rfl (Or.inr (Or.inl hblank))
    · exact Sorted.of_enclosed rfl rfl rfl (Or.inr (Or.inl hblank))
    · exact Sorted.of_enclosed rfl rfl rfl (Or.inr (Or.inl hblank))
    · exact Sorted.of_enclosed rfl rfl rfl (Or.inr (Or.inl hblank))
    · exact numberStart_sorted state mode c rest hblank
    · exact Or.inl ⟨hstart, hcode, rfl⟩
    · rw [Bool.not_eq_true] at hstart
      exact symbolStep_sorted state mode c rest hstart hblank

theorem blankOrCodeStep_sorted (atStart : Bool) :
    Sorted state mode c rest (blankOrCodeStep state atStart mode.afterType c rest) := by
  simp only [blankOrCodeStep]
  split
  · rename_i hblank
    rw [Bool.and_eq_true, Bool.not_eq_true'] at hblank
    refine Or.inr (Wordless.of_blanks rfl hblank.left ?_ rfl)
    rw [take_runLength, List.all_cons, hblank.right, Bool.true_and]
    exact List.all_takeWhile
  · rename_i hcode
    apply codeStep_sorted
    intro hcomment
    simpa [hcomment] using hcode

theorem hexStep_sorted : Sorted state .hexDigits c rest (hexStep state c rest) := by
  unfold hexStep
  split
  · exact Sorted.of_enclosed rfl rfl rfl (Or.inl rfl)
  · exact blankOrCodeStep_sorted state .hexDigits c rest false

theorem numberStep_sorted : Sorted state .number c rest (numberStep state c rest) := by
  unfold numberStep
  split_ifs
  · exact Sorted.of_enclosed rfl rfl rfl (Or.inl rfl)
  · exact Sorted.of_enclosed rfl rfl rfl (Or.inl rfl)
  · exact Sorted.of_enclosed rfl rfl rfl (Or.inl rfl)
  · exact Sorted.of_enclosed rfl rfl rfl (Or.inl rfl)
  · exact blankOrCodeStep_sorted state .number c rest false

theorem stringStep_sorted (interpolated : Bool) :
    Sorted state (.string interpolated) c rest (stringStep state interpolated c rest) := by
  unfold stringStep
  split_ifs <;> exact Sorted.of_enclosed rfl rfl rfl (Or.inl rfl)

theorem interpolationStep_sorted :
    Sorted state .interpolation c rest (interpolationStep state c rest) := by
  unfold interpolationStep
  split_ifs <;> exact Sorted.of_enclosed rfl rfl rfl (Or.inl rfl)

theorem hashStep_sorted : Sorted state .hash c rest (hashStep state c rest) := by
  unfold hashStep
  split
  · rename_i hblank
    exact Or.inr (Wordless.of_forgetful (Or.inl (isWordStart_of_isBlank hblank)) rfl rfl
      (Or.inl rfl))
  · exact Sorted.of_enclosed rfl rfl rfl (Or.inl rfl)

theorem preprocessorStep_sorted (message : Bool) (hbefore : mode.afterType = false) :
    Sorted state mode c rest (preprocessorStep state message c rest) := by
  unfold preprocessorStep
  split_ifs <;> exact Sorted.of_enclosed rfl rfl rfl (Or.inl hbefore)

theorem directiveStep_sorted : Sorted state .directive c rest (directiveStep state c rest) := by
  simp only [directiveStep]
  split
  · refine Sorted.of_enclosed ?_ rfl rfl (Or.inl rfl)
    rw [List.any_cons]
    rfl
  · exact preprocessorStep_sorted state .directive c rest false rfl

theorem step_sorted : Sorted state mode c rest (step state mode c rest) := by
  cases mode with
  | lineStart => exact blankOrCodeStep_sorted state .lineStart c rest true
  | code afterType => exact blankOrCodeStep_sorted state (.code afterType) c rest false
  | lineComment => exact Sorted.of_enclosed rfl rfl rfl (Or.inl rfl)
  | hexDigits => exact hexStep_sorted state c rest
  | number => exact numberStep_sorted state c rest
  | string interpolated => exact stringStep_sorted state c rest interpolated
  | interpolation => exact interpolationStep_sorted state c rest
  | hash => exact hashStep_sorted state c rest
  | directive => exact directiveStep_sorted state c rest
  | preprocessor message =>
      exact preprocessorStep_sorted state (.preprocessor message) c rest message rfl

end Steps

theorem enclosing_reservedWords :
    forall entry, entry ∈ reservedWords -> enclosing.contains entry.2.scope = false := by
  decide

theorem isWord_wordStep (state : State) (afterType : Bool) {c : Char} (rest more : Text)
    (hstart : isWordStart c = true) :
    isWord (c :: more,
      (Scope.source :: (wordStep state afterType c rest).inner).map Scope.raw) = true := by
  rw [isWord_raw, hstart, Bool.true_and]
  simp only [wordStep]
  split
  · rename_i word hword
    simpa using enclosing_reservedWords _ (mem_of_lookup hword)
  · split
    · rename_i kind _hkind
      cases kind <;> rfl
    · simp only [identifierScope]
      split_ifs <;> rfl

section Words

variable (state : State) (afterType : Bool) (c : Char) (rest : Text)

theorem wordStep_pending :
    (wordStep state afterType c rest).state.pending =
      match reserved? (c :: rest.take (runLength isWordChar rest)) with
      | some (.declaration kind) => some kind
      | some _ => state.pending
      | none => none := by
  simp only [wordStep]
  split
  · rename_i word hword
    rw [hword]
    cases word <;> rfl
  · rename_i hword
    rw [hword]
    split
    · rfl
    · assumption

theorem wordStep_afterType :
    (wordStep state afterType c rest).mode.afterType =
      (reserved? (c :: rest.take (runLength isWordChar rest))).any Reserved.namesType := by
  simp only [wordStep]
  split
  · rename_i word hword
    rw [hword]
    rfl
  · rename_i hword
    rw [hword]
    split <;> rfl

theorem wordStep_inComment :
    (wordStep state afterType c rest).state.inComment = state.inComment := by
  simp only [wordStep]
  split
  · split <;> rfl
  · split <;> rfl

end Words

structure Moment.TakesWord (moment : Moment) : Prop where
  code : moment.state.inComment = false
  step_eq : moment.step =
    wordStep moment.state moment.mode.afterType moment.head moment.rest
  text_eq : moment.lexeme.text =
    moment.head :: moment.rest.take (runLength isWordChar moment.rest)
  isWord_eq : isWord moment.lexeme.entry = true

theorem Moment.sorted (moment : Moment) :
    moment.TakesWord ∨
      Wordless moment.state moment.mode moment.head (moment.rest.take moment.step.extra)
        moment.step := by
  rcases step_sorted moment.state moment.mode moment.head moment.rest with
    ⟨hstart, hcode, hstep⟩ | hwordless
  · have hmoment : moment.step =
        wordStep moment.state moment.mode.afterType moment.head moment.rest := hstep
    refine Or.inl ⟨hcode, hmoment, ?_, ?_⟩
    · rw [Moment.lexeme, hmoment, wordStep_extra]
    · rw [Lexeme.entry, Lexeme.scopes, Moment.lexeme, hmoment]
      exact isWord_wordStep _ _ _ _ hstart
  · exact Or.inr hwordless

end Mana
end ScopeProbe
