import ScopeProbe.Proofs.Mana.Words

/-!
# Identifiers told by the history

What an identifier names is not written at the identifier.  It depends on the
declaration keyword that waits for a name, on the type named in front, and on
the body around, and all of them can be read off the tokens before it.  Reading
back through these tokens replaces the state that the lexer carries along.
-/

namespace ScopeProbe
namespace Mana

/-!
# Reading back
-/

/-- Tokens by their texts and the names of their scopes, the latest first. -/
abbrev History := List (Text × List String)

def named? (entry : Text × List String) : Option Declaration :=
  match Event.ofEntry entry with
  | .name kind => some kind
  | _ => none

namespace History

/-- The declaration whose keyword no identifier has followed yet. -/
def awaited? (history : History) : Option Declaration :=
  (history.find? fun entry => (keyword? entry).isSome || isIdentifier entry).bind keyword?

def declared? (history : History) : Option Declaration :=
  (history.find? fun entry =>
    (named? entry).isSome || Event.ofEntry entry = .braceOpens).bind named?

/-- The brace that is open around a number of other open ones, with the declaration whose body it
begins.  A brace that closes stands for the nearest open one before it. -/
def brace? : Nat -> History -> Option (Option Declaration)
  | _, [] => none
  | inside, entry :: earlier =>
      match Event.ofEntry entry with
      | .braceOpens =>
          match inside with
          | 0 => some (declared? earlier)
          | inside + 1 => brace? inside earlier
      | .braceCloses => brace? (inside + 1) earlier
      | _ => brace? inside earlier

def body? (history : History) : Option Declaration :=
  (brace? 0 history).join

def followsType (line : History) : Bool :=
  (line.find? fun entry => !entry.1.all isBlank).any namesType

def identified (past line : History) (behind : Text) : Scope :=
  match past.awaited? with
  | some kind => kind.nameScope
  | none =>
      if (behind.dropWhile isBlank).head? = some '(' then .entityNameFunction
      else if line.followsType then
        if past.body? ∈ [some .ofClass, some .ofStruct, some .ofInterface] then
          .entityNameVariableField
        else .entityNameVariableLocal
      else if past.body? = some .ofEnum then .entityNameVariableEnumMember
      else .variableOtherReadwrite

variable (entry : Text × List String) (earlier : History)

theorem awaited?_cons :
    awaited? (entry :: earlier) =
      if (keyword? entry).isSome || isIdentifier entry then keyword? entry
      else awaited? earlier := by
  rw [awaited?, List.find?_cons]
  cases (keyword? entry).isSome || isIdentifier entry <;> rfl

theorem declared?_cons :
    declared? (entry :: earlier) =
      match Event.ofEntry entry with
      | .name kind => some kind
      | .braceOpens => none
      | _ => declared? earlier := by
  rw [declared?, List.find?_cons]
  cases hevent : Event.ofEntry entry <;> simp [named?, hevent, declared?]

theorem brace?_cons (inside : Nat) :
    brace? inside (entry :: earlier) =
      match Event.ofEntry entry with
      | .braceOpens =>
          match inside with
          | 0 => some (declared? earlier)
          | inside + 1 => brace? inside earlier
      | .braceCloses => brace? (inside + 1) earlier
      | _ => brace? inside earlier := rfl

theorem followsType_cons :
    followsType (entry :: earlier) =
      if entry.1.all isBlank then followsType earlier else namesType entry := by
  rw [followsType, List.find?_cons]
  cases entry.1.all isBlank <;> rfl

end History

/-!
# What is recalled

At every moment the state and the mode of the lexer are what reading back
finds.
-/

def bodyOf (declared : Option Declaration) : Block :=
  declared.elim .plain Declaration.block

structure Recalls (past line : History) (state : State) (mode : Mode) : Prop where
  pending : state.pending = past.awaited?
  nextBlock : state.nextBlock = bodyOf past.declared?
  blocks : forall inside, state.blocks[inside]? = (past.brace? inside).map bodyOf
  afterType : mode.afterType = line.followsType
  inComment : state.inComment = true -> mode.afterType = false

namespace Recalls

variable {past line : History} {state : State} {mode : Mode}

theorem nextBlock_after (entry : Text × List String)
    (h : state.nextBlock = bodyOf past.declared?) :
    (state.after (Event.ofEntry entry)).nextBlock =
      bodyOf (History.declared? (entry :: past)) := by
  rw [History.declared?_cons]
  cases Event.ofEntry entry with
  | name kind => rfl
  | braceOpens => rfl
  | commentOpens => exact h
  | commentCloses => exact h
  | keyword kind => exact h
  | braceCloses => exact h
  | nothing => exact h

theorem blocks_after (entry : Text × List String)
    (hnext : state.nextBlock = bodyOf past.declared?)
    (h : forall inside, state.blocks[inside]? = (past.brace? inside).map bodyOf) (inside : Nat) :
    (state.after (Event.ofEntry entry)).blocks[inside]? =
      (History.brace? inside (entry :: past)).map bodyOf := by
  rw [History.brace?_cons]
  cases Event.ofEntry entry with
  | braceOpens =>
      cases inside with
      | zero => exact congrArg some hnext
      | succ inside => exact h inside
  | braceCloses =>
      show state.blocks.tail[inside]? = _
      rw [List.getElem?_tail]
      exact h (inside + 1)
  | name kind => exact h inside
  | commentOpens => exact h inside
  | commentCloses => exact h inside
  | keyword kind => exact h inside
  | nothing => exact h inside

theorem pending_next {moment : Moment} (h : moment.state.pending = past.awaited?) :
    moment.step.state.pending = History.awaited? (moment.lexeme.entry :: past) := by
  have hentry : moment.lexeme.entry.1 = moment.lexeme.text := rfl
  rw [History.awaited?_cons]
  rcases moment.sorted with hword | hwordless
  · rw [hword.step_eq, wordStep_pending, ← hword.text_eq, h]
    rw [keyword?, reservedIn?, isIdentifier, hword.isWord_eq, hentry]
    cases hreserved : reserved? moment.lexeme.text with
    | none => rfl
    | some word => cases word <;> rfl
  · have hword : isWord moment.lexeme.entry = false := hwordless.isWord_eq
    rw [keyword?, reservedIn?, isIdentifier, hword, hwordless.pending]
    exact h

theorem afterType_next {moment : Moment} (h : moment.mode.afterType = line.followsType)
    (hcomment : moment.state.inComment = true -> moment.mode.afterType = false) :
    moment.step.mode.afterType = History.followsType (moment.lexeme.entry :: line) := by
  have hentry : moment.lexeme.entry.1 = moment.lexeme.text := rfl
  rw [History.followsType_cons, namesType, reservedIn?, hentry]
  rcases moment.sorted with hword | hwordless
  · have hvisible : moment.lexeme.text.all isBlank = false :=
      all_isBlank_of_isWord hword.isWord_eq
    rw [hword.step_eq, wordStep_afterType, ← hword.text_eq, hword.isWord_eq, hvisible]
    rfl
  · have hword : isWord moment.lexeme.entry = false := hwordless.isWord_eq
    have hmode : moment.step.mode.afterType =
        (moment.mode.afterType && moment.lexeme.text.all isBlank) := hwordless.afterType hcomment
    rw [hmode, hword, h]
    cases moment.lexeme.text.all isBlank <;> simp

theorem inComment_next {moment : Moment} (hinside : moment.step.state.inComment = true) :
    moment.step.mode.afterType = false := by
  rcases moment.sorted with hword | hwordless
  · rw [hword.step_eq, wordStep_inComment, hword.code] at hinside
    cases hinside
  · rw [← Bool.not_eq_true]
    intro htype
    rw [hwordless.inComment htype] at hinside
    cases hinside

theorem next {moment : Moment} (h : Recalls past line moment.state moment.mode) :
    Recalls (moment.lexeme.entry :: past) (moment.lexeme.entry :: line)
      moment.step.state moment.step.mode := by
  have hstate : moment.step.state = moment.state.after (Event.ofEntry moment.lexeme.entry) := by
    rw [Event.ofEntry_entry]
    exact moment.step_state
  have hnext := nextBlock_after moment.lexeme.entry h.nextBlock
  have hblocks := blocks_after moment.lexeme.entry h.nextBlock h.blocks
  rw [← hstate] at hnext hblocks
  exact {
    pending := pending_next h.pending
    nextBlock := hnext
    blocks := hblocks
    afterType := afterType_next h.afterType h.inComment
    inComment := inComment_next }

theorem newLine (h : Recalls past line state mode) (text : Text) :
    Recalls past [] state (startMode state text) := by
  have hmode : (startMode state text).afterType = false := by
    rw [startMode]
    split <;> rfl
  exact { h with afterType := hmode, inComment := fun _hinside => hmode }

theorem at_moment {text : Text} (h : Recalls past line state mode) {front back : List Moment}
    {moment : Moment} (hmoments : moments state mode 0 text = front ++ moment :: back) :
    Recalls ((front.map fun passed => passed.lexeme.entry).reverse ++ past)
      ((front.map fun passed => passed.lexeme.entry).reverse ++ line)
      moment.state moment.mode := by
  induction front generalizing past line state mode text with
  | nil =>
      rcases moments_eq_cons hmoments with ⟨_htext, rfl, rfl, _hmore⟩
      exact h
  | cons passed more ih =>
      rcases moments_eq_cons hmoments with ⟨_htext, rfl, rfl, hmore⟩
      have hbehind := ih h.next hmore
      rw [List.map_cons, List.reverse_cons, List.append_assoc, List.append_assoc]
      exact hbehind

theorem at_end (text : Text) (h : Recalls past line state mode) :
    exists last,
      Recalls (((scan state mode 0 text).1.map Lexeme.entry).reverse ++ past)
        (((scan state mode 0 text).1.map Lexeme.entry).reverse ++ line)
        (scan state mode 0 text).2 last := by
  induction state, mode, text using moment_induction generalizing past line with
  | done state mode => exact ⟨mode, h⟩
  | next moment ih =>
      rw [scan_moment, List.map_cons, List.reverse_cons, List.append_assoc, List.append_assoc]
      exact ih h.next

theorem behind_lines (before : Option State) (lines : List Text)
    (h : Recalls past line (before.getD {}) mode) :
    exists here last,
      Recalls ((grammar.emitted before lines).reverse ++ past) here
        ((grammar.stateAfter before lines).getD {}) last := by
  induction lines generalizing past line mode before with
  | nil => exact ⟨line, mode, h⟩
  | cons first more ih =>
      rcases at_end first (h.newLine first) with ⟨last, hlast⟩
      have hmore := ih (some (lexLine (before.getD {}) first).2) hlast
      rw [Grammar.emitted_cons, map_entry_tokens, List.reverse_append, List.append_assoc]
      exact hmore

theorem initial : Recalls [] [] {} .lineStart where
  pending := rfl
  nextBlock := rfl
  blocks := fun _inside => rfl
  afterType := rfl
  inComment := fun _hinside => rfl

end Recalls

/-!
# Identifiers

Where a step meets a word that is not reserved, what it looks up in the state
is what reading back finds.
-/

theorem head?_blocks {past line : History} {state : State} {mode : Mode}
    (h : Recalls past line state mode) :
    (state.blocks.head? = some .typeBody <->
        past.body? ∈ [some .ofClass, some .ofStruct, some .ofInterface]) ∧
      (state.blocks.head? = some .enumBody <-> past.body? = some .ofEnum) := by
  rw [List.head?_eq_getElem?, h.blocks, History.body?]
  cases past.brace? 0 with
  | none => simp
  | some declared =>
      cases declared with
      | none => simp [bodyOf]
      | some kind => cases kind <;> simp [bodyOf, Declaration.block]

theorem inner_of_isIdentifier {past line : History} {moment : Moment}
    (h : Recalls past line moment.state moment.mode)
    (hidentifier : isIdentifier moment.lexeme.entry = true) :
    moment.step.inner = [past.identified line moment.behind] := by
  rw [isIdentifier, Bool.and_eq_true, Option.isNone_iff_eq_none] at hidentifier
  rcases hidentifier with ⟨hisWord, hreserved⟩
  rcases moment.sorted with hword | hwordless
  · have htext : reserved? (moment.head ::
        moment.rest.take (runLength isWordChar moment.rest)) = none := by
      rw [← hword.text_eq]
      exact hreserved
    have hbehind : moment.rest.drop (runLength isWordChar moment.rest) = moment.behind := by
      rw [Moment.behind, hword.step_eq, wordStep_extra]
    rcases head?_blocks h with ⟨htype, henum⟩
    rw [hword.step_eq, wordStep, htext, h.pending, hbehind, h.afterType, History.identified]
    cases past.awaited? with
    | some kind => rfl
    | none => simp only [identifierScope, htype, henum]
  · have hnone : isWord moment.lexeme.entry = false := hwordless.isWord_eq
    rw [hnone] at hisWord
    cases hisWord

/-- What an identifier names is told by the tokens before it, those on its own line, and the text
behind it. -/
theorem identifier_told_by_history (lines : List Text) {visit : Visit State}
    (hvisit : visit ∈ grammar.visits 0 none lines) {front back : List RawToken}
    {token : RawToken} (htokens : visit.tokens = front ++ token :: back)
    (hidentifier : isIdentifier (token.entryIn visit.call.line) = true) :
    let line : History := (front.map (RawToken.entryIn visit.call.line)).reverse
    let past : History := line ++ (grammar.emitted none (lines.take visit.index)).reverse
    token.scopes =
      [Scope.source, past.identified line (visit.call.line.drop token.stop.toNat)].map
        Scope.raw := by
  intro line past
  rw [grammar.tokens_visits hvisit, grammar.before_visits hvisit] at htokens
  rcases moment_of_token htokens with
    ⟨passed, coming, moment, hmoments, hfront, htoken, hbehind⟩
  rcases Recalls.behind_lines none (lines.take (visit.index - 0)) Recalls.initial with
    ⟨here, mode, hlines⟩
  have hrecalls := (hlines.newLine visit.call.line).at_moment hmoments
  rw [← hfront, List.append_nil, List.append_nil] at hrecalls
  rw [htoken] at hidentifier
  have hinner := inner_of_isIdentifier hrecalls hidentifier
  rw [hbehind]
  show (token.entryIn visit.call.line).2 = _
  rw [htoken]
  show (Scope.source :: moment.step.inner).map Scope.raw = _
  rw [hinner]
  rfl

theorem field_told_behind_comment :
    exists (visit : Visit State) (front back : List RawToken) (token : RawToken),
      visit ∈ grammar.visits 0 none
          ["class Tray \x7b".toList, "/* \x7d */ int32\t size;".toList] ∧
        visit.tokens = front ++ token :: back ∧
        isIdentifier (token.entryIn visit.call.line) = true ∧
        token.textIn visit.call.line = "size".toList ∧
        token.scopes = [Scope.source, .entityNameVariableField].map Scope.raw := by
  let lines : List Text := ["class Tray \x7b".toList, "/* \x7d */ int32\t size;".toList]
  let visit : Visit State := (grammar.visits 0 none lines)[1]
  let token : RawToken :=
    ⟨15, 19, [Scope.source, .entityNameVariableField].map Scope.raw⟩
  have hvisit : visit ∈ grammar.visits 0 none lines := List.getElem_mem _
  have htokens : visit.tokens = visit.tokens.take 6 ++ token :: visit.tokens.drop 7 := by
    decide +kernel
  have hidentifier : isIdentifier (token.entryIn visit.call.line) = true := by
    decide +kernel
  have htold := identifier_told_by_history lines hvisit htokens hidentifier
  refine ⟨visit, _, _, token, hvisit, htokens, hidentifier, by decide +kernel, ?_⟩
  exact htold.trans (by decide +kernel)

end Mana
end ScopeProbe
