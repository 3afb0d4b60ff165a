import Mathlib.Data.List.DropRight
import ScopeProbe.Proofs.Mana.HashSigns
import ScopeProbe.Proofs.Mana.SubLexers

/-!
# The line lexer takes the steps of a line

By what each mode leaves to do, step after step, the line lexer reports the lexemes
of a line with their scopes written out, and leaves behind the state that they lead
to.  It never fails, as long as each block is known by its name.
-/

namespace ScopeProbe
namespace Mana

/-!
# Steps
-/

theorem State.All.after {kind : Block -> Prop} {state : State} (h : state.All kind)
    (hplain : kind .plain) (hbody : forall declaration : Declaration, kind declaration.block)
    (event : Event) : (state.after event).All kind := by
  cases event with
  | commentOpens => exact ⟨h.nextBlock, h.blocks⟩
  | commentCloses => exact ⟨h.nextBlock, h.blocks⟩
  | nothing => exact h
  | keyword declaration => exact ⟨h.nextBlock, h.blocks⟩
  | name declaration => exact ⟨hbody declaration, h.blocks⟩
  | braceOpens =>
      refine ⟨hplain, ?_⟩
      intro block hblock
      rcases List.mem_cons.mp hblock with rfl | hopen
      · exact h.nextBlock
      · exact h.blocks block hopen
  | braceCloses =>
      exact ⟨h.nextBlock, fun block hblock => h.blocks block (List.mem_of_mem_tail hblock)⟩

theorem State.All.lexLine {kind : Block -> Prop} {state : State} (h : state.All kind)
    (hplain : kind .plain) (hbody : forall declaration : Declaration, kind declaration.block)
    (line : Text) : (Mana.lexLine state line).2.All kind := by
  rw [Mana.lexLine, scan_state]
  generalize List.map Lexeme.event _ = events
  induction events generalizing state with
  | nil => exact h
  | cons event more ih => exact ih (h.after hplain hbody event)

theorem ofName_block (declaration : Declaration) :
    Block.ofName declaration.block.name = declaration.block := by
  cases declaration <;> rfl

section

variable (state : State) (c : Char) (rest : Text)

theorem codeStep_mode (afterType : Bool) : (codeStep state afterType c rest).mode ≠ .lineStart := by
  unfold codeStep
  split_ifs
  · unfold commentStep
    split <;> simp
  · simp
  · simp
  · simp
  · simp
  · unfold numberStart
    split <;> simp
  · rcases LineLexer.wordStep_mode state afterType c rest with ⟨_behind, hmode⟩
    rw [hmode]
    simp
  · rw [LineLexer.symbolStep_mode]
    simp

theorem blankOrCodeStep_mode (atStart afterType : Bool) :
    (blankOrCodeStep state atStart afterType c rest).mode ≠ .lineStart := by
  unfold blankOrCodeStep
  split
  · simp
  · exact codeStep_mode state c rest afterType

theorem step_mode_ne_lineStart (mode : Mode) : (step state mode c rest).mode ≠ .lineStart := by
  cases mode with
  | lineStart => exact blankOrCodeStep_mode state c rest true false
  | code afterType => exact blankOrCodeStep_mode state c rest false afterType
  | lineComment => simp [step]
  | hexDigits =>
      simp only [step, hexStep]
      split
      · simp
      · exact blankOrCodeStep_mode state c rest false false
  | number =>
      simp only [step, numberStep]
      split_ifs
      · simp
      · simp
      · simp
      · simp
      · exact blankOrCodeStep_mode state c rest false false
  | string interpolated =>
      simp only [step, stringStep]
      split_ifs <;> simp
  | interpolation =>
      simp only [step, interpolationStep]
      split_ifs <;> simp
  | hash =>
      simp only [step, hashStep]
      split <;> simp
  | directive =>
      simp only [step, directiveStep, preprocessorStep]
      split_ifs <;> simp
  | preprocessor message =>
      simp only [step, preprocessorStep]
      split_ifs <;> simp

end

theorem Moment.afterType_of_comment (moment : Moment)
    (hcomment : moment.step.state.inComment = true) : moment.step.mode.afterType = false := by
  rw [← Bool.not_eq_true]
  intro hafter
  rcases moment.sorted with htakes | hwordless
  · rw [htakes.step_eq, wordStep_inComment, htakes.code] at hcomment
    cases hcomment
  · rw [hwordless.inComment hafter] at hcomment
    cases hcomment

/-- Where in a line a mode can be come to: the start of a line is at its start, a hash sign is still
to come, behind no more than blanks, and in a comment no type has been named. -/
structure Fits (state : State) (mode : Mode) (front text : Text) : Prop where
  begun : front = [] -> mode = .lineStart ∨ mode = .hash
  lineStart : mode = .lineStart -> front = []
  hash : mode = .hash -> text.dropWhile isBlank ≠ [] ∧
    (front = [] ∨ text.dropWhile isBlank = text)
  comment : state.inComment = true -> mode.afterType = false

theorem Fits.after {front : Text} (moment : Moment)
    (h : Fits moment.state moment.mode front (moment.head :: moment.rest)) :
    Fits moment.step.state moment.step.mode (front ++ moment.lexeme.text) moment.behind := by
  have hfront : front ++ moment.lexeme.text ≠ [] :=
    List.append_ne_nil_of_right_ne_nil front (List.cons_ne_nil _ _)
  by_cases hmode : moment.mode = .hash
  · rcases moment with ⟨state, mode, c, rest⟩
    subst hmode
    simp only [Moment.step, Moment.behind, step, hashStep] at hfront ⊢
    split
    · rename_i hblank
      have hrest := (h.hash rfl).left
      rw [List.dropWhile_cons, if_pos hblank] at hrest
      rw [drop_runLength]
      refine ⟨fun hnil => absurd hnil hfront, by simp, fun _ => ?_, fun _ => rfl⟩
      rw [List.dropWhile_idempotent]
      exact ⟨hrest, .inr rfl⟩
    · exact ⟨fun hnil => absurd hnil hfront, by simp, by simp, fun _ => rfl⟩
  · have hsilent := step_silent moment.state moment.head moment.rest hmode
    rw [Step.silent, Bool.and_eq_true, bne_iff_ne, bne_iff_ne] at hsilent
    exact ⟨fun hnil => absurd hnil hfront,
      fun hstart => absurd hstart (step_mode_ne_lineStart _ _ _ _),
      fun hhash => absurd hhash hsilent.right, moment.afterType_of_comment⟩

namespace LineLexer

theorem takes_step (place : Place) {state : State} {mode : Mode} (tokens : List RawToken)
    (hproper : state.Proper) (hfits : Fits state mode place.front (place.head :: place.rest)) :
    Takes place.line mode (place.cursor state mode.afterType tokens)
      (step state mode place.head place.rest) := by
  have hbehind (hstart : mode ≠ .lineStart) (hhash : mode ≠ .hash) : place.front ≠ [] := by
    intro hfront
    rcases hfits.begun hfront with h | h
    · exact hstart h
    · exact hhash h
  cases mode with
  | lineStart =>
      have hfront := hfits.lineStart rfl
      exact takes_blankOrCode place state tokens true (by simp [hfront]) hproper fun _ => rfl
  | code afterType =>
      have hfront := hbehind nofun nofun
      exact takes_blankOrCode place state tokens false (by simp [hfront]) hproper
        hfits.comment
  | lineComment => exact takes_lineComment place state tokens
  | hexDigits => exact takes_hexDigits place state tokens (hbehind nofun nofun) hproper
  | number => exact takes_number place state tokens (hbehind nofun nofun) hproper
  | string interpolated => exact takes_string place state tokens interpolated
  | interpolation => exact takes_interpolation place state tokens
  | hash =>
      refine takes_hash place state tokens fun hblank => ?_
      rcases (hfits.hash rfl).right with hfront | hsame
      · exact hfront
      · have hshort := (List.dropWhile_suffix isBlank (l := place.rest)).length_le
        rw [List.dropWhile_cons, if_pos hblank] at hsame
        rw [hsame, List.length_cons] at hshort
        omega
  | directive => exact takes_directive place state tokens
  | preprocessor message => exact takes_preprocessor place state tokens message

/-!
# Lines
-/

theorem resume_end {line : Text} {mode : Mode} (hmode : mode ≠ .hash) {cursor : Cursor}
    (hend : cursor.position = line.length) : resume line mode cursor = .ok cursor := by
  have hstop : ¬ cursor.position < line.length := by
    omega
  have hdrop : line.drop cursor.position = [] := by
    rw [hend, List.drop_length]
  have hskip (kind : Char -> Bool) : skip line kind cursor.position = .ok cursor.position := by
    rw [skip_eq, hdrop]
    rfl
  have hloop (body : Cursor -> Except Fault (ForInStep Cursor)) :
      loop line body cursor = .ok cursor := loop_end hstop
  cases mode with
  | lineStart => exact hloop _
  | code afterType => exact hloop _
  | lineComment =>
      rw [resume, lexLineComment, if_neg hstop]
      exact hloop _
  | hexDigits =>
      rw [resume, lexHexDigits, hskip, ok_bind, if_neg (Nat.lt_irrefl _)]
      exact hloop _
  | number =>
      rw [resume, hloop]
      exact hloop _
  | string interpolated =>
      rw [resume, hloop]
      exact hloop _
  | interpolation =>
      rw [resume, lexInterpolation, hloop, ok_bind, closeInterpolation, if_neg hstop]
      show loop line (stringBody line true) cursor >>= _ = _
      rw [hloop]
      exact hloop _
  | hash => exact absurd rfl hmode
  | directive =>
      rw [resume, lexDirective, hskip, ok_bind]
      dsimp only
      rw [Text.cut_self, if_neg (by decide), if_neg (Nat.lt_irrefl _), hloop]
      exact hloop _
  | preprocessor message =>
      rw [resume, hloop]
      exact hloop _

/-- From a place of a line on, the line lexer comes to what scanning comes to, whatever has been
passed and reported before. -/
def Agrees (state : State) (mode : Mode) (text : Text) : Prop :=
  state.Proper -> forall front tokens, Fits state mode front text ->
    (resume (front ++ text) mode
        (cursorAt state mode.afterType front.length tokens)).map Cursor.result =
      .ok {
        tokens := tokens ++ Lexeme.rawTokens front.length (scan state mode 0 text).1
        state := (scan state mode 0 text).2.written }

theorem agrees_nil (state : State) (mode : Mode) : Agrees state mode [] := by
  intro _hproper front tokens hfits
  have hmode : mode ≠ .hash := fun hhash => (hfits.hash hhash).left rfl
  rw [List.append_nil, resume_end hmode rfl, scan_nil, Lexeme.rawTokens, List.append_nil]
  rfl

theorem agrees_moment (moment : Moment)
    (h : Agrees moment.step.state moment.step.mode moment.behind) :
    Agrees moment.state moment.mode (moment.head :: moment.rest) := by
  intro hproper front tokens hfits
  let place : Place := ⟨front, moment.head, moment.rest⟩
  have htakes : resume place.line moment.mode
      (cursorAt moment.state moment.mode.afterType front.length tokens) =
        resume place.line moment.step.mode
          ((cursorAt moment.state moment.mode.afterType front.length tokens).behind moment.step) :=
    takes_step place tokens hproper hfits
  have hline : front ++ moment.head :: moment.rest =
      (front ++ moment.lexeme.text) ++ moment.behind := by
    rw [List.append_assoc, moment.text_append_behind]
  have hwidth : front.length + moment.lexeme.text.length =
      front.length + 1 + moment.step.extra := by
    rw [moment.length_lexeme_text]
    omega
  have htoken : Lexeme.rawTokens front.length [moment.lexeme] = [{
      start := front.length
      stop := (front.length + 1 + moment.step.extra : Nat)
      scopes := (Scope.source :: moment.step.inner).map Scope.raw }] := by
    rw [Lexeme.rawTokens, hwidth]
    rfl
  have hproper' : moment.step.state.Proper := by
    rw [moment.step_state]
    exact hproper.after rfl ofName_block _
  have hlater := h hproper' (front ++ moment.lexeme.text)
    (tokens ++ Lexeme.rawTokens front.length [moment.lexeme]) (hfits.after moment)
  rw [← hline, List.length_append, hwidth, htoken] at hlater
  rw [scan_moment]
  show (resume place.line moment.mode _).map Cursor.result = _
  rw [htakes, Cursor.behind]
  refine hlater.trans ?_
  rw [← htoken, List.append_assoc, ← hwidth]
  rfl

theorem agrees (state : State) (mode : Mode) (text : Text) : Agrees state mode text :=
  moment_induction agrees_nil agrees_moment state mode text

theorem isPrefixOf_hash (text : Text) :
    "#".toList.isPrefixOf text = (text.head? == some '#') := by
  cases text with
  | nil => rfl
  | cons c rest =>
      show ('#' == c && true) = (c == '#')
      rw [Bool.and_true, Bool.beq_comm]

theorem dropWhile_ne_nil {line : Text} (hline : isPreprocessorLine line = true) :
    line.dropWhile isBlank ≠ [] := by
  have hhash : '#' ∈ line := by
    have hhead : (line.dropWhile Unicode.isBlank).head? = some '#' := beq_iff_eq.mp hline
    exact (List.dropWhile_suffix Unicode.isBlank).subset (List.mem_of_head? hhead)
  intro hnone
  have hblank := List.dropWhile_eq_nil_iff.mp hnone '#' hhash
  cases hblank

theorem fits_startMode (state : State) (line : Text) :
    Fits state (startMode state line) [] line := by
  unfold startMode
  split
  · rename_i hline
    rw [Bool.and_eq_true] at hline
    exact ⟨fun _ => .inr rfl, fun _ => rfl, fun _ => ⟨dropWhile_ne_nil hline.right, .inl rfl⟩,
      fun _ => rfl⟩
  · exact ⟨fun _ => .inl rfl, fun _ => rfl, nofun, fun _ => rfl⟩

theorem lexLine_eq_resume (state : State) (line : Text) :
    lexLine line state.written =
      (resume line (startMode state line) (cursorAt state false 0 [])).map Cursor.result := by
  have hstart : (!state.written.inComment &&
      "#".toList.isPrefixOf (line.dropWhile Unicode.isBlank)) =
        (!state.inComment && isPreprocessorLine line) := by
    rw [isPrefixOf_hash]
    rfl
  have hmap (action : Except Fault Cursor) :
      (action >>= fun cursor => loop line (lexOn line) cursor >>= fun last => pure last.result) =
        (action >>= loop line (lexOn line)).map Cursor.result := by
    cases action with
    | error fault => rfl
    | ok cursor =>
        rw [ok_bind, ok_bind]
        cases loop line (lexOn line) cursor <;> rfl
  rw [lexLine, hstart, startMode]
  cases !state.inComment && isPreprocessorLine line with
  | true => exact hmap _
  | false => exact hmap (.ok _)

/-- No lookup fails on any line, and the tokens and the state behind are those of the steps, with
the scopes and the state written out. -/
theorem lexLine_written {state : State} (hproper : state.Proper) (line : Text) :
    lexLine line state.written = .ok {
      tokens := Lexeme.rawTokens 0 (Mana.lexLine state line).1
      state := (Mana.lexLine state line).2.written } := by
  have hagrees := agrees state (startMode state line) line hproper [] [] (fits_startMode state line)
  have hafter : (startMode state line).afterType = false := by
    unfold startMode
    split <;> rfl
  rw [hafter] at hagrees
  rw [lexLine_eq_resume]
  exact hagrees

end LineLexer
end Mana
end ScopeProbe
