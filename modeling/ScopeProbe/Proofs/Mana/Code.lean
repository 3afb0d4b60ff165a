import ScopeProbe.Proofs.Mana.HashSigns

/-!
# Places of code

At any moment the tokens that are still to come depend on the state, the mode
and the text ahead only, and they start where the tokens before them stop.  In
code the lexer is neither in a comment or a literal nor on a preprocessor line;
behind a part of a number it is in code if the number does not go on.
-/

namespace ScopeProbe
namespace Mana

/-!
# Coming to a position
-/

deriving instance DecidableEq for Moment

/-- The lexer comes to a position of a line at some moment. -/
def ComesTo (state : State) (line : Text) (position : Nat) (moment : Moment) : Prop :=
  exists passed coming, lineMoments state line = passed ++ moment :: coming ∧
    Lexeme.width (passed.map Moment.lexeme) = position

theorem tokens_at_moment {before : Option State} {line : Text} {passed coming : List Moment}
    {moment : Moment}
    (h : lineMoments (before.getD {}) line = passed ++ moment :: coming) :
    (grammar line before).tokens =
      Lexeme.rawTokens 0 (passed.map Moment.lexeme) ++
        Lexeme.rawTokens (Lexeme.width (passed.map Moment.lexeme))
          (scan moment.state moment.mode 0 (moment.head :: moment.rest)).1 := by
  rw [grammar_tokens, lexLine_fst, h, List.map_append, rawTokens_append, Nat.zero_add, scan_fst,
    moments_moment, moments_behind h]
  rfl

theorem ComesTo.drop_eq {state : State} {line : Text} {position : Nat} {moment : Moment}
    (h : ComesTo state line position moment) :
    line.drop position = moment.head :: moment.rest := by
  rcases h with ⟨passed, coming, hmoments, rfl⟩
  have hline := text_of_moments_append hmoments
  have hdrop : line.drop (passed.map fun other => other.lexeme.text).flatten.length =
      moment.head :: moment.rest := by
    rw [hline]
    exact List.drop_left
  rw [Lexeme.width, List.map_map]
  exact hdrop

theorem inner_of_scopes {inner : List Scope} {lexeme : Lexeme}
    (h : lexeme.scopes.map Scope.raw = (Scope.source :: inner).map Scope.raw) :
    lexeme.inner = inner := by
  have hscopes := List.map_injective_iff.mpr Scope.raw_injective h
  exact (List.cons.inj hscopes).right

theorem ComesTo.textIn {state : State} {line : Text} {position : Nat} {moment : Moment}
    (h : ComesTo state line position moment) :
    (moment.lexeme.tokenAt position).textIn line = moment.lexeme.text := by
  rcases h with ⟨passed, coming, hmoments, rfl⟩
  have hline := text_of_moments_append hmoments
  rw [← moment.text_append_behind] at hline
  have hcut := Text.cut_middle (passed.map fun other => other.lexeme.text).flatten
    moment.lexeme.text moment.behind
  rw [← hline] at hcut
  rw [Lexeme.width, List.map_map]
  exact hcut

theorem ComesTo.drop_behind {state : State} {line : Text} {position : Nat} {moment : Moment}
    (h : ComesTo state line position moment) :
    line.drop (position + moment.lexeme.text.length) = moment.behind := by
  rw [← List.drop_drop, h.drop_eq, ← moment.text_append_behind]
  exact List.drop_left

/-!
# Code
-/

def continuesNumber : Text -> Bool
  | [] => false
  | c :: rest =>
      Unicode.isDigit c || c == '_' || (c == '.' && rest.head?.any Unicode.isDigit) || isSuffix c

def Mode.readsCode : Mode -> Text -> Bool
  | .lineStart, _ => true
  | .code _, _ => true
  | .hexDigits, ahead => !ahead.head?.any Hexadecimal.isDigit
  | .number, ahead => !continuesNumber ahead
  | _, _ => false

structure Moment.InCode (moment : Moment) : Prop where
  noComment : moment.state.inComment = false
  readsCode : moment.mode.readsCode (moment.head :: moment.rest) = true

theorem numberStep_of_stop (state : State) {c : Char} {rest : Text}
    (hstop : continuesNumber (c :: rest) = false) :
    numberStep state c rest = blankOrCodeStep state false false c rest := by
  simp only [continuesNumber, Bool.or_eq_false_iff, beq_eq_false_iff_ne, Bool.and_eq_false_iff]
    at hstop
  rcases hstop with ⟨⟨⟨hdigit, hthousands⟩, hpoint⟩, hsuffix⟩
  have hnot : ¬ (c = '.' ∧ rest.head?.any Unicode.isDigit = true) := by
    rintro ⟨rfl, hbehind⟩
    rw [hbehind] at hpoint
    simp at hpoint
  rw [numberStep, if_neg (by simp [hdigit]), if_neg hthousands, if_neg hnot,
    if_neg (by simp [hsuffix])]

theorem Moment.InCode.step_eq {moment : Moment} (h : moment.InCode)
    (hvisible : isBlank moment.head = false) :
    exists afterType, moment.step = codeStep moment.state afterType moment.head moment.rest := by
  rcases moment with ⟨state, mode, c, rest⟩
  have hcode (atStart afterType : Bool) :
      blankOrCodeStep state atStart afterType c rest = codeStep state afterType c rest := by
    have hblank : isBlank c = false := hvisible
    simp [blankOrCodeStep, hblank]
  have hreads : mode.readsCode (c :: rest) = true := h.readsCode
  cases mode with
  | lineStart => exact ⟨false, hcode true false⟩
  | code afterType => exact ⟨afterType, hcode false afterType⟩
  | hexDigits =>
      have hstop : Hexadecimal.isDigit c = false := by simpa [Mode.readsCode] using hreads
      refine ⟨false, ?_⟩
      show hexStep state c rest = _
      rw [hexStep, if_neg (by simp [hstop]), hcode]
  | number =>
      have hstop : continuesNumber (c :: rest) = false := by simpa [Mode.readsCode] using hreads
      refine ⟨false, ?_⟩
      show numberStep state c rest = _
      rw [numberStep_of_stop state hstop, hcode]
  | lineComment => cases hreads
  | string interpolated => cases hreads
  | interpolation => cases hreads
  | hash => cases hreads
  | directive => cases hreads
  | preprocessor message => cases hreads

theorem scan_of_step {state : State} {mode other : Mode} {c : Char} {rest : Text}
    (hstep : step state mode c rest = step state other c rest) :
    scan state mode 0 (c :: rest) = scan state other 0 (c :: rest) := by
  rw [scan, scan, hstep]

theorem scan_char {state next : State} {mode behind : Mode} {c : Char} {rest : Text}
    {inner : List Scope} (hstep : step state mode c rest = ⟨0, inner, behind, next⟩) :
    (scan state mode 0 (c :: rest)).1 =
      { text := [c], inner } :: (scan next behind 0 rest).1 := by
  rw [scan, hstep]
  rfl

theorem scan_behind_digits (state : State) {mode : Mode} {text : Text}
    (hmode : mode = .hexDigits ∨ mode = .number) (hreads : mode.readsCode text = true) :
    scan state mode 0 text = scan state (.code false) 0 text := by
  cases text with
  | nil => rfl
  | cons c rest =>
      apply scan_of_step
      rcases hmode with rfl | rfl
      · have hstop : Hexadecimal.isDigit c = false := by simpa [Mode.readsCode] using hreads
        show hexStep state c rest = blankOrCodeStep state false false c rest
        rw [hexStep, if_neg (by simp [hstop])]
      · have hstop : continuesNumber (c :: rest) = false := by
          simpa [Mode.readsCode] using hreads
        exact numberStep_of_stop state hstop

/-!
# Literals in a line
-/

/-- From a position on a line has the given lexemes, and behind them code goes on in a given
state. -/
structure Inset (before : Option State) (line : Text) (position : Nat) (state : State)
    (lexemes : List Lexeme) : Prop where
  text_eq : line.drop position =
    (lexemes.map Lexeme.text).flatten ++ line.drop (position + Lexeme.width lexemes)
  tokens_eq : exists front back,
    (grammar line before).tokens = front ++ Lexeme.rawTokens position lexemes ++ back ∧
      Tiles 0 front position ∧
      Tiles position (Lexeme.rawTokens position lexemes)
        ((position + Lexeme.width lexemes : Nat) : Int) ∧
      Tiles ((position + Lexeme.width lexemes : Nat) : Int) back line.length ∧
      back = Lexeme.rawTokens (position + Lexeme.width lexemes)
        (scan state (.code false) 0 (line.drop (position + Lexeme.width lexemes))).1

theorem ComesTo.inset {before : Option State} {line : Text} {position : Nat} {moment : Moment}
    (h : ComesTo (before.getD {}) line position moment) {lexemes : List Lexeme} {behind : Text}
    (hscan : (scan moment.state moment.mode 0 (moment.head :: moment.rest)).1 =
      lexemes ++ (scan moment.state (.code false) 0 behind).1) :
    Inset before line position moment.state lexemes := by
  have hahead : moment.head :: moment.rest = (lexemes.map Lexeme.text).flatten ++ behind := by
    have hflatten := flatten_texts_scan moment.state moment.mode (moment.head :: moment.rest)
    rw [hscan, List.map_append, List.flatten_append, flatten_texts_scan] at hflatten
    exact hflatten.symm
  have hbehind : line.drop (position + Lexeme.width lexemes) = behind := by
    rw [← List.drop_drop, h.drop_eq, hahead]
    exact List.drop_left
  have hlength : position + Lexeme.width lexemes + behind.length = line.length := by
    have hdrop := congrArg List.length h.drop_eq
    rw [hahead, List.length_drop, List.length_append] at hdrop
    have hpos := congrArg List.length hahead
    rw [List.length_cons, List.length_append] at hpos
    rw [Lexeme.width]
    omega
  have hpos : forall lexeme, lexeme ∈ lexemes -> 0 < lexeme.text.length := by
    intro lexeme hlexeme
    have hmember : lexeme ∈
        (scan moment.state moment.mode 0 (moment.head :: moment.rest)).1 := by
      rw [hscan]
      exact List.mem_append_left _ hlexeme
    exact length_pos_of_mem_scan hmember
  have hback := tiles_scan (position + Lexeme.width lexemes) moment.state (.code false) behind
  rw [hlength] at hback
  refine ⟨?_, ?_⟩
  · rw [hbehind, h.drop_eq, hahead]
  · rcases h with ⟨passed, coming, hmoments, rfl⟩
    refine ⟨_, _, ?_, tiles_passed passed, Lexeme.tiles_rawTokens _ lexemes hpos, ?_, rfl⟩
    · rw [tokens_at_moment hmoments, hscan, rawTokens_append, hbehind, List.append_assoc]
      rfl
    · rw [hbehind]
      exact hback

end Mana
end ScopeProbe
