import Mathlib.Tactic.SplitIfs
import ScopeProbe.Mana.Lexer

/-!
# Moments of a line

Cutting a line into lexemes is a sequence of moments.  At each of them
something is left of the line, one step decides on the next lexeme, and the
next moment is behind that lexeme.  A step never takes more than what is left,
so a line ends exactly where its last lexeme does.
-/

namespace ScopeProbe
namespace Mana

/-!
# Runs of characters
-/

theorem runLength_le (kind : Char -> Bool) (text : Text) :
    runLength kind text <= text.length :=
  (List.takeWhile_sublist kind).length_le

theorem take_runLength (kind : Char -> Bool) (text : Text) :
    text.take (runLength kind text) = text.takeWhile kind := by
  have hprefix : text.takeWhile kind <+: text := List.takeWhile_prefix kind
  exact (List.prefix_iff_eq_take.mp hprefix).symm

theorem drop_runLength (kind : Char -> Bool) (text : Text) :
    text.drop (runLength kind text) = text.dropWhile kind := by
  have hsplit : text.takeWhile kind ++ text.dropWhile kind = text :=
    List.takeWhile_append_dropWhile
  have htake : text.take (runLength kind text) ++ text.drop (runLength kind text) = text :=
    List.take_append_drop _ text
  rw [take_runLength] at htake
  exact List.append_cancel_left (htake.trans hsplit.symm)

theorem length_pos_of_head? {text : Text} {c : Char} (h : text.head? = some c) :
    1 <= text.length := by
  cases text with
  | nil => cases h
  | cons d rest => exact Nat.succ_pos rest.length

theorem commentEnd?_le {text : Text} {n : Nat} (h : commentEnd? text = some n) :
    n + 2 <= text.length := by
  fun_induction commentEnd? text generalizing n with
  | case1 => cases h
  | case2 =>
      cases h
      simp
  | case3 c rest _hopen ih =>
      rcases Option.map_eq_some_iff.mp h with ⟨m, hm, rfl⟩
      have hrest := ih hm
      rw [List.length_cons]
      omega

/-!
# Operators ahead
-/

theorem operators_ne_nil : forall entry, entry ∈ operators -> entry.1 ≠ [] := by
  decide

theorem prefix_of_operator? {text operator : Text} {scope : Scope}
    (h : operator? text = some (operator, scope)) : operator <+: text := by
  have hstart := List.find?_some h
  exact List.isPrefixOf_iff_prefix.mp hstart

theorem take_operator {c : Char} {rest operator : Text} {scope : Scope}
    (h : operator? (c :: rest) = some (operator, scope)) :
    c :: rest.take (operator.length - 1) = operator := by
  have hmember : (operator, scope) ∈ operators := List.mem_of_find?_eq_some h
  have hprefix := prefix_of_operator? h
  cases operator with
  | nil => exact absurd rfl (operators_ne_nil _ hmember)
  | cons d more => exact (List.prefix_iff_eq_take.mp hprefix).symm

/-!
# What a step takes

Every step takes its first character and at most the rest of the line.
-/

section Steps

variable (state : State) (c : Char) (rest : Text)

theorem commentStep_extra_le : (commentStep state c rest).extra <= rest.length := by
  unfold commentStep
  split
  · exact Nat.le_refl _
  · rename_i hend
    have hle := commentEnd?_le hend
    rw [List.length_cons] at hle
    show 1 <= rest.length
    omega
  · rename_i more hend
    have hle := commentEnd?_le hend
    rw [List.length_cons] at hle
    show more <= rest.length
    omega

theorem wordStep_extra (afterType : Bool) :
    (wordStep state afterType c rest).extra = runLength isWordChar rest := by
  simp only [wordStep]
  split
  · rfl
  · split <;> rfl

theorem numberStart_extra_le : (numberStart state c rest).extra <= rest.length := by
  unfold numberStart
  split
  · rename_i hmark
    rcases hmark.right with hx | hx <;> exact length_pos_of_head? hx
  · exact runLength_le _ _

theorem symbolStep_extra_le : (symbolStep state c rest).extra <= rest.length := by
  unfold symbolStep
  split
  · rename_i operator scope hfound
    have hle := (prefix_of_operator? hfound).length_le
    rw [List.length_cons] at hle
    show operator.length - 1 <= rest.length
    omega
  · split <;> exact Nat.zero_le _

theorem codeStep_extra_le (afterType : Bool) :
    (codeStep state afterType c rest).extra <= rest.length := by
  unfold codeStep
  split_ifs with _hcomment hline hblock hstring
  · exact commentStep_extra_le state c rest
  · exact length_pos_of_head? hline.right
  · exact length_pos_of_head? hblock.right
  · exact length_pos_of_head? hstring.right
  · exact Nat.zero_le _
  · exact numberStart_extra_le state c rest
  · rw [wordStep_extra]
    exact runLength_le _ _
  · exact symbolStep_extra_le state c rest

theorem blankOrCodeStep_extra_le (atStart afterType : Bool) :
    (blankOrCodeStep state atStart afterType c rest).extra <= rest.length := by
  unfold blankOrCodeStep
  split
  · exact runLength_le _ _
  · exact codeStep_extra_le state c rest afterType

theorem hexStep_extra_le : (hexStep state c rest).extra <= rest.length := by
  unfold hexStep
  split
  · exact runLength_le _ _
  · exact blankOrCodeStep_extra_le state c rest false false

theorem numberStep_extra_le : (numberStep state c rest).extra <= rest.length := by
  unfold numberStep
  split_ifs
  · exact runLength_le _ _
  · exact Nat.zero_le _
  · exact Nat.zero_le _
  · exact Nat.zero_le _
  · exact blankOrCodeStep_extra_le state c rest false false

theorem stringStep_extra_le (interpolated : Bool) :
    (stringStep state interpolated c rest).extra <= rest.length := by
  unfold stringStep
  split_ifs with _hquote hescape
  · exact Nat.zero_le _
  · exact List.length_pos_iff.mpr hescape.right
  · exact Nat.zero_le _
  · exact runLength_le _ _

theorem interpolationStep_extra_le : (interpolationStep state c rest).extra <= rest.length := by
  unfold interpolationStep
  split_ifs
  · exact Nat.zero_le _
  · exact runLength_le _ _
  · exact runLength_le _ _
  · exact Nat.zero_le _

theorem hashStep_extra_le : (hashStep state c rest).extra <= rest.length := by
  unfold hashStep
  split
  · exact runLength_le _ _
  · exact Nat.zero_le _

theorem preprocessorStep_extra_le (message : Bool) :
    (preprocessorStep state message c rest).extra <= rest.length := by
  unfold preprocessorStep
  split_ifs
  · exact runLength_le _ _
  · exact Nat.le_refl _
  · exact runLength_le _ _
  · exact Nat.zero_le _

theorem directiveStep_extra_le : (directiveStep state c rest).extra <= rest.length := by
  unfold directiveStep
  split
  · exact runLength_le _ _
  · exact preprocessorStep_extra_le state c rest false

theorem step_extra_le (mode : Mode) : (step state mode c rest).extra <= rest.length := by
  cases mode with
  | lineStart => exact blankOrCodeStep_extra_le state c rest true false
  | code afterType => exact blankOrCodeStep_extra_le state c rest false afterType
  | lineComment => exact Nat.le_refl _
  | hexDigits => exact hexStep_extra_le state c rest
  | number => exact numberStep_extra_le state c rest
  | string interpolated => exact stringStep_extra_le state c rest interpolated
  | interpolation => exact interpolationStep_extra_le state c rest
  | hash => exact hashStep_extra_le state c rest
  | directive => exact directiveStep_extra_le state c rest
  | preprocessor message => exact preprocessorStep_extra_le state c rest message

end Steps

/-!
# Moments
-/

/-- What is known at some place of a line, and what is left of the line there. -/
structure Moment where
  state : State
  mode : Mode
  head : Char
  rest : Text

namespace Moment

def step (moment : Moment) : Step :=
  Mana.step moment.state moment.mode moment.head moment.rest

def lexeme (moment : Moment) : Lexeme where
  text := moment.head :: moment.rest.take moment.step.extra
  inner := moment.step.inner

def behind (moment : Moment) : Text :=
  moment.rest.drop moment.step.extra

theorem step_extra_le (moment : Moment) : moment.step.extra <= moment.rest.length :=
  Mana.step_extra_le moment.state moment.head moment.rest moment.mode

theorem text_append_behind (moment : Moment) :
    moment.lexeme.text ++ moment.behind = moment.head :: moment.rest := by
  rw [lexeme, behind, List.cons_append, List.take_append_drop]

theorem length_lexeme_text (moment : Moment) :
    moment.lexeme.text.length = moment.step.extra + 1 := by
  rw [lexeme, List.length_cons, List.length_take_of_le moment.step_extra_le]

end Moment

def moments (state : State) (mode : Mode) : Nat -> Text -> List Moment
  | _, [] => []
  | taken + 1, _ :: rest => moments state mode taken rest
  | 0, c :: rest =>
      let moment : Moment := { state, mode, head := c, rest }
      moment :: moments moment.step.state moment.step.mode moment.step.extra rest

def lineMoments (state : State) (line : Text) : List Moment :=
  moments state (startMode state line) 0 line

/-!
Passing over characters is dropping them, so the characters still to be passed
over never matter and an induction can go from each moment to the next.
-/

theorem scan_eq_scan_drop (state : State) (mode : Mode) (taken : Nat) (text : Text) :
    scan state mode taken text = scan state mode 0 (text.drop taken) := by
  induction text generalizing taken with
  | nil => cases taken <;> rfl
  | cons c rest ih =>
      cases taken with
      | zero => rfl
      | succ taken => exact ih taken

theorem moments_eq_moments_drop (state : State) (mode : Mode) (taken : Nat) (text : Text) :
    moments state mode taken text = moments state mode 0 (text.drop taken) := by
  induction text generalizing taken with
  | nil => cases taken <;> rfl
  | cons c rest ih =>
      cases taken with
      | zero => rfl
      | succ taken => exact ih taken

@[simp] theorem scan_nil (state : State) (mode : Mode) : scan state mode 0 [] = ([], state) :=
  rfl

theorem scan_moment (moment : Moment) :
    scan moment.state moment.mode 0 (moment.head :: moment.rest) =
      (moment.lexeme :: (scan moment.step.state moment.step.mode 0 moment.behind).1,
        (scan moment.step.state moment.step.mode 0 moment.behind).2) := by
  rw [Moment.behind, ← scan_eq_scan_drop]
  rfl

theorem moments_moment (moment : Moment) :
    moments moment.state moment.mode 0 (moment.head :: moment.rest) =
      moment :: moments moment.step.state moment.step.mode 0 moment.behind := by
  rw [Moment.behind, ← moments_eq_moments_drop]
  rfl

theorem scan_run {state next : State} {mode behind : Mode} {c : Char} {rest : Text}
    {kind : Char -> Bool} {inner : List Scope}
    (hstep : step state mode c rest = ⟨runLength kind rest, inner, behind, next⟩) :
    scan state mode 0 (c :: rest) =
      ({ text := c :: rest.takeWhile kind, inner } ::
          (scan next behind 0 (rest.dropWhile kind)).1,
        (scan next behind 0 (rest.dropWhile kind)).2) := by
  let moment : Moment := { state, mode, head := c, rest }
  have hmoment : moment.step = ⟨runLength kind rest, inner, behind, next⟩ := hstep
  have hscan := scan_moment moment
  rw [Moment.lexeme, Moment.behind, hmoment, take_runLength, drop_runLength] at hscan
  exact hscan

/-- What holds at the end of a line, and at each moment if it holds behind its lexeme, holds
everywhere. -/
theorem moment_induction {motive : State -> Mode -> Text -> Prop}
    (done : forall state mode, motive state mode [])
    (next : forall moment : Moment,
      motive moment.step.state moment.step.mode moment.behind ->
        motive moment.state moment.mode (moment.head :: moment.rest))
    (state : State) (mode : Mode) (text : Text) : motive state mode text := by
  induction hlength : text.length using Nat.strongRecOn generalizing state mode text with
  | ind length ih =>
      cases text with
      | nil => exact done state mode
      | cons c rest =>
          have hshorter : (rest.drop (step state mode c rest).extra).length < length := by
            rw [List.length_drop, ← hlength, List.length_cons]
            omega
          exact next { state, mode, head := c, rest } (ih _ hshorter _ _ _ rfl)

theorem scan_fst (state : State) (mode : Mode) (text : Text) :
    (scan state mode 0 text).1 = (moments state mode 0 text).map Moment.lexeme := by
  induction state, mode, text using moment_induction with
  | done state mode => rfl
  | next moment ih => rw [scan_moment, moments_moment, List.map_cons, ih]

theorem flatten_texts_scan (state : State) (mode : Mode) (text : Text) :
    ((scan state mode 0 text).1.map Lexeme.text).flatten = text := by
  induction state, mode, text using moment_induction with
  | done state mode => rfl
  | next moment ih =>
      rw [scan_moment, List.map_cons, List.flatten_cons, ih, Moment.text_append_behind]

theorem flatten_texts_lexLine (state : State) (line : Text) :
    ((lexLine state line).1.map Lexeme.text).flatten = line :=
  flatten_texts_scan state (startMode state line) line

/-!
# Moments in the midst of a line
-/

theorem moments_eq_cons {state : State} {mode : Mode} {text : Text} {moment : Moment}
    {more : List Moment} (h : moments state mode 0 text = moment :: more) :
    text = moment.head :: moment.rest ∧ moment.state = state ∧ moment.mode = mode ∧
      moments moment.step.state moment.step.mode 0 moment.behind = more := by
  cases text with
  | nil => cases h
  | cons c rest =>
      have hfirst := moments_moment { state, mode, head := c, rest }
      rw [hfirst] at h
      cases h
      exact ⟨rfl, rfl, rfl, rfl⟩

theorem text_of_moments_append {state : State} {mode : Mode} {text : Text}
    {front back : List Moment} {moment : Moment}
    (h : moments state mode 0 text = front ++ moment :: back) :
    text = (front.map fun passed => passed.lexeme.text).flatten ++
      moment.head :: moment.rest := by
  induction front generalizing state mode text with
  | nil => exact (moments_eq_cons h).left
  | cons passed more ih =>
      rcases moments_eq_cons h with ⟨htext, _hstate, _hmode, hmore⟩
      rw [List.map_cons, List.flatten_cons, List.append_assoc, ← ih hmore,
        passed.text_append_behind]
      exact htext

theorem moments_behind {state : State} {mode : Mode} {text : Text} {passed coming : List Moment}
    {moment : Moment} (h : moments state mode 0 text = passed ++ moment :: coming) :
    moments moment.step.state moment.step.mode 0 moment.behind = coming := by
  induction passed generalizing state mode text with
  | nil =>
      rcases moments_eq_cons h with ⟨_htext, _hstate, _hmode, hmore⟩
      exact hmore
  | cons first more ih =>
      rcases moments_eq_cons h with ⟨_htext, _hstate, _hmode, hmore⟩
      exact ih hmore

end Mana
end ScopeProbe
