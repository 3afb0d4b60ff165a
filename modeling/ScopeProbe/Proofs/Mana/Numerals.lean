import Mathlib.Data.List.SplitBy
import ScopeProbe.Proofs.Mana.Code

/-!
# Numbers in code

Where code meets a digit a number begins.  With the mark of a hexadecimal number
it is the mark and the hexadecimal digits behind it.  Otherwise it is the longest
text in front that the grammar of decimal numbers allows, and it is split into
its runs of digits and its single marks.
-/

namespace ScopeProbe
namespace Mana

/-!
# Grammar of decimal numbers
-/

inductive NumberTail : Text -> Prop where
  | nil : NumberTail []
  | suffix {c : Char} : isSuffix c = true -> NumberTail [c]
  | digit {c : Char} {rest : Text} :
      Unicode.isDigit c = true -> NumberTail rest -> NumberTail (c :: rest)
  | thousands {rest : Text} : NumberTail rest -> NumberTail ('_' :: rest)
  | decimals {c : Char} {rest : Text} :
      Unicode.isDigit c = true -> NumberTail (c :: rest) -> NumberTail ('.' :: c :: rest)

/-- A decimal number is a digit with more digits, underscores and points behind it, each point
directly in front of a digit, and at most one suffix at the end. -/
def IsNumber (text : Text) : Prop :=
  exists c rest, text = c :: rest ∧ Unicode.isDigit c = true ∧ NumberTail rest

/-- A text is the longest one of a kind in front of what is ahead. -/
structure LongestAhead (kind : Text -> Prop) (ahead text : Text) : Prop where
  ofKind : kind text
  isAhead : text <+: ahead
  longest : forall other, kind other -> other <+: ahead -> other.length <= text.length

/-!
# The longest tail

Reading as far as each character allows gives the longest tail, since no later
character makes an earlier one wrong.
-/

def longestTail : Text -> Text
  | [] => []
  | c :: rest =>
      if Unicode.isDigit c then c :: longestTail rest
      else if c = '_' then c :: longestTail rest
      else if c = '.' ∧ rest.head?.any Unicode.isDigit then c :: longestTail rest
      else if isSuffix c then [c]
      else []

theorem longestTail_cons_digit {c : Char} (hc : Unicode.isDigit c = true) (rest : Text) :
    longestTail (c :: rest) = c :: longestTail rest := by
  rw [longestTail, if_pos hc]

theorem longestTail_prefix (text : Text) : longestTail text <+: text := by
  induction text with
  | nil => exact List.prefix_rfl
  | cons c rest ih =>
      have hmore : c :: longestTail rest <+: c :: rest := (List.prefix_cons_inj c).mpr ih
      unfold longestTail
      split_ifs with hdigit hthousands hdecimals hsuffix
      · exact hmore
      · exact hmore
      · exact hmore
      · exact List.prefix_iff_eq_take.mpr rfl
      · exact List.nil_prefix

theorem numberTail_longestTail (text : Text) : NumberTail (longestTail text) := by
  induction text with
  | nil => exact NumberTail.nil
  | cons c rest ih =>
      unfold longestTail
      split_ifs with hdigit hthousands hdecimals hsuffix
      · exact NumberTail.digit hdigit ih
      · rw [hthousands]
        exact NumberTail.thousands ih
      · rcases hdecimals with ⟨hpoint, hbehind⟩
        cases rest with
        | nil => cases hbehind
        | cons d more =>
            have hd : Unicode.isDigit d = true := hbehind
            rw [longestTail_cons_digit hd] at ih ⊢
            rw [hpoint]
            exact NumberTail.decimals hd ih
      · exact NumberTail.suffix hsuffix
      · exact NumberTail.nil

theorem isDigit_of_isSuffix {c : Char} (hc : isSuffix c = true) : Unicode.isDigit c = false := by
  have hletters : ("fFdDmMlLuU".toList.all fun d => !Unicode.isDigit d) = true := by decide
  have hnot := List.all_eq_true.mp hletters c (List.contains_iff_mem.mp hc)
  rwa [Bool.not_eq_true'] at hnot

theorem length_le_longestTail {tail ahead : Text} (htail : NumberTail tail)
    (hahead : tail <+: ahead) : tail.length <= (longestTail ahead).length := by
  rcases hahead with ⟨behind, rfl⟩
  induction htail with
  | nil => exact Nat.zero_le _
  | @suffix c hc =>
      have hpos : 0 < (longestTail (c :: behind)).length := by
        unfold longestTail
        split_ifs <;> simp
      exact hpos
  | @digit c rest hc _hrest ih =>
      rw [List.cons_append, longestTail_cons_digit hc]
      exact Nat.succ_le_succ ih
  | @thousands rest _hrest ih =>
      have hlongest : longestTail ('_' :: (rest ++ behind)) =
          '_' :: longestTail (rest ++ behind) := by
        rw [longestTail, if_neg (by decide), if_pos rfl]
      rw [List.cons_append, hlongest]
      exact Nat.succ_le_succ ih
  | @decimals c rest hc _hrest ih =>
      have hlongest : longestTail ('.' :: (c :: rest ++ behind)) =
          '.' :: longestTail (c :: rest ++ behind) := by
        rw [longestTail, if_neg (by decide), if_neg (by decide), if_pos ⟨rfl, hc⟩]
      rw [List.cons_append, hlongest]
      exact Nat.succ_le_succ ih

theorem longestAhead_number {c : Char} (hc : Unicode.isDigit c = true) (rest : Text) :
    LongestAhead IsNumber (c :: rest) (longestTail (c :: rest)) := by
  refine ⟨?_, longestTail_prefix (c :: rest), ?_⟩
  · rw [longestTail_cons_digit hc]
    exact ⟨c, _, rfl, hc, numberTail_longestTail rest⟩
  · intro other hother hahead
    rcases hother with ⟨d, tail, rfl, hd, htail⟩
    exact length_le_longestTail (NumberTail.digit hd htail) hahead

theorem longestTail_run (text : Text) :
    longestTail text =
      text.takeWhile Unicode.isDigit ++ longestTail (text.dropWhile Unicode.isDigit) := by
  induction text with
  | nil => rfl
  | cons c rest ih =>
      cases hc : Unicode.isDigit c with
      | false => simp [hc]
      | true =>
          rw [longestTail_cons_digit hc, ih, List.takeWhile_cons_of_pos hc,
            List.dropWhile_cons_of_pos hc, List.cons_append]

theorem longestTail_cons_run {c : Char} (hc : Unicode.isDigit c = true) (rest : Text) :
    longestTail (c :: rest) = (c :: rest.takeWhile Unicode.isDigit) ++
      longestTail (rest.dropWhile Unicode.isDigit) := by
  rw [longestTail_run, List.takeWhile_cons_of_pos hc, List.dropWhile_cons_of_pos hc]

theorem digits_takeWhile {c : Char} (hc : Unicode.isDigit c = true) (rest : Text) :
    forall d, d ∈ c :: rest.takeWhile Unicode.isDigit -> Unicode.isDigit d = true := by
  intro d hd
  rcases List.mem_cons.mp hd with rfl | hmore
  · exact hc
  · exact List.all_eq_true.mp List.all_takeWhile d hmore

theorem head?_dropWhile_isDigit (text : Text) :
    forall c, c ∈ (text.dropWhile Unicode.isDigit).head? -> Unicode.isDigit c = false := by
  intro c hc
  have hstop := List.head?_dropWhile_not Unicode.isDigit text
  rw [hc] at hstop
  exact hstop

/-!
# Parts of a number
-/

def bothDigits (c d : Char) : Bool :=
  Unicode.isDigit c && Unicode.isDigit d

def partScopes (text : Text) : List Scope :=
  match text.head? with
  | none => []
  | some c =>
      if Unicode.isDigit c then []
      else if c = '_' then [.constantNumericOtherSeparatorThousands]
      else if c = '.' then [.constantNumericOtherSeparatorDecimals]
      else [.constantNumericOtherSuffix]

def numberParts (number : Text) : List Lexeme :=
  (number.splitBy bothDigits).map fun text =>
    { text, inner := .constantNumericDecimal :: partScopes text }

theorem numberParts_run {run tail : Text} (hrun : run ≠ [])
    (hdigits : forall c, c ∈ run -> Unicode.isDigit c = true)
    (htail : forall c, c ∈ tail.head? -> Unicode.isDigit c = false) :
    numberParts (run ++ tail) =
      { text := run, inner := [.constantNumericDecimal] } :: numberParts tail := by
  have hchain : run.IsChain fun c d => bothDigits c d = true := by
    apply List.Pairwise.isChain
    apply List.pairwise_iff_forall_sublist.mpr
    intro c d hpair
    have hc : c ∈ run := hpair.subset List.mem_cons_self
    have hd : d ∈ run := hpair.subset (List.mem_cons_of_mem _ List.mem_cons_self)
    rw [bothDigits, hdigits c hc, hdigits d hd, Bool.and_self]
  have hsplit : (run ++ tail).splitBy bothDigits = run :: tail.splitBy bothDigits := by
    rw [List.splitBy_append, List.splitBy_of_isChain hrun hchain, List.singleton_append]
    intro c _hc d hd
    rw [bothDigits, htail d hd, Bool.and_false]
  have hscopes : partScopes run = [] := by
    cases run with
    | nil => exact absurd rfl hrun
    | cons c more => exact if_pos (hdigits c List.mem_cons_self)
  rw [numberParts, hsplit, List.map_cons, hscopes]
  rfl

theorem numberParts_mark {c : Char} (hc : Unicode.isDigit c = false) (tail : Text) :
    numberParts (c :: tail) =
      { text := [c], inner := .constantNumericDecimal :: partScopes [c] } ::
        numberParts tail := by
  have hsplit : ([c] ++ tail).splitBy bothDigits = [c] :: tail.splitBy bothDigits := by
    rw [List.splitBy_append]
    · rfl
    · intro d hd e _he
      have hsame : c = d := Option.some.inj hd
      rw [bothDigits, ← hsame, hc, Bool.false_and]
  rw [numberParts, ← List.singleton_append, hsplit]
  rfl

example : (numberParts "1_0.25f".toList).map (fun part => String.ofList part.text) =
    ["1", "_", "0", ".", "25", "f"] := by
  decide +kernel

/-!
# Scanning numbers
-/

def IsSeparator (c : Char) (rest : Text) : Prop :=
  c = '_' ∨ c = '.' ∧ rest.head?.any Unicode.isDigit = true

theorem IsSeparator.isDigit {c : Char} {rest : Text} (h : IsSeparator c rest) :
    Unicode.isDigit c = false := by
  rcases h with rfl | hpoint
  · decide
  · rw [hpoint.left]
    decide

theorem IsSeparator.longestTail {c : Char} {rest : Text} (h : IsSeparator c rest) :
    Mana.longestTail (c :: rest) = c :: Mana.longestTail rest := by
  rw [Mana.longestTail, if_neg (by simp [h.isDigit])]
  rcases h with hthousands | hdecimals
  · rw [if_pos hthousands]
  · rw [if_neg (by simp [hdecimals.left]), if_pos hdecimals]

theorem IsSeparator.numberStep {c : Char} {rest : Text} (h : IsSeparator c rest) (state : State) :
    step state .number c rest =
      ⟨0, .constantNumericDecimal :: partScopes [c], .number, state⟩ := by
  show Mana.numberStep state c rest = _
  have hscopes : partScopes [c] =
      if c = '_' then [.constantNumericOtherSeparatorThousands]
      else if c = '.' then [.constantNumericOtherSeparatorDecimals]
      else [.constantNumericOtherSuffix] := if_neg (by simp [h.isDigit])
  rw [Mana.numberStep, if_neg (by simp [h.isDigit]), hscopes]
  rcases h with hthousands | hdecimals
  · rw [if_pos hthousands, if_pos hthousands]
  · have hnot : c ≠ '_' := by simp [hdecimals.left]
    rw [if_neg hnot, if_neg hnot, if_pos hdecimals, if_pos hdecimals.left]

theorem suffix_numberStep {c : Char} (hsuffix : isSuffix c = true) (state : State)
    (rest : Text) :
    longestTail (c :: rest) = [c] ∧
      step state .number c rest =
        ⟨0, .constantNumericDecimal :: partScopes [c], .code false, state⟩ := by
  have hmarks : c ≠ '_' ∧ c ≠ '.' := by
    refine ⟨?_, ?_⟩ <;>
      · rintro rfl
        cases hsuffix
  have hdigit : ¬ Unicode.isDigit c = true := by simp [isDigit_of_isSuffix hsuffix]
  have hpoint : ¬ (c = '.' ∧ rest.head?.any Unicode.isDigit = true) := fun h =>
    hmarks.right h.left
  have hscopes : partScopes [c] = [.constantNumericOtherSuffix] := by
    show (if _ then _ else _) = _
    rw [if_neg hdigit, if_neg hmarks.left, if_neg hmarks.right]
  refine ⟨?_, ?_⟩
  · rw [longestTail, if_neg hdigit, if_neg hmarks.left, if_neg hpoint, if_pos hsuffix]
  · show numberStep state c rest = _
    rw [numberStep, if_neg hdigit, if_neg hmarks.left, if_neg hpoint, if_pos hsuffix, hscopes]

theorem longestTail_of_stop {c : Char} {rest : Text} (hdigit : Unicode.isDigit c = false)
    (hseparator : ¬ IsSeparator c rest) (hsuffix : isSuffix c = false) :
    longestTail (c :: rest) = [] ∧ continuesNumber (c :: rest) = false := by
  rw [IsSeparator, not_or] at hseparator
  refine ⟨?_, ?_⟩
  · rw [longestTail, if_neg (by simp [hdigit]), if_neg hseparator.left, if_neg hseparator.right,
      if_neg (by simp [hsuffix])]
  · simp only [continuesNumber, hdigit, hsuffix, Bool.false_or, Bool.or_false,
      Bool.or_eq_false_iff, beq_eq_false_iff_ne, Bool.and_eq_false_iff]
    refine ⟨hseparator.left, ?_⟩
    cases hc : rest.head?.any Unicode.isDigit with
    | false => exact Or.inr rfl
    | true => exact Or.inl fun hpoint => hseparator.right ⟨hpoint, hc⟩

theorem head?_longestTail_of_isDigit {text : Text}
    (htext : forall c, c ∈ text.head? -> Unicode.isDigit c = false) :
    forall c, c ∈ (longestTail text).head? -> Unicode.isDigit c = false := by
  intro c hc
  rcases List.head?_eq_some_iff.mp hc with ⟨more, hmore⟩
  rcases longestTail_prefix text with ⟨behind, hbehind⟩
  rw [hmore] at hbehind
  apply htext c
  rw [← hbehind]
  rfl

theorem scan_number (state : State) (text : Text) :
    (scan state .number 0 text).1 =
      numberParts (longestTail text) ++
        (scan state (.code false) 0 (text.drop (longestTail text).length)).1 := by
  induction hlength : text.length using Nat.strongRecOn generalizing text with
  | ind length ih =>
      cases text with
      | nil => rfl
      | cons c rest =>
          cases hdigit : Unicode.isDigit c with
          | true =>
              have hstep : step state .number c rest =
                  ⟨runLength Unicode.isDigit rest, [.constantNumericDecimal], .number, state⟩ :=
                if_pos hdigit
              have hshorter : (rest.dropWhile Unicode.isDigit).length < length := by
                have hle := (List.dropWhile_sublist (l := rest) Unicode.isDigit).length_le
                rw [← hlength, List.length_cons]
                omega
              have hbehind : (c :: rest).drop (c :: rest.takeWhile Unicode.isDigit).length =
                  rest.dropWhile Unicode.isDigit := by
                rw [List.length_cons, List.drop_succ_cons]
                exact drop_runLength Unicode.isDigit rest
              rw [scan_run hstep, longestTail_cons_run hdigit, List.length_append,
                ← List.drop_drop, hbehind, numberParts_run (List.cons_ne_nil _ _)]
              · exact congrArg _ (ih _ hshorter _ rfl)
              · exact digits_takeWhile hdigit rest
              · exact head?_longestTail_of_isDigit (head?_dropWhile_isDigit rest)
          | false =>
              by_cases hseparator : IsSeparator c rest
              · rw [scan_char (hseparator.numberStep state), hseparator.longestTail,
                  numberParts_mark hdigit]
                have hshorter : rest.length < length := by
                  rw [← hlength]
                  exact Nat.lt_succ_self _
                exact congrArg _ (ih _ hshorter _ rfl)
              · cases hsuffix : isSuffix c with
                | true =>
                    rcases suffix_numberStep hsuffix state rest with ⟨htail, hstep⟩
                    rw [scan_char hstep, htail, numberParts_mark hdigit]
                    rfl
                | false =>
                    rcases longestTail_of_stop hdigit hseparator hsuffix with ⟨htail, hstop⟩
                    have hreads : Mode.number.readsCode (c :: rest) = true := by
                      rw [Mode.readsCode, hstop]
                      rfl
                    rw [htail, scan_behind_digits state (Or.inr rfl) hreads]
                    rfl

/-!
# Hexadecimal numbers
-/

def StartsHex (text : Text) : Prop :=
  text.take 2 = ['0', 'x'] ∨ text.take 2 = ['0', 'X']

def hexRun (text : Text) : List Lexeme :=
  if text.takeWhile Hexadecimal.isDigit = [] then []
  else [{ text := text.takeWhile Hexadecimal.isDigit, inner := [.constantNumericHex] }]

def hexParts (ahead : Text) : List Lexeme :=
  { text := ahead.take 2, inner := [.constantNumericHex, .constantNumericOtherPrefixHex] } ::
    hexRun (ahead.drop 2)

theorem scan_hexDigits (state : State) (text : Text) :
    (scan state .hexDigits 0 text).1 =
      hexRun text ++
        (scan state (.code false) 0 (text.dropWhile Hexadecimal.isDigit)).1 := by
  cases text with
  | nil => rfl
  | cons c rest =>
      cases hc : Hexadecimal.isDigit c with
      | true =>
          have hstep : step state .hexDigits c rest =
              ⟨runLength Hexadecimal.isDigit rest, [.constantNumericHex], .code false, state⟩ :=
            if_pos hc
          rw [scan_run hstep, hexRun, List.takeWhile_cons_of_pos hc,
            List.dropWhile_cons_of_pos hc, if_neg (List.cons_ne_nil _ _)]
          rfl
      | false =>
          have hreads : Mode.hexDigits.readsCode (c :: rest) = true := by
            simp [Mode.readsCode, hc]
          have hnone : (c :: rest).takeWhile Hexadecimal.isDigit = [] := by simp [hc]
          have hall : (c :: rest).dropWhile Hexadecimal.isDigit = c :: rest := by simp [hc]
          rw [hexRun, if_pos hnone, hall, scan_behind_digits state (Or.inl rfl) hreads]
          rfl

/-!
# Numbers in a line
-/

structure NumberTold (ahead : Text) (lexemes : List Lexeme) : Prop where
  hexadecimal : StartsHex ahead -> lexemes = hexParts ahead
  decimal : ¬ StartsHex ahead ->
    exists number, LongestAhead IsNumber ahead number ∧ lexemes = numberParts number

theorem codeStep_digit {state : State} (hcomment : state.inComment = false) (afterType : Bool)
    {c : Char} (hc : Unicode.isDigit c = true) (rest : Text) :
    codeStep state afterType c rest = numberStart state c rest := by
  have hother : c ≠ '/' ∧ c ≠ '$' ∧ c ≠ '"' := by
    refine ⟨?_, ?_, ?_⟩ <;>
      · rintro rfl
        exact absurd hc (by decide)
  rcases hother with ⟨hslash, hdollar, hquote⟩
  simp [codeStep, hcomment, hslash, hdollar, hquote, hc]

theorem startsHex_iff (c : Char) (rest : Text) :
    StartsHex (c :: rest) <-> c = '0' ∧ (rest.head? = some 'x' ∨ rest.head? = some 'X') := by
  cases rest with
  | nil => simp [StartsHex]
  | cons d more => simp [StartsHex, and_or_left]

theorem scan_numberStart {state : State} {mode : Mode} {c : Char} {rest : Text}
    (hc : Unicode.isDigit c = true) (hstep : step state mode c rest = numberStart state c rest) :
    exists lexemes behind,
      (scan state mode 0 (c :: rest)).1 = lexemes ++ (scan state (.code false) 0 behind).1 ∧
        NumberTold (c :: rest) lexemes := by
  by_cases hhex : StartsHex (c :: rest)
  · have hmark := (startsHex_iff c rest).mp hhex
    have hstart : step state mode c rest =
        ⟨1, [.constantNumericHex, .constantNumericOtherPrefixHex], .hexDigits, state⟩ :=
      hstep.trans (if_pos hmark)
    have hscan : (scan state mode 0 (c :: rest)).1 =
        { text := (c :: rest).take 2,
          inner := [.constantNumericHex, .constantNumericOtherPrefixHex] } ::
          (scan state .hexDigits 0 ((c :: rest).drop 2)).1 := by
      rw [scan, hstart, scan_eq_scan_drop]
      rfl
    refine ⟨hexParts (c :: rest), ((c :: rest).drop 2).dropWhile Hexadecimal.isDigit, ?_,
      fun _hhex => rfl, fun hnot => absurd hhex hnot⟩
    rw [hscan, scan_hexDigits]
    rfl
  · have hnot : ¬ (c = '0' ∧ (rest.head? = some 'x' ∨ rest.head? = some 'X')) := fun hmark =>
      hhex ((startsHex_iff c rest).mpr hmark)
    have hsame : step state mode c rest = step state .number c rest := by
      rw [hstep, numberStart, if_neg hnot]
      exact (if_pos hc).symm
    refine ⟨numberParts (longestTail (c :: rest)),
      (c :: rest).drop (longestTail (c :: rest)).length, ?_, fun hmark => absurd hmark hhex,
      fun _hnot => ⟨_, longestAhead_number hc rest, rfl⟩⟩
    rw [scan_of_step hsame, scan_number]

/-- Wherever code meets a digit of a line, the tokens from there on are those of a number: its mark
and its hexadecimal digits, or the parts of the longest decimal number ahead. -/
theorem number_is_longest {before : Option State} {line : Text} {position : Nat} {moment : Moment}
    (hcomes : ComesTo (before.getD {}) line position moment) (hcode : moment.InCode)
    (hdigit : Unicode.isDigit moment.head = true) :
    exists lexemes, Inset before line position moment.state lexemes ∧
      NumberTold (line.drop position) lexemes := by
  have hvisible : isBlank moment.head = false := by
    cases hblank : isBlank moment.head with
    | false => rfl
    | true =>
        rcases Bool.or_eq_true_iff.mp hblank with hspace | htab
        · rw [beq_iff_eq.mp hspace] at hdigit
          exact absurd hdigit (by decide)
        · rw [beq_iff_eq.mp htab] at hdigit
          exact absurd hdigit (by decide)
  rcases hcode.step_eq hvisible with ⟨afterType, hstep⟩
  rw [codeStep_digit hcode.noComment afterType hdigit] at hstep
  rcases scan_numberStart hdigit hstep with ⟨lexemes, behind, hscan, htold⟩
  rw [hcomes.drop_eq]
  exact ⟨lexemes, hcomes.inset hscan, htold⟩

theorem number_ends_at_last_digit :
    exists moment : Moment,
      ComesTo ((none : Option State).getD {}) "a=1__0.2.x".toList 2 moment ∧ moment.InCode ∧
        Unicode.isDigit moment.head = true ∧
        exists lexemes, Inset none "a=1__0.2.x".toList 2 moment.state lexemes ∧
          NumberTold ("a=1__0.2.x".toList.drop 2) lexemes := by
  have hcomes : ComesTo ((none : Option State).getD {}) "a=1__0.2.x".toList 2
      { state := {}, mode := .code false, head := '1', rest := "__0.2.x".toList } :=
    ⟨(lineMoments {} "a=1__0.2.x".toList).take 2, (lineMoments {} "a=1__0.2.x".toList).drop 3,
      by decide +kernel, by decide +kernel⟩
  exact ⟨_, hcomes, ⟨rfl, rfl⟩, by decide, number_is_longest hcomes ⟨rfl, rfl⟩ (by decide)⟩

end Mana
end ScopeProbe
