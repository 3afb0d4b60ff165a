import Mathlib.Data.List.Basic
import ScopeProbe.Proofs.FirstFailure

/-!
# Diagnostics point at the lexeme

A located failure is shown in five rows.  The bars of the last three stand in
one column, however many digits the number of the line has, and the carets of
the last row stand under the place of the lexeme in the source line above.  So
what is above the carets of a failure of a reading is the lexeme that failed.
-/

namespace ScopeProbe

/-!
# Numerals
-/

namespace Text

structure IsNumeral (digits : Text) (n : Nat) : Prop where
  decimal : forall c, c ∈ digits -> isDecimal c = true
  value : numberOf digits = n
  leading : digits.head? = some '0' -> digits = ['0']
  nonempty : digits ≠ []

theorem numberOf_ofNat (n : Nat) : numberOf (ofNat n) = n := by
  have hstep : (fun sum c => sum * 10 + digitValue c) =
      fun sum (c : Char) => 10 * sum + (c.toNat - '0'.toNat) := by
    funext sum c
    rw [Nat.mul_comm, digitValue]
  rw [numberOf, hstep]
  exact Nat.ofDigitChars_toDigits (by decide) (by decide)

theorem isDecimal_of_mem_ofNat {n : Nat} {c : Char} (hc : c ∈ ofNat n) : isDecimal c = true := by
  have hdigit : c.isDigit = true := Nat.isDigit_of_mem_toDigits (by decide) (by decide) hc
  simpa [Char.isDigit, isDecimal, Char.le_def] using hdigit

theorem ofNat_of_zero_front (n : Nat) (hzero : (ofNat n).head? = some '0') : ofNat n = ['0'] := by
  induction n using Nat.strongRecOn with
  | ind n ih =>
      rw [ofNat, Nat.toDigits_eq_if (by decide)] at hzero ⊢
      split_ifs at hzero ⊢ with hsmall
      · rw [List.head?_cons, Option.some_inj] at hzero
        rw [hzero]
      · -- The digits in front of the last one would be a zero, and they are the number over ten.
        have hfront : (ofNat (n / 10)).head? = some '0' := by
          rwa [List.head?_append_of_ne_nil _ Nat.toDigits_ne_nil] at hzero
        have hvalue := numberOf_ofNat (n / 10)
        rw [ih (n / 10) (by omega) hfront] at hvalue
        have hnone : 0 = n / 10 := hvalue
        omega

theorem isNumeral_ofNat (n : Nat) : (ofNat n).IsNumeral n where
  decimal := fun _c => isDecimal_of_mem_ofNat
  value := numberOf_ofNat n
  leading := ofNat_of_zero_front n
  nonempty := Nat.toDigits_ne_nil

theorem ofInt_succ (n : Nat) : ofInt ((n : Int) + 1) = ofNat (n + 1) := by
  rw [ofInt, if_neg (by omega)]
  rfl

theorem notMem_ofNat {c : Char} (hc : isDecimal c = false) (n : Nat) : c ∉ ofNat n := by
  intro hmember
  rw [isDecimal_of_mem_ofNat hmember] at hc
  cases hc

end Text

theorem Text.take_cut {text : Text} {start : Nat} {stop : Int} (hsome : text.cut start stop ≠ []) :
    (text.drop start).take (text.cut start stop).length = text.cut start stop := by
  have hstart : clamp text.length start = min start text.length := by
    rw [clamp, if_neg (by omega)]
    rfl
  have hinside : start < text.length := by
    by_contra hbehind
    apply hsome
    rw [cut, hstart, List.drop_eq_nil_iff, List.length_take]
    omega
  have hcut : text.cut start stop = (text.drop start).take (clamp text.length stop - start) := by
    rw [cut, hstart, Nat.min_eq_left (Nat.le_of_lt hinside), List.drop_take]
  rw [hcut, List.length_take, ← List.take_eq_take_min]

namespace UnrecognizedScope

open Text (ofNat)

/-!
# What is above the carets
-/

/-- The characters of a row above the carets of another one. -/
def aboveCarets (upper lower : Text) : Text :=
  ((upper.zip lower).filter fun pair => pair.2 == '^').map Prod.fst

theorem aboveCarets_append {upperFront lowerFront : Text}
    (hlength : upperFront.length = lowerFront.length) (hnone : '^' ∉ lowerFront)
    (upper lower : Text) :
    aboveCarets (upperFront ++ upper) (lowerFront ++ lower) = aboveCarets upper lower := by
  have hfront : (upperFront.zip lowerFront).filter (fun pair => pair.2 == '^') = [] := by
    rw [List.filter_eq_nil_iff]
    intro pair hpair hcaret
    have hlower : pair.2 ∈ lowerFront := (List.of_mem_zip hpair).right
    rw [beq_iff_eq.mp hcaret] at hlower
    exact hnone hlower
  rw [aboveCarets, List.zip_append hlength, List.filter_append, hfront]
  rfl

theorem aboveCarets_spaces (upper : Text) (count : Nat) (lower : Text) :
    aboveCarets upper (List.replicate count ' ' ++ lower) =
      aboveCarets (upper.drop count) lower := by
  induction count generalizing upper with
  | zero => rfl
  | succ count ih =>
      cases upper with
      | nil => rfl
      | cons c more => exact ih more

theorem aboveCarets_carets (upper : Text) (count : Nat) :
    aboveCarets upper (List.replicate count '^') = upper.take count := by
  induction count generalizing upper with
  | zero =>
      rw [List.replicate_zero, aboveCarets, List.zip_nil_right]
      rfl
  | succ count ih =>
      cases upper with
      | nil => rfl
      | cons c more => exact congrArg (c :: ·) (ih more)

/-!
# The rows
-/

def bar (row : Text) : Nat :=
  row.idxOf '|'

def TellsPlace (locator filename : Text) (line column : Nat) : Prop :=
  exists blanks lineNumber columnNumber,
    locator = List.replicate blanks ' ' ++ "--> ".toList ++ filename ++ ':' :: lineNumber ++
      ':' :: columnNumber ∧
    Text.IsNumeral lineNumber (line + 1) ∧ Text.IsNumeral columnNumber (column + 1)

/-- The last three rows of a diagnostic about so many characters of a source line from a column on.
Their gutters end in one column, and behind the gutter of the last one only the carets are not
blank. -/
structure PointsAt (line column count : Nat) (sourceLine border source underline : Text) :
    Prop where
  border_eq : border = List.replicate (bar source) ' ' ++ ['|']
  gutter : exists number, source.take (bar source + 2) = number ++ " | ".toList ∧
    Text.IsNumeral number (line + 1)
  shown : source.drop (bar source + 2) = sourceLine
  underline_gutter : underline.take (bar source + 1) = border
  blank : forall position, bar source < position -> position < bar source + 2 + column ->
    underline[position]? = some ' '
  caret_iff : forall position, underline[position]? = some '^' <->
    bar source + 2 + column <= position ∧ position < bar source + 2 + column + count
  length_underline : underline.length = bar source + 2 + column + count
  above : aboveCarets source underline = (sourceLine.drop column).take count

def sourceRow (number sourceLine : Text) : Text :=
  number ++ " | ".toList ++ sourceLine

def caretRow (width column count : Nat) : Text :=
  blankGutter width ++ [' '] ++ List.replicate column ' ' ++ List.replicate count '^'

section

variable {number : Text} (sourceLine : Text) (width column count : Nat)

@[simp] theorem length_blankGutter : (blankGutter width).length = width + 2 := by
  rw [blankGutter, List.length_append, List.length_replicate]
  rfl

theorem bar_sourceRow (hnumber : '|' ∉ number) :
    bar (sourceRow number sourceLine) = number.length + 1 := by
  have hrow : sourceRow number sourceLine = (number ++ [' ']) ++ '|' :: ' ' :: sourceLine := by
    rw [sourceRow, List.append_assoc, List.append_assoc]
    rfl
  have hnone : '|' ∉ number ++ [' '] := by
    rw [List.mem_append, not_or]
    exact ⟨hnumber, by decide⟩
  rw [bar, hrow, List.idxOf_append_of_notMem hnone, List.idxOf_cons_self, List.length_append]
  rfl

theorem getElem?_caretRow_blank {position : Nat} (hgutter : width + 2 <= position)
    (hcaret : position < width + 3 + column) :
    (caretRow width column count)[position]? = some ' ' := by
  have hrow : caretRow width column count =
      blankGutter width ++ (List.replicate (column + 1) ' ' ++ List.replicate count '^') := by
    rw [caretRow, List.append_assoc, List.append_assoc, List.replicate_succ]
    rfl
  rw [hrow, List.getElem?_append_right (by rw [length_blankGutter]; exact hgutter),
    length_blankGutter, List.getElem?_append_left (by rw [List.length_replicate]; omega),
    List.getElem?_replicate, if_pos (by omega)]

theorem getElem?_caretRow_caret {position : Nat} :
    (caretRow width column count)[position]? = some '^' <->
      width + 3 + column <= position ∧ position < width + 3 + column + count := by
  have hlength : (blankGutter width ++ [' '] ++ List.replicate column ' ').length =
      width + 3 + column := by
    rw [List.length_append, List.length_append, length_blankGutter, List.length_replicate]
    rfl
  have hnone : '^' ∉ blankGutter width ++ [' '] ++ List.replicate column ' ' := by
    rw [blankGutter]
    simp [List.mem_replicate]
  rw [caretRow]
  rcases Nat.lt_or_ge position (width + 3 + column) with hfront | hbehind
  · rw [List.getElem?_append_left (by rw [hlength]; exact hfront)]
    constructor
    · exact fun hcaret => absurd (List.mem_of_getElem? hcaret) hnone
    · intro hbounds
      omega
  · rw [List.getElem?_append_right (by rw [hlength]; exact hbehind), hlength,
      List.getElem?_replicate]
    split_ifs with hcount
    · exact ⟨fun _ => ⟨hbehind, by omega⟩, fun _ => rfl⟩
    · exact ⟨nofun, fun hbounds => by omega⟩

theorem aboveCarets_rows :
    aboveCarets (sourceRow number sourceLine) (caretRow number.length column count) =
      (sourceLine.drop column).take count := by
  have hlength : (number ++ " | ".toList).length = (blankGutter number.length ++ [' ']).length := by
    rw [List.length_append, List.length_append, length_blankGutter]
    rfl
  have hnone : '^' ∉ blankGutter number.length ++ [' '] := by
    rw [blankGutter]
    simp [List.mem_replicate]
  rw [sourceRow, caretRow, List.append_assoc (blankGutter _ ++ _), aboveCarets_append hlength hnone,
    aboveCarets_spaces, aboveCarets_carets]

theorem pointsAt_rows {line : Nat} (hnumber : Text.IsNumeral number (line + 1)) :
    PointsAt line column count sourceLine (blankGutter number.length)
      (sourceRow number sourceLine) (caretRow number.length column count) := by
  have hbar : bar (sourceRow number sourceLine) = number.length + 1 :=
    bar_sourceRow sourceLine fun hmember => absurd (hnumber.decimal '|' hmember) (by decide)
  have hlength : (number ++ " | ".toList).length = number.length + 1 + 2 :=
    List.length_append
  constructor
  · rw [hbar]
    rfl
  · exact ⟨number, by rw [hbar, sourceRow, List.take_left' hlength], hnumber⟩
  · rw [hbar, sourceRow, List.drop_left' hlength]
  · rw [hbar, caretRow, List.append_assoc, List.append_assoc,
      List.take_left' (length_blankGutter number.length)]
  · rw [hbar]
    exact fun position hgutter hcaret =>
      getElem?_caretRow_blank number.length column count hgutter hcaret
  · rw [hbar]
    exact fun position => getElem?_caretRow_caret number.length column count
  · rw [hbar, caretRow]
    simp only [List.length_append, List.length_replicate, length_blankGutter,
      List.length_singleton]
  · exact aboveCarets_rows sourceLine column count

end

/-!
# The diagnostic
-/

section

variable {failure : UnrecognizedScope} {filename : Text} {line column : Nat}

theorem rows_eq : failure.rows filename line column =
    ["error: ".toList ++ failure.message,
      List.replicate ((ofNat (line + 1)).length + 1) ' ' ++ "--> ".toList ++ filename ++ [':'] ++
        ofNat (line + 1) ++ [':'] ++ ofNat (column + 1),
      blankGutter (ofNat (line + 1)).length,
      sourceRow (ofNat (line + 1)) failure.sourceLine,
      caretRow (ofNat (line + 1)).length column (max 1 failure.text.length)] := by
  rw [rows, Text.ofInt_succ, Text.ofInt_succ]
  rfl

theorem newline_notMem_rows (hscope : '\n' ∉ failure.scope.toList) (hfilename : '\n' ∉ filename)
    (hsource : '\n' ∉ failure.sourceLine) :
    forall row, row ∈ failure.rows filename line column -> '\n' ∉ row := by
  have hdigits := Text.notMem_ofNat (show Text.isDecimal '\n' = false by decide)
  have hmessage : '\n' ∉ failure.message := by
    unfold message
    simp [hscope]
  intro row hrow
  rw [rows_eq] at hrow
  simp only [List.mem_cons, List.not_mem_nil, or_false] at hrow
  rcases hrow with rfl | rfl | rfl | rfl | rfl
  · simp [hmessage]
  · simp [hdigits, hfilename]
  · simp [blankGutter]
  · simp [sourceRow, hdigits, hsource]
  · simp [caretRow, blankGutter]

theorem lines_format (hline : failure.line = some (line : Int))
    (hcolumn : failure.column = some (column : Int)) (hscope : '\n' ∉ failure.scope.toList)
    (hfilename : '\n' ∉ filename) (hsource : '\n' ∉ failure.sourceLine) :
    Text.lines (failure.format filename) = failure.rows filename line column := by
  have hsome : failure.rows filename line column ≠ [] := by
    rw [rows_eq]
    exact List.cons_ne_nil _ _
  unfold format
  rw [hline, hcolumn]
  dsimp only
  exact Text.lines_unlines hsome (newline_notMem_rows hscope hfilename hsource)

theorem lexeme_of_classify {σ : Type} {grammar : Grammar σ} {excerpt : Excerpt}
    {excludeCarriers : Bool} (hfailure : excerpt.classify grammar excludeCarriers = .error failure)
    (hcolumn : failure.column = some (column : Int)) (htext : failure.text ≠ []) :
    (failure.sourceLine.drop column).take (max 1 failure.text.length) = failure.text := by
  rw [Nat.max_eq_right (List.length_pos_iff.mpr htext)]
  rw [Excerpt.classify] at hfailure
  cases hfirst : excerpt.firstUnknown? grammar with
  | none =>
      rcases Excerpt.read_of_known excludeCarriers hfirst with ⟨tokens, _htokens, hread⟩
      rw [hread] at hfailure
      cases hfailure
  | some entry =>
      rcases entry with ⟨index, token⟩
      rcases Excerpt.read_of_unknown excludeCarriers hfirst with ⟨source, _hsource, hread⟩
      rw [hread] at hfailure
      cases hfailure
      have hstart : token.start = column := Option.some.inj hcolumn
      have hlexeme : (token.failureIn index source).text = source.cut column token.stop :=
        congrArg (fun start => source.cut start token.stop) hstart
      rw [hlexeme] at htext ⊢
      exact Text.take_cut htext

end

/-- A diagnostic has five rows.  The second one tells the place, and the others under it show the
source line with carets exactly under the place of the lexeme.  If the failure comes of a reading,
the lexeme itself is above the carets. -/
theorem diagnostic_points_at_lexeme {failure : UnrecognizedScope} {filename : Text}
    {line column : Nat} (hline : failure.line = some (line : Int))
    (hcolumn : failure.column = some (column : Int)) (hscope : '\n' ∉ failure.scope.toList)
    (hfilename : '\n' ∉ filename) (hsource : '\n' ∉ failure.sourceLine) :
    exists headline locator border source underline,
      Text.lines (failure.format filename) = [headline, locator, border, source, underline] ∧
        TellsPlace locator filename line column ∧
        PointsAt line column (max 1 failure.text.length) failure.sourceLine border source
          underline ∧
        forall (σ : Type) (grammar : Grammar σ) (excerpt : Excerpt) (excludeCarriers : Bool),
          excerpt.classify grammar excludeCarriers = .error failure -> failure.text ≠ [] ->
            aboveCarets source underline = failure.text := by
  have hrows := lines_format hline hcolumn hscope hfilename hsource
  have hpoints := pointsAt_rows failure.sourceLine column (max 1 failure.text.length)
    (Text.isNumeral_ofNat (line + 1))
  rw [rows_eq] at hrows
  refine ⟨_, _, _, _, _, hrows, ?_, hpoints, ?_⟩
  · refine ⟨(ofNat (line + 1)).length + 1, ofNat (line + 1), ofNat (column + 1), ?_,
      Text.isNumeral_ofNat (line + 1), Text.isNumeral_ofNat (column + 1)⟩
    simp only [List.append_assoc, List.cons_append, List.nil_append]
  · intro σ grammar excerpt excludeCarriers hfailure htext
    rw [hpoints.above]
    exact lexeme_of_classify hfailure hcolumn htext

end UnrecognizedScope

def Grammar.tenthUnknown : Grammar Nat := fun _line before =>
  { tokens := if before = some 9 then [{ start := 2, stop := 99, scopes := ["made.up"] }] else []
    state := before.getD 0 + 1 }

namespace UnrecognizedScope

def onTenthLine : UnrecognizedScope where
  scope := "made.up"
  text := ['|', '^', '|']
  line := some 9
  column := some 2
  sourceLine := ['a', '^', '|', '^', '|']

theorem tenth_line_pointed_at :
    '\n' ∉ onTenthLine.scope.toList ∧ '\n' ∉ "input".toList ∧ '\n' ∉ onTenthLine.sourceLine ∧
      (Excerpt.placed none "\n\n\n\n\n\n\n\n\na^|^|".toList).classify Grammar.tenthUnknown true =
        .error onTenthLine ∧
      exists headline locator border source underline,
        Text.lines (onTenthLine.format "input".toList) =
            [headline, locator, border, source, underline] ∧
          TellsPlace locator "input".toList 9 2 ∧
          PointsAt 9 2 3 onTenthLine.sourceLine border source underline ∧
          aboveCarets source underline = ['|', '^', '|'] := by
  have hscope : '\n' ∉ onTenthLine.scope.toList := by decide +kernel
  have hfilename : '\n' ∉ "input".toList := by decide +kernel
  have hsource : '\n' ∉ onTenthLine.sourceLine := by decide
  have hfailure : (Excerpt.placed none "\n\n\n\n\n\n\n\n\na^|^|".toList).classify
      Grammar.tenthUnknown true = .error onTenthLine := by
    decide +kernel
  rcases diagnostic_points_at_lexeme (show onTenthLine.line = some ((9 : Nat) : Int) from rfl)
      (show onTenthLine.column = some ((2 : Nat) : Int) from rfl) hscope hfilename hsource with
    ⟨headline, locator, border, source, underline, hrows, hplace, hpoints, hlexeme⟩
  exact ⟨hscope, hfilename, hsource, hfailure, headline, locator, border, source, underline, hrows,
    hplace, hpoints, hlexeme Nat Grammar.tenthUnknown _ true hfailure (by decide)⟩

end UnrecognizedScope
end ScopeProbe
