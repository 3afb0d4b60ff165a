import Mathlib.Data.List.Infix
import ScopeProbe.Format.Toml

/-!
# What reading leaves

Whatever is read of a document stands at the front of its text, so that what is
left to be read is an end of it.  What cannot be read is malformed, but for an
integer with too many digits.
-/

namespace ScopeProbe
namespace Format
namespace Toml

/-- An outcome leaves an end of a text to be read, or is one of some faults. -/
inductive Leaves {α : Type} (faults : Fault -> Prop) (text : Text) :
    Except Fault (α × Text) -> Prop
  | ok {found : α} {rest : Text} (hrest : rest <:+ text) : Leaves faults text (.ok (found, rest))
  | error {fault : Fault} (hfault : faults fault) : Leaves faults text (.error fault)

abbrev Plain {α : Type} (text : Text) (outcome : Except Fault (α × Text)) : Prop :=
  Leaves (· = .malformed) text outcome

namespace Leaves

variable {α β : Type} {faults : Fault -> Prop} {text : Text}

theorem malformed : Plain (α := α) text (.error .malformed) :=
  .error rfl

theorem suffix_of_ok {found : α} {rest : Text} (h : Leaves faults text (.ok (found, rest))) :
    rest <:+ text := by
  cases h with
  | ok hrest => exact hrest

theorem of_suffix {outcome : Except Fault (α × Text)} {rest : Text} (hrest : rest <:+ text)
    (h : Leaves faults rest outcome) : Leaves faults text outcome := by
  cases h with
  | ok hbehind => exact .ok (hbehind.trans hrest)
  | error hfault => exact .error hfault

theorem weaken {more : Fault -> Prop} {outcome : Except Fault (α × Text)}
    (h : Leaves faults text outcome) (hmore : forall fault, faults fault -> more fault) :
    Leaves more text outcome := by
  cases h with
  | ok hrest => exact .ok hrest
  | error hfault => exact .error (hmore _ hfault)

theorem bind {outcome : Except Fault (α × Text)} {next : α × Text -> Except Fault (β × Text)}
    (h : Leaves faults text outcome)
    (hnext : forall found rest, rest <:+ text -> Leaves faults text (next (found, rest))) :
    Leaves faults text (outcome >>= next) := by
  cases h with
  | ok hrest => exact hnext _ _ hrest
  | error hfault => exact .error hfault

end Leaves

def LeavesIf {α : Type} (text : Text) (part : Option (α × Text)) : Prop :=
  forall found rest, part = some (found, rest) -> rest <:+ text

def LeavesTaken {α : Type} (faults : Fault -> Prop) (text : Text)
    (taken : Option (Except Fault (α × Text))) : Prop :=
  forall outcome, taken = some outcome -> Leaves faults text outcome

theorem suffix_of_cons {c : Char} {rest text : Text} (h : c :: rest <:+ text) : rest <:+ text :=
  (List.suffix_cons c rest).trans h

theorem suffix_of_dropStart? {beginning text rest : Text}
    (h : Text.dropStart? beginning text = some rest) : rest <:+ text := by
  rw [Text.dropStart?_eq_some h]
  exact List.suffix_append _ _

/-!
# Blanks and comments
-/

theorem skipBlanks_suffix (text : Text) : skipBlanks text <:+ text :=
  List.dropWhile_suffix isBlank

theorem skipComment_cases (text : Text) :
    (exists rest, skipComment text = .ok rest ∧ rest <:+ text) ∨
      skipComment text = .error .malformed := by
  unfold skipComment
  split
  · split
    · exact .inr rfl
    · exact .inl ⟨_, rfl, (List.dropWhile_suffix _).trans (List.suffix_cons _ _)⟩
  · exact .inl ⟨_, rfl, List.suffix_refl _⟩

theorem skipSpace_cases (inComment : Bool) (text : Text) :
    (exists rest, skipSpace inComment text = .ok rest ∧ rest <:+ text) ∨
      skipSpace inComment text = .error .malformed := by
  induction text generalizing inComment with
  | nil => exact .inl ⟨_, rfl, List.suffix_refl _⟩
  | cons c more ih =>
      have hmore : forall inComment,
          (exists rest, skipSpace inComment more = .ok rest ∧ rest <:+ c :: more) ∨
            skipSpace inComment more = .error .malformed := by
        intro inComment
        rcases ih inComment with ⟨rest, hskip, hrest⟩ | hskip
        · exact .inl ⟨rest, hskip, hrest.trans (List.suffix_cons _ _)⟩
        · exact .inr hskip
      rw [skipSpace]
      split
      · split
        · exact hmore false
        · split
          · exact .inr rfl
          · exact hmore true
      · split
        · exact hmore false
        · split
          · exact hmore true
          · exact .inl ⟨_, rfl, List.suffix_refl _⟩

/-!
# Strings and keys
-/

theorem leaves_prepend {text : Text} {front : List Piece}
    {outcome : Except Fault (List Piece × Text)} (h : Plain text outcome) :
    Plain text (prepend front outcome) := by
  cases h with
  | ok hrest => exact .ok hrest
  | error hfault => exact .error hfault

theorem leaves_pieces (severalLines : Bool) (text : Text) :
    Plain text (pieces severalLines text) := by
  fun_induction pieces severalLines text with
  | case1 => exact .malformed
  | case2 a b c d rest meant _hmeant ih =>
      exact (leaves_prepend ih).of_suffix (List.suffix_append ['\\', 'u', a, b, c, d] rest)
  | case3 => exact .malformed
  | case4 a b c d e f g h rest meant _hmeant ih =>
      exact (leaves_prepend ih).of_suffix
        (List.suffix_append ['\\', 'U', a, b, c, d, e, f, g, h] rest)
  | case5 => exact .malformed
  | case6 c rest _hshort _hlong _hfold ih =>
      exact (leaves_prepend ih).of_suffix (List.suffix_append ['\\', c] rest)
  | case7 c rest _hshort _hlong _hfold meant _hmeant ih =>
      exact (leaves_prepend ih).of_suffix (List.suffix_append ['\\', c] rest)
  | case8 => exact .malformed
  | case9 rest => exact .ok (List.suffix_cons _ rest)
  | case10 _hlines behind => exact .ok (List.suffix_append ['"', '"', '"', '"', '"'] behind)
  | case11 _hlines behind => exact .ok (List.suffix_append ['"', '"', '"', '"'] behind)
  | case12 _hlines behind => exact .ok (List.suffix_append ['"', '"', '"'] behind)
  | case13 rest _hlines _hfive _hfour _hthree ih =>
      exact (leaves_prepend ih).of_suffix (List.suffix_cons _ rest)
  | case14 => exact .malformed
  | case15 c rest _hshort _hlong _hescape _hquote _hcontrol ih =>
      exact (leaves_prepend ih).of_suffix (List.suffix_cons _ rest)

theorem leaves_basicString (severalLines : Bool) (text : Text) :
    Plain text (basicString severalLines text) := by
  apply (leaves_pieces severalLines text).bind
  intro found rest hrest
  dsimp only
  split
  · exact .ok hrest
  · exact .malformed

theorem leaves_literalString (text : Text) : Plain text (literalString text) := by
  unfold literalString
  split
  · rename_i content rest hsplit
    split
    · exact .malformed
    · rw [Text.splitAt?_eq_some hsplit]
      exact .ok (List.suffix_append _ _)
  · exact .malformed

theorem leaves_literalLines (text : Text) : Plain text (literalLines text) := by
  unfold literalLines
  split
  · rename_i content rest hsplit
    have hrest : rest <:+ text := by
      rw [Text.splitAt?_eq_some hsplit]
      exact List.suffix_append _ _
    split
    · exact .malformed
    · split
      · exact .ok (suffix_of_cons (suffix_of_cons hrest))
      · exact .ok (suffix_of_cons hrest)
      · exact .ok hrest
  · exact .malformed

theorem skipFirstBreak_suffix (text : Text) : skipFirstBreak text <:+ text := by
  unfold skipFirstBreak
  split
  · exact List.suffix_cons _ _
  · exact List.suffix_refl _

theorem leaves_string? (text : Text) : LeavesTaken (· = .malformed) text (string? text) := by
  intro outcome h
  unfold string? at h
  split at h
  · rename_i rest
    cases h
    exact (leaves_basicString true _).of_suffix
      ((skipFirstBreak_suffix rest).trans (List.suffix_append ['"', '"', '"'] rest))
  · cases h
    exact (leaves_basicString false _).of_suffix (List.suffix_cons _ _)
  · rename_i rest
    cases h
    exact (leaves_literalLines _).of_suffix
      ((skipFirstBreak_suffix rest).trans (List.suffix_append ['\'', '\'', '\''] rest))
  · cases h
    exact (leaves_literalString _).of_suffix (List.suffix_cons _ _)
  · cases h

theorem leaves_keyPart (text : Text) : Plain text (keyPart text) := by
  unfold keyPart
  split
  · rename_i rest
    apply ((leaves_basicString false rest).of_suffix (List.suffix_cons _ _)).bind
    intro found behind hbehind
    exact .ok hbehind
  · rename_i rest
    apply ((leaves_literalString rest).of_suffix (List.suffix_cons _ _)).bind
    intro found behind hbehind
    exact .ok hbehind
  · show Plain text (if (text.takeWhile isBareKey).isEmpty then .error .malformed
      else .ok (String.ofList (text.takeWhile isBareKey), text.dropWhile isBareKey))
    split
    · exact .malformed
    · exact .ok (List.dropWhile_suffix _)

theorem leaves_keyWithin (bound : Nat) (text : Text) : Plain text (keyWithin bound text) := by
  induction bound generalizing text with
  | zero => exact .malformed
  | succ bound ih =>
      apply (leaves_keyPart text).bind
      intro name rest hrest
      have hblanks : skipBlanks rest <:+ text := (skipBlanks_suffix rest).trans hrest
      dsimp only
      split
      · rename_i behind hdot
        rw [hdot] at hblanks
        have hbehind : skipBlanks behind <:+ text :=
          (skipBlanks_suffix behind).trans (suffix_of_cons hblanks)
        apply ((ih (skipBlanks behind)).of_suffix hbehind).bind
        intro more rest hmore
        exact .ok hmore
      · exact .ok hblanks

theorem leaves_key (text : Text) : Plain text (key text) :=
  leaves_keyWithin _ text

/-!
# Dates and times
-/

theorem leaves_twoDigits? (limit : Nat) (text : Text) :
    LeavesIf text (twoDigits? limit text) := by
  intro found rest h
  unfold twoDigits? at h
  split at h
  · rename_i a b behind
    split at h
    · cases h
      exact List.suffix_append [a, b] _
    · cases h
  · cases h

theorem suffix_of_expect? {c : Char} {text rest : Text} (h : expect? c text = some rest) :
    rest <:+ text := by
  unfold expect? at h
  split at h
  · split at h
    · cases h
      exact List.suffix_cons _ _
    · cases h
  · cases h

theorem leaves_date? (text : Text) : LeavesIf text (date? text) := by
  intro found rest h
  unfold date? at h
  split at h
  · rename_i a b c d behind
    split at h
    · cases h
    · rcases Option.bind_eq_some_iff.mp h with ⟨⟨month, afterMonth⟩, hmonth, h⟩
      rcases Option.bind_eq_some_iff.mp h with ⟨afterMark, hmark, h⟩
      rcases Option.bind_eq_some_iff.mp h with ⟨⟨day, afterDay⟩, hday, h⟩
      dsimp only at h
      split at h
      · cases h
      · cases h
        exact (leaves_twoDigits? 32 _ _ _ hday).trans ((suffix_of_expect? hmark).trans
          ((leaves_twoDigits? 13 _ _ _ hmonth).trans (List.suffix_append [a, b, c, d, '-'] behind)))
  · cases h

theorem microseconds_suffix (text : Text) : (microseconds text).2 <:+ text := by
  unfold microseconds
  split
  · dsimp only
    split
    · exact List.suffix_refl _
    · exact (List.dropWhile_suffix _).trans (List.suffix_cons _ _)
  · exact List.suffix_refl _

theorem leaves_time? (text : Text) : LeavesIf text (time? text) := by
  intro found rest h
  rcases Option.bind_eq_some_iff.mp h with ⟨⟨hour, afterHour⟩, hhour, h⟩
  rcases Option.bind_eq_some_iff.mp h with ⟨beforeMinute, hfirst, h⟩
  rcases Option.bind_eq_some_iff.mp h with ⟨⟨minute, afterMinute⟩, hminute, h⟩
  rcases Option.bind_eq_some_iff.mp h with ⟨beforeSecond, hlast, h⟩
  rcases Option.bind_eq_some_iff.mp h with ⟨⟨second, afterSecond⟩, hsecond, h⟩
  cases h
  exact (microseconds_suffix afterSecond).trans ((leaves_twoDigits? 60 _ _ _ hsecond).trans
    ((suffix_of_expect? hlast).trans ((leaves_twoDigits? 60 _ _ _ hminute).trans
      ((suffix_of_expect? hfirst).trans (leaves_twoDigits? 24 _ _ _ hhour)))))

theorem leaves_offset? (text : Text) : LeavesIf text (offset? text) := by
  intro found rest h
  rcases Option.bind_eq_some_iff.mp h with ⟨⟨hours, afterHours⟩, hhours, h⟩
  rcases Option.bind_eq_some_iff.mp h with ⟨beforeMinutes, hmark, h⟩
  rcases Option.bind_eq_some_iff.mp h with ⟨⟨minutes, afterMinutes⟩, hminutes, h⟩
  cases h
  exact (leaves_twoDigits? 60 _ _ _ hminutes).trans
    ((suffix_of_expect? hmark).trans (leaves_twoDigits? 24 _ _ _ hhours))

theorem zone_suffix (text : Text) : (zone text).2 <:+ text := by
  unfold zone
  split
  · rename_i sign rest
    split
    · exact List.suffix_cons _ _
    · split
      · split
        · rename_i minutes behind hoffset
          exact (leaves_offset? rest _ _ hoffset).trans (List.suffix_cons _ _)
        · exact List.suffix_refl _
      · split
        · split
          · rename_i minutes behind hoffset
            exact (leaves_offset? rest _ _ hoffset).trans (List.suffix_cons _ _)
          · exact List.suffix_refl _
        · exact List.suffix_refl _
  · exact List.suffix_refl _

theorem leaves_timeBehindDate? (text : Text) : LeavesIf text (timeBehindDate? text) := by
  intro found rest h
  unfold timeBehindDate? at h
  split at h
  · split at h
    · exact (leaves_time? _ _ _ h).trans (List.suffix_cons _ _)
    · cases h
  · cases h

theorem leaves_calendar? (text : Text) :
    LeavesTaken (· = .malformed) text (calendar? text) := by
  intro outcome h
  unfold calendar? at h
  split at h
  · rename_i year month day rest hdate
    have hrest : rest <:+ text := leaves_date? _ _ _ hdate
    split at h
    · cases h
      exact .malformed
    · split at h
      · cases h
        exact .ok hrest
      · rename_i time behind htime
        cases h
        exact .ok ((zone_suffix behind).trans ((leaves_timeBehindDate? _ _ _ htime).trans hrest))
  · rcases Option.map_eq_some_iff.mp h with ⟨⟨time, rest⟩, htime, rfl⟩
    exact .ok (leaves_time? _ _ _ htime)

/-!
# Numbers
-/

theorem grouped_suffix (isDigit : Char -> Bool) (text : Text) :
    (grouped isDigit text).2 <:+ text := by
  fun_induction grouped isDigit text with
  | case1 => exact List.suffix_refl _
  | case2 c _hdigit => exact List.suffix_cons c []
  | case3 => exact List.suffix_refl _
  | case4 c _hdigit e more _hnext _digits _behind _hmore ih =>
      exact ih.trans (List.suffix_append [c, '_'] (e :: more))
  | case5 c => exact List.suffix_cons c _
  | case6 c => exact List.suffix_cons c _
  | case7 c d more _hdigit _hmark digits behind hmore ih =>
      rw [hmore] at ih
      exact ih.trans (List.suffix_cons c _)
  | case8 => exact List.suffix_refl _

theorem leaves_inBase? (base : Nat) (isDigit : Char -> Bool) (text : Text) :
    LeavesTaken (· = .malformed) text (inBase? base isDigit text) := by
  intro outcome h
  unfold inBase? at h
  dsimp only at h
  split at h
  · cases h
  · cases h
    exact .ok (grouped_suffix isDigit text)

theorem leaves_marked? (text : Text) : LeavesTaken (· = .malformed) text (marked? text) := by
  intro outcome h
  unfold marked? at h
  split at h
  · rename_i rest
    exact (leaves_inBase? _ _ rest _ h).of_suffix (List.suffix_append ['0', 'x'] rest)
  · rename_i rest
    exact (leaves_inBase? _ _ rest _ h).of_suffix (List.suffix_append ['0', 'o'] rest)
  · rename_i rest
    exact (leaves_inBase? _ _ rest _ h).of_suffix (List.suffix_append ['0', 'b'] rest)
  · cases h

theorem fraction_suffix (text : Text) : (fraction text).2 <:+ text := by
  unfold fraction
  split
  · dsimp only
    split
    · exact List.suffix_refl _
    · exact (grouped_suffix _ _).trans (List.suffix_cons _ _)
  · exact List.suffix_refl _

theorem fraction_of_nil {text : Text} (h : (fraction text).1 = []) : (fraction text).2 = text := by
  revert h
  unfold fraction
  split
  · dsimp only
    split
    · intro _h
      rfl
    · rename_i hdigits
      intro h
      exact absurd (List.isEmpty_iff.mpr h) hdigits
  · intro _h
    rfl

theorem sign_suffix (text : Text) : (sign text).2 <:+ text := by
  unfold sign
  split
  · exact List.suffix_cons _ _
  · exact List.suffix_cons _ _
  · exact List.suffix_refl _

theorem exponent?_suffix (text : Text) : (exponent? text).2 <:+ text := by
  unfold exponent?
  split
  · rename_i mark rest
    split
    · dsimp only
      split
      · exact List.suffix_refl _
      · exact (grouped_suffix _ _).trans ((sign_suffix rest).trans (List.suffix_cons _ _))
    · exact List.suffix_refl _
  · exact List.suffix_refl _

theorem whole_suffix (text : Text) : (whole text).2 <:+ text := by
  unfold whole
  split
  · exact List.suffix_cons _ _
  · exact grouped_suffix _ _

def wholePart (text : Text) : Text × Text :=
  whole (sign text).2

theorem wholePart_suffix (text : Text) : (wholePart text).2 <:+ text :=
  (whole_suffix _).trans (sign_suffix text)

/-- At the front of a text stands a decimal integer, of so many digits, that has too many. -/
structure LongInteger (text : Text) (count : Nat) : Prop where
  digits : (wholePart text).1.length = count
  many : longestInteger < count
  noFraction : (fraction (wholePart text).2).1 = []
  noExponent : (exponent? (wholePart text).2).1 = none

def ScalarFault (text : Text) (fault : Fault) : Prop :=
  fault = .malformed ∨ exists count, fault = .integerTooLong count ∧ LongInteger text count

theorem decimal?_eq (text : Text) :
    decimal? text =
      if (wholePart text).1.isEmpty then none
      else if (fraction (wholePart text).2).1.isEmpty ∧
          (exponent? (fraction (wholePart text).2).2).1 = none then
        if longestInteger < (wholePart text).1.length then
          some (.error (.integerTooLong (wholePart text).1.length))
        else some (.ok (.integer (signed (sign text).1 (Text.numberOf (wholePart text).1)),
          (exponent? (fraction (wholePart text).2).2).2))
      else some (.ok (.real (Binary64.ofDecimal (sign text).1
          (Text.numberOf ((wholePart text).1 ++ (fraction (wholePart text).2).1))
          ((exponent? (fraction (wholePart text).2).2).1.getD 0 -
            (fraction (wholePart text).2).1.length)),
        (exponent? (fraction (wholePart text).2).2).2)) :=
  rfl

theorem leaves_decimal? (text : Text) : LeavesTaken (ScalarFault text) text (decimal? text) := by
  intro outcome h
  rw [decimal?_eq] at h
  have hrest : (exponent? (fraction (wholePart text).2).2).2 <:+ text :=
    (exponent?_suffix _).trans ((fraction_suffix _).trans (wholePart_suffix text))
  split at h
  · cases h
  · split at h
    · rename_i hinteger
      split at h
      · rename_i hmany
        cases h
        have hfraction : (fraction (wholePart text).2).1 = [] := List.isEmpty_iff.mp hinteger.left
        have hexponent : (exponent? (wholePart text).2).1 = none := by
          rw [← fraction_of_nil hfraction]
          exact hinteger.right
        exact .error (.inr ⟨_, rfl, rfl, hmany, hfraction, hexponent⟩)
      · cases h
        exact .ok hrest
    · cases h
      exact .ok hrest

theorem decimal?_of_longInteger {text : Text} {count : Nat} (h : LongInteger text count) :
    decimal? text = some (.error (.integerTooLong count)) := by
  have hdigits : (wholePart text).1.isEmpty = false := by
    have hmany : longestInteger < (wholePart text).1.length := h.digits ▸ h.many
    cases hwhole : (wholePart text).1 with
    | nil =>
        rw [hwhole] at hmany
        cases hmany
    | cons c more => rfl
  rw [decimal?_eq, hdigits, fraction_of_nil h.noFraction, h.noFraction, h.noExponent, h.digits,
    if_pos h.many]
  rfl

/-!
# Values that hold no others
-/

namespace LeavesTaken

variable {α : Type} {faults : Fault -> Prop} {text : Text}
  {first second : Option (Except Fault (α × Text))}

theorem orElse (hfirst : LeavesTaken faults text first) (hsecond : LeavesTaken faults text second) :
    LeavesTaken faults text (first <|> second) := by
  cases first with
  | none => exact hsecond
  | some outcome => exact hfirst

theorem getD (h : LeavesTaken faults text first) (hmalformed : faults .malformed) :
    Leaves faults text (first.getD (.error .malformed)) := by
  cases first with
  | none => exact .error hmalformed
  | some outcome => exact h outcome rfl

end LeavesTaken

theorem leaves_special? (text : Text) : LeavesTaken (· = .malformed) text (special? text) := by
  intro outcome h
  unfold special? at h
  dsimp only at h
  split at h
  · rename_i hinf
    cases h
    exact .ok ((suffix_of_dropStart? hinf).trans (sign_suffix text))
  · rename_i hnan _hinf
    cases h
    exact .ok ((suffix_of_dropStart? hnan).trans (sign_suffix text))
  · cases h

theorem leaves_boolean? (text : Text) : LeavesTaken (· = .malformed) text (boolean? text) := by
  intro outcome h
  unfold boolean? at h
  split at h
  · rename_i htrue
    cases h
    exact .ok (suffix_of_dropStart? htrue)
  · rename_i hfalse _htrue
    cases h
    exact .ok (suffix_of_dropStart? hfalse)
  · cases h

theorem leaves_stringValue? (text : Text) :
    LeavesTaken (· = .malformed) text (stringValue? text) := by
  intro outcome h
  rcases Option.map_eq_some_iff.mp h with ⟨string, hstring, rfl⟩
  cases leaves_string? text string hstring with
  | ok hrest => exact .ok hrest
  | error hfault => exact .error hfault

theorem leaves_scalar (text : Text) : Leaves (ScalarFault text) text (scalar text) := by
  have hweaken : forall {taken : Option (Except Fault (Value × Text))},
      LeavesTaken (· = .malformed) text taken -> LeavesTaken (ScalarFault text) text taken :=
    fun h outcome houtcome => (h outcome houtcome).weaken fun _fault hfault => .inl hfault
  have htaken : LeavesTaken (ScalarFault text) text (stringValue? text <|> boolean? text <|>
      calendar? text <|> marked? text <|> decimal? text <|> special? text) :=
    (hweaken (leaves_stringValue? text)).orElse ((hweaken (leaves_boolean? text)).orElse
      ((hweaken (leaves_calendar? text)).orElse ((hweaken (leaves_marked? text)).orElse
        ((leaves_decimal? text).orElse (hweaken (leaves_special? text))))))
  exact htaken.getD (.inl rfl)

/-!
# Integers with too many digits

What is not a number has few digits at its front.
-/

section

variable {isDigit : Char -> Bool} {c : Char}

theorem grouped_of_not_digit {rest : Text} (hc : isDigit c = false) :
    grouped isDigit (c :: rest) = ([], c :: rest) := by
  cases rest with
  | nil => simp [grouped, hc]
  | cons d rest => rw [grouped.eq_def]; simp [hc]

theorem grouped_cons {d : Char} {rest : Text} (hc : isDigit c = true) (hd : d ≠ '_') :
    (grouped isDigit (c :: d :: rest)).1 = c :: (grouped isDigit (d :: rest)).1 := by
  rw [grouped.eq_def]
  simp [hc, hd]

theorem grouped_run {front rest : Text} {mark : Char} (hunder : isDigit '_' = false)
    (hfront : forall c, c ∈ front -> isDigit c = true) (hmark : isDigit mark = false)
    (hnext : mark ≠ '_') : (grouped isDigit (front ++ mark :: rest)).1 = front := by
  induction front with
  | nil => rw [List.nil_append, grouped_of_not_digit hmark]
  | cons c more ih =>
      have hc : isDigit c = true := hfront c (List.mem_cons_self ..)
      have hmore := ih fun d hd => hfront d (List.mem_cons_of_mem _ hd)
      cases more with
      | nil =>
          rw [List.nil_append] at hmore
          rw [List.cons_append, List.nil_append, grouped_cons hc hnext, hmore]
      | cons d more =>
          have hd : d ≠ '_' := by
            rintro rfl
            rw [hfront '_' (List.mem_cons_of_mem _ (List.mem_cons_self ..))] at hunder
            cases hunder
          rw [List.cons_append] at hmore
          rw [List.cons_append, List.cons_append, grouped_cons hc hd, hmore]

end

theorem sign_cons {c : Char} {rest : Text} (hminus : c ≠ '-') (hplus : c ≠ '+') :
    sign (c :: rest) = (false, c :: rest) := by
  unfold sign
  split
  · rename_i h
    exact absurd (List.cons.inj h).left hminus
  · rename_i h
    exact absurd (List.cons.inj h).left hplus
  · rfl

theorem ne_of_isDecimal {c other : Char} (hc : Text.isDecimal c = true)
    (hother : Text.isDecimal other = false) : c ≠ other := by
  rintro rfl
  rw [hc] at hother
  cases hother

theorem length_wholePart_le {front rest : Text} {mark : Char}
    (hfront : forall c, c ∈ front -> Text.isDecimal c = true)
    (hmark : Text.isDecimal mark = false) (hnext : mark ≠ '_')
    (hsign : front = [] -> mark ≠ '-' ∧ mark ≠ '+') :
    (wholePart (front ++ mark :: rest)).1.length <= front.length := by
  have hunsigned : sign (front ++ mark :: rest) = (false, front ++ mark :: rest) := by
    cases front with
    | nil => exact sign_cons (hsign rfl).left (hsign rfl).right
    | cons c more =>
        have hc : Text.isDecimal c = true := hfront c (List.mem_cons_self ..)
        exact sign_cons (ne_of_isDecimal hc rfl) (ne_of_isDecimal hc rfl)
  rw [wholePart, hunsigned]
  unfold whole
  split
  · rename_i zeroRest hzero
    cases front with
    | nil =>
        cases (List.cons.inj hzero).left
        cases hmark
    | cons c more => exact Nat.succ_le_succ (Nat.zero_le _)
  · rw [grouped_run rfl hfront hmark hnext]

theorem length_wholePart_of_mark {mark : Char} {rest : Text}
    (hmark : Text.isDecimal mark = false) (hnext : mark ≠ '_') (hsign : mark ≠ '-' ∧ mark ≠ '+') :
    (wholePart (mark :: rest)).1.length <= 0 :=
  @length_wholePart_le [] rest mark nofun hmark hnext fun _hfront => hsign

theorem twoDigits?_eq_some {limit number : Nat} {text rest : Text}
    (h : twoDigits? limit text = some (number, rest)) :
    exists a b, text = a :: b :: rest ∧ Text.isDecimal a = true ∧ Text.isDecimal b = true := by
  unfold twoDigits? at h
  split at h
  · rename_i a b behind
    split at h
    · rename_i hdigits
      cases h
      rw [Bool.and_eq_true, Bool.and_eq_true] at hdigits
      exact ⟨a, b, rfl, hdigits.left.left, hdigits.left.right⟩
    · cases h
  · cases h

theorem expect?_eq_some {c : Char} {text rest : Text} (h : expect? c text = some rest) :
    text = c :: rest := by
  unfold expect? at h
  split at h
  · split at h
    · rename_i hc
      cases h
      rw [hc]
    · cases h
  · cases h

section

variable {text : Text}

theorem string?_few {outcome : Except Fault (Text × Text)} (h : string? text = some outcome) :
    (wholePart text).1.length <= 0 := by
  have hquote : exists quote rest, text = quote :: rest ∧ (quote = '"' ∨ quote = '\'') := by
    unfold string? at h
    split at h
    · exact ⟨_, _, rfl, .inl rfl⟩
    · exact ⟨_, _, rfl, .inl rfl⟩
    · exact ⟨_, _, rfl, .inr rfl⟩
    · exact ⟨_, _, rfl, .inr rfl⟩
    · cases h
  rcases hquote with ⟨quote, rest, rfl, rfl | rfl⟩
  · exact length_wholePart_of_mark rfl (by decide) (by decide)
  · exact length_wholePart_of_mark rfl (by decide) (by decide)

theorem boolean?_few {outcome : Except Fault (Value × Text)} (h : boolean? text = some outcome) :
    (wholePart text).1.length <= 0 := by
  unfold boolean? at h
  split at h
  · rename_i htrue
    rw [Text.dropStart?_eq_some htrue]
    exact length_wholePart_of_mark rfl (by decide) (by decide)
  · rename_i hfalse _htrue
    rw [Text.dropStart?_eq_some hfalse]
    exact length_wholePart_of_mark rfl (by decide) (by decide)
  · cases h

theorem marked?_few {outcome : Except Fault (Value × Text)} (h : marked? text = some outcome) :
    (wholePart text).1.length <= 1 := by
  have hzero : forall c, c ∈ ['0'] -> Text.isDecimal c = true := by
    intro c hc
    rw [List.mem_singleton.mp hc]
    rfl
  unfold marked? at h
  split at h
  · exact length_wholePart_le hzero rfl (by decide) nofun
  · exact length_wholePart_le hzero rfl (by decide) nofun
  · exact length_wholePart_le hzero rfl (by decide) nofun
  · cases h

theorem date?_few {found : (Nat × Nat × Nat) × Text} (h : date? text = some found) :
    (wholePart text).1.length <= 4 := by
  unfold date? at h
  split at h
  · rename_i a b c d rest
    split at h
    · cases h
    · rename_i hdigits
      have hall : forall e, e ∈ [a, b, c, d] -> Text.isDecimal e = true := by
        simpa using hdigits
      exact length_wholePart_le hall rfl (by decide) nofun
  · cases h

theorem time?_few {found : Time × Text} (h : time? text = some found) :
    (wholePart text).1.length <= 2 := by
  rcases Option.bind_eq_some_iff.mp h with ⟨⟨hour, afterHour⟩, hhour, h⟩
  rcases Option.bind_eq_some_iff.mp h with ⟨beforeMinute, hmark, h⟩
  rcases twoDigits?_eq_some hhour with ⟨a, b, rfl, ha, hb⟩
  rw [expect?_eq_some hmark]
  have hall : forall e, e ∈ [a, b] -> Text.isDecimal e = true := by
    intro e he
    rcases List.mem_pair.mp he with rfl | rfl
    · exact ha
    · exact hb
  exact length_wholePart_le hall rfl (by decide) nofun

theorem calendar?_few {outcome : Except Fault (Value × Text)}
    (h : calendar? text = some outcome) : (wholePart text).1.length <= 4 := by
  unfold calendar? at h
  split at h
  · rename_i hdate
    exact date?_few hdate
  · rcases Option.map_eq_some_iff.mp h with ⟨found, htime, _hfound⟩
    exact (time?_few htime).trans (by decide)

end

theorem scalar_of_longInteger {text : Text} {count : Nat} (h : LongInteger text count) :
    scalar text = .error (.integerTooLong count) := by
  have hmany : 4300 < (wholePart text).1.length := h.digits ▸ h.many
  have hnone : forall {α : Type} {taken : Option α},
      (forall outcome, taken = some outcome -> (wholePart text).1.length <= 4) ->
        taken = none := by
    intro α taken hfew
    cases taken with
    | none => rfl
    | some outcome => exact absurd (hfew outcome rfl) (by omega)
  have hstring : stringValue? text = none := by
    rw [stringValue?, hnone fun outcome houtcome => (string?_few houtcome).trans (Nat.zero_le _)]
    rfl
  have hboolean : boolean? text = none :=
    hnone fun outcome houtcome => (boolean?_few houtcome).trans (Nat.zero_le _)
  have hcalendar : calendar? text = none := hnone fun outcome => calendar?_few
  have hmarked : marked? text = none :=
    hnone fun outcome houtcome => (marked?_few houtcome).trans (by decide)
  rw [scalar, hstring, hboolean, hcalendar, hmarked, decimal?_of_longInteger h]
  rfl

end Toml
end Format
end ScopeProbe
