import Mathlib.Data.List.Forall2
import Mathlib.Data.List.Induction
import ScopeProbe.Power
import ScopeProbe.Proofs.Vocabulary
import ScopeProbe.Token

/-!
# Quoted text is read back

A character has one written form between quotation marks, and a quoted text is
these forms one behind the other.  It is read from its mark on, a backslash
together with what belongs to it as one character, up to the first mark that
stands for itself.  Whatever comes behind, this gives exactly the text that was
quoted.  A token that is shown is read back in the same way, and everything
shown is printable.
-/

namespace ScopeProbe

/-!
# Hexadecimal digits
-/

namespace Hexadecimal

theorem value?_digit {value : Nat} (hvalue : value < 16) : value? (digit value) = some value := by
  have hall : forall value : Fin 16, value? (digit value) = some value.val := by
    decide
  exact hall ⟨value, hvalue⟩

def IsSmall (c : Char) : Prop :=
  '0' <= c ∧ c <= '9' ∨ 'a' <= c ∧ c <= 'f'

instance (c : Char) : Decidable (IsSmall c) :=
  inferInstanceAs (Decidable (_ ∨ _))

theorem isSmall_digit {value : Nat} (hvalue : value < 16) : IsSmall (digit value) := by
  have hall : forall value : Fin 16, IsSmall (digit value) := by
    decide
  exact hall ⟨value, hvalue⟩

theorem IsSmall.code {c : Char} (hc : IsSmall c) :
    0x30 <= c.toNat ∧ c.toNat <= 0x39 ∨ 0x61 <= c.toNat ∧ c.toNat <= 0x66 :=
  hc

theorem IsSmall.isVisible {c : Char} (hc : IsSmall c) : Unicode.IsVisible c := by
  have hcode := hc.code
  constructor <;> omega

theorem IsSmall.digit_eq {c : Char} {value : Nat} (hc : IsSmall c)
    (hvalue : value? c = some value) : value < 16 ∧ digit value = c := by
  rcases hc with hdecimal | hletter
  · have hcode : 0x30 <= c.toNat ∧ c.toNat <= 0x39 := hdecimal
    have hfound : c.toNat - 0x30 = value := by
      rw [value?, if_pos hdecimal] at hvalue
      exact Option.some.inj hvalue
    have hback : '0'.toNat + value = c.toNat := by
      rw [← hfound]
      exact Nat.add_sub_of_le hcode.left
    refine ⟨by omega, ?_⟩
    rw [digit, if_pos (by omega), hback, Char.ofNat_toNat]
  · have hcode : 0x61 <= c.toNat ∧ c.toNat <= 0x66 := hletter
    have hother : ¬ ('0' <= c ∧ c <= '9') := by
      intro hdecimal
      have hhigh : c.toNat <= 0x39 := hdecimal.right
      omega
    have hfound : c.toNat - 0x61 + 10 = value := by
      rw [value?, if_neg hother, if_pos hletter] at hvalue
      exact Option.some.inj hvalue
    have hback : 'a'.toNat + (value - 10) = c.toNat := by
      rw [← hfound, Nat.add_sub_cancel]
      exact Nat.add_sub_of_le hcode.left
    refine ⟨by omega, ?_⟩
    rw [digit, if_neg (by omega), hback, Char.ofNat_toNat]

theorem number?_append (digits : List Char) (last : Char) :
    number? (digits ++ [last]) =
      (number? digits).bind fun sum => (value? last).map (sum * 16 + ·) := by
  rw [number?, number?, List.foldlM_append (m := Option)]
  apply Option.bind_congr
  intro sum _hsum
  rw [List.foldlM_cons]
  cases value? last <;> rfl

theorem number?_padded (width value : Nat) :
    number? (padded width value) = some (value % twoTo (4 * width)) := by
  induction width generalizing value with
  | zero =>
      show some 0 = some (value % 1)
      rw [Nat.mod_one]
  | succ more ih =>
      have hpower : twoTo (4 * (more + 1)) = 16 * twoTo (4 * more) :=
        (Nat.pow_add 2 (4 * more) 4).trans (Nat.mul_comm _ _)
      rw [padded, number?_append, ih, value?_digit (Nat.mod_lt _ (by decide)), Option.bind_some,
        Option.map_some, hpower, Nat.mod_mul, Nat.mul_comm, Nat.add_comm]

@[simp] theorem length_padded (width value : Nat) : (padded width value).length = width := by
  induction width generalizing value with
  | zero => rfl
  | succ more ih => rw [padded, List.length_append, ih, List.length_singleton]

theorem isSmall_of_mem_padded {width value : Nat} {c : Char} (hc : c ∈ padded width value) :
    IsSmall c := by
  induction width generalizing value with
  | zero => cases hc
  | succ more ih =>
      rcases List.mem_append.mp hc with hfront | hlast
      · exact ih hfront
      · rw [List.mem_singleton.mp hlast]
        exact isSmall_digit (Nat.mod_lt _ (by decide))

theorem padded_of_number? {digits : List Char} {value : Nat}
    (hsmall : forall c, c ∈ digits -> IsSmall c) (hvalue : number? digits = some value) :
    padded digits.length value = digits := by
  induction digits using List.reverseRecOn generalizing value with
  | nil => rfl
  | append_singleton front last ih =>
      rw [number?_append] at hvalue
      rcases Option.bind_eq_some_iff.mp hvalue with ⟨sum, hsum, hmore⟩
      rcases Option.map_eq_some_iff.mp hmore with ⟨unit, hunit, hadded⟩
      have hfront := ih (fun c hc => hsmall c (List.mem_append_left [last] hc)) hsum
      rcases (hsmall last (List.mem_append_right front List.mem_cons_self)).digit_eq hunit with
        ⟨hbound, hlast⟩
      have hsplit : value / 16 = sum ∧ value % 16 = unit := by
        omega
      rw [List.length_append, List.length_singleton, padded, hsplit.left, hsplit.right, hfront,
        hlast]

theorem lt_of_number? {digits : List Char} {value : Nat}
    (hsmall : forall c, c ∈ digits -> IsSmall c) (hvalue : number? digits = some value) :
    value < twoTo (4 * digits.length) := by
  have hmod := number?_padded digits.length value
  rw [padded_of_number? hsmall hvalue, hvalue, Option.some_inj] at hmod
  rw [hmod]
  exact Nat.mod_lt _ (Nat.two_pow_pos _)

end Hexadecimal

/-!
# Unquoting
-/

namespace Text

def named? : Char -> Option Char
  | '\\' => some '\\'
  | '\'' => some '\''
  | 'n' => some '\n'
  | 'r' => some '\r'
  | 't' => some '\t'
  | _ => none

def digitsBehind? : Char -> Option Nat
  | 'x' => some 2
  | 'u' => some 4
  | 'U' => some 8
  | _ => none

def character? (code : Nat) : Option Char :=
  if code.isValidChar then some (Char.ofNat code) else none

def numbered? (width : Nat) (text : Text) : Option (Char × Text) :=
  if text.length < width then none
  else ((Hexadecimal.number? (text.take width)).bind character?).map (·, text.drop width)

def escaped? : Text -> Option (Char × Text)
  | [] => none
  | c :: rest =>
      match named? c, digitsBehind? c with
      | some meant, _ => some (meant, rest)
      | none, some width => numbered? width rest
      | none, none => none

def written? : Text -> Option (Char × Text)
  | [] => none
  | c :: rest => if c = '\\' then escaped? rest else some (c, rest)

theorem length_numbered? {width : Nat} {text rest : Text} {c : Char}
    (h : numbered? width text = some (c, rest)) : rest.length <= text.length := by
  unfold numbered? at h
  split at h
  · cases h
  · rcases Option.map_eq_some_iff.mp h with ⟨found, _hfound, hpair⟩
    cases hpair
    rw [List.length_drop]
    exact Nat.sub_le _ _

theorem length_written? {text rest : Text} {c : Char} (h : written? text = some (c, rest)) :
    rest.length < text.length := by
  unfold written? at h
  split at h
  · cases h
  · rename_i first more
    split at h
    · unfold escaped? at h
      split at h
      · cases h
      · rename_i second behind
        split at h
        · cases h
          exact Nat.lt_succ_of_lt (Nat.lt_succ_self _)
        · exact Nat.lt_succ_of_le (Nat.le_succ_of_le (length_numbered? h))
        · cases h
    · cases h
      exact Nat.lt_succ_self _

def unquoteTo? (mark : Char) (text : Text) : Option (Text × Text) :=
  if text.head? = some mark then some ([], text.tail)
  else
    match _h : written? text with
    | none => none
    | some (c, rest) => (unquoteTo? mark rest).map fun (more, behind) => (c :: more, behind)
termination_by text.length
decreasing_by exact length_written? _h

def unquote? : Text -> Option (Text × Text)
  | [] => none
  | mark :: rest => if mark = '\'' ∨ mark = '"' then unquoteTo? mark rest else none

theorem unquoteTo?_mark (mark : Char) (behind : Text) :
    unquoteTo? mark (mark :: behind) = some ([], behind) := by
  rw [unquoteTo?, if_pos (by rfl), List.tail_cons]

theorem unquoteTo?_written {mark c : Char} {text rest : Text} (hmark : text.head? ≠ some mark)
    (hwritten : written? text = some (c, rest)) :
    unquoteTo? mark text =
      (unquoteTo? mark rest).map fun (more, behind) => (c :: more, behind) := by
  rw [unquoteTo?, if_neg hmark]
  split
  · rename_i hnone
    rw [hnone] at hwritten
    cases hwritten
  · rename_i found others hfound
    rw [hfound] at hwritten
    cases hwritten
    rfl

/-!
# Written forms

What is written for a character is read as this character and does not begin
with the mark, and all of it can be shown.
-/

/-- The written form of a character between marks.  A character that is shown stands for itself,
the backslash and the mark stand behind a backslash, and so do the letters for three of the
controls.  Any other character is written in small digits, in the least width that suffices. -/
inductive WrittenAs (mark : Char) : Char -> Text -> Prop
  | shown {c : Char} (hshown : Unicode.isPrintable c = true) (hbackslash : c ≠ '\\')
      (hmark : c ≠ mark) : WrittenAs mark c [c]
  | marked {c : Char} (hc : c = '\\' ∨ c = mark) : WrittenAs mark c ['\\', c]
  | lineFeed : WrittenAs mark '\n' ['\\', 'n']
  | carriageReturn : WrittenAs mark '\r' ['\\', 'r']
  | tab : WrittenAs mark '\t' ['\\', 't']
  | numbered {c letter : Char} {digits : Text} (hhidden : Unicode.isPrintable c = false)
      (hcontrol : c ≠ '\n' ∧ c ≠ '\r' ∧ c ≠ '\t')
      (hwidth : digitsBehind? letter = some digits.length)
      (hsmall : forall digit, digit ∈ digits -> Hexadecimal.IsSmall digit)
      (hvalue : Hexadecimal.number? digits = some c.toNat)
      (hleast : forall other width, digitsBehind? other = some width -> width < digits.length ->
        twoTo (4 * width) <= c.toNat) :
      WrittenAs mark c ('\\' :: letter :: digits)

theorem digitsBehind?_cases {letter : Char} {width : Nat} (h : digitsBehind? letter = some width) :
    letter = 'x' ∧ width = 2 ∨ letter = 'u' ∧ width = 4 ∨ letter = 'U' ∧ width = 8 := by
  unfold digitsBehind? at h
  split at h
  · exact .inl ⟨rfl, (Option.some.inj h).symm⟩
  · exact .inr (.inl ⟨rfl, (Option.some.inj h).symm⟩)
  · exact .inr (.inr ⟨rfl, (Option.some.inj h).symm⟩)
  · cases h

theorem named?_of_digitsBehind? {letter : Char} {width : Nat}
    (h : digitsBehind? letter = some width) :
    named? letter = none ∧ Unicode.IsVisible letter := by
  rcases digitsBehind?_cases h with ⟨rfl, _⟩ | ⟨rfl, _⟩ | ⟨rfl, _⟩ <;> exact ⟨rfl, by decide⟩

theorem code_lt (c : Char) : c.toNat < 0x110000 := by
  have hvalid : c.toNat < 0xd800 ∨ 0xdfff < c.toNat ∧ c.toNat < 0x110000 := c.valid
  omega

section

variable {mark c : Char}

theorem writtenAs_padded {letter : Char} {width : Nat} (hshown : ¬ Unicode.isPrintable c = true)
    (hcontrol : c ≠ '\n' ∧ c ≠ '\r' ∧ c ≠ '\t') (hwidth : digitsBehind? letter = some width)
    (hcode : c.toNat < twoTo (4 * width))
    (hleast : forall other shorter, digitsBehind? other = some shorter -> shorter < width ->
      twoTo (4 * shorter) <= c.toNat) :
    WrittenAs mark c ('\\' :: letter :: Hexadecimal.padded width c.toNat) := by
  apply WrittenAs.numbered (Bool.eq_false_iff.mpr hshown) hcontrol
  · rw [Hexadecimal.length_padded]
    exact hwidth
  · exact fun digit => Hexadecimal.isSmall_of_mem_padded
  · rw [Hexadecimal.number?_padded, Nat.mod_eq_of_lt hcode]
  · rw [Hexadecimal.length_padded]
    exact hleast

theorem writtenAs_escape (mark c : Char) : WrittenAs mark c (escape mark c) := by
  unfold escape
  split_ifs with hself hfeed hreturn htab hshown hoctet hpair
  · exact .marked hself
  · rw [hfeed]
    exact .lineFeed
  · rw [hreturn]
    exact .carriageReturn
  · rw [htab]
    exact .tab
  · rw [not_or] at hself
    exact .shown hshown hself.left hself.right
  · refine writtenAs_padded hshown ⟨hfeed, hreturn, htab⟩ rfl hoctet ?_
    intro other shorter hother hshorter
    rcases digitsBehind?_cases hother with ⟨_, rfl⟩ | ⟨_, rfl⟩ | ⟨_, rfl⟩ <;> omega
  · refine writtenAs_padded hshown ⟨hfeed, hreturn, htab⟩ rfl hpair ?_
    intro other shorter hother hshorter
    rcases digitsBehind?_cases hother with ⟨_, rfl⟩ | ⟨_, rfl⟩ | ⟨_, rfl⟩
    · exact Nat.le_of_not_lt hoctet
    · omega
    · omega
  · refine writtenAs_padded hshown ⟨hfeed, hreturn, htab⟩ rfl
      (Nat.lt_trans (code_lt c) (by decide)) ?_
    intro other shorter hother hshorter
    rcases digitsBehind?_cases hother with ⟨_, rfl⟩ | ⟨_, rfl⟩ | ⟨_, rfl⟩
    · exact Nat.le_of_not_lt hoctet
    · exact Nat.le_of_not_lt hpair
    · omega

theorem isPrintable_of_quotes (hquotes : mark = '\'' ∨ mark = '"') :
    Unicode.isPrintable mark = true := by
  apply Unicode.isPrintable_of_ascii
  rcases hquotes with rfl | rfl <;> decide

theorem WrittenAs.eq_escape {piece : Text} (hquotes : mark = '\'' ∨ mark = '"')
    (h : WrittenAs mark c piece) : piece = escape mark c := by
  have hbackslash : Unicode.isPrintable '\\' = true := Unicode.isPrintable_of_ascii (by decide)
  have hprintable := isPrintable_of_quotes hquotes
  unfold escape
  cases h with
  | shown hshown hother hmark =>
      have hcontrol : c ≠ '\n' ∧ c ≠ '\r' ∧ c ≠ '\t' := by
        refine ⟨?_, ?_, ?_⟩ <;> (rintro rfl; revert hshown; decide)
      rw [if_neg (not_or.mpr ⟨hother, hmark⟩), if_neg hcontrol.left, if_neg hcontrol.right.left,
        if_neg hcontrol.right.right, if_pos hshown]
  | marked hc => rw [if_pos hc]
  | lineFeed => rcases hquotes with rfl | rfl <;> rfl
  | carriageReturn => rcases hquotes with rfl | rfl <;> rfl
  | tab => rcases hquotes with rfl | rfl <;> rfl
  | @numbered letter digits _ hhidden hcontrol hwidth hsmall hvalue hleast =>
      have hself : ¬ (c = '\\' ∨ c = mark) := by
        rintro (rfl | rfl)
        · cases hhidden.symm.trans hbackslash
        · cases hhidden.symm.trans hprintable
      have hdigits := Hexadecimal.padded_of_number? hsmall hvalue
      have hcode := Hexadecimal.lt_of_number? hsmall hvalue
      rw [if_neg hself, if_neg hcontrol.left, if_neg hcontrol.right.left,
        if_neg hcontrol.right.right, if_neg (Bool.eq_false_iff.mp hhidden)]
      rcases digitsBehind?_cases hwidth with ⟨rfl, htwo⟩ | ⟨rfl, hfour⟩ | ⟨rfl, height⟩
      · rw [htwo] at hdigits hcode
        have hoctet : c.toNat < 0x100 := hcode
        rw [if_pos hoctet, hdigits]
      · rw [hfour] at hdigits hcode hleast
        have hoctet : 0x100 <= c.toNat := hleast 'x' 2 rfl (by decide)
        have hpair : c.toNat < 0x10000 := hcode
        rw [if_neg (Nat.not_lt_of_le hoctet), if_pos hpair, hdigits]
      · rw [height] at hdigits hleast
        have hoctet : 0x100 <= c.toNat := hleast 'x' 2 rfl (by decide)
        have hpair : 0x10000 <= c.toNat := hleast 'u' 4 rfl (by decide)
        rw [if_neg (Nat.not_lt_of_le hoctet), if_neg (Nat.not_lt_of_le hpair), hdigits]

theorem numbered?_digits {digits : Text} (hvalue : Hexadecimal.number? digits = some c.toNat)
    (rest : Text) : numbered? digits.length (digits ++ rest) = some (c, rest) := by
  have hvalid : c.toNat.isValidChar := c.valid
  rw [numbered?, if_neg (by rw [List.length_append]; omega), List.take_left, List.drop_left, hvalue,
    Option.bind_some, character?, if_pos hvalid, Char.ofNat_toNat, Option.map_some]

theorem WrittenAs.written? {piece : Text} (h : WrittenAs mark c piece)
    (hmark : c = mark -> c = '\'') (rest : Text) : written? (piece ++ rest) = some (c, rest) := by
  cases h with
  | shown _ hbackslash _ => rw [List.singleton_append, Text.written?, if_neg hbackslash]
  | marked hc =>
      have hnamed : named? c = some c := by
        rcases hc with rfl | hsame
        · rfl
        · rw [hmark hsame]
          rfl
      rw [List.cons_append, List.singleton_append, Text.written?, if_pos rfl, escaped?, hnamed]
  | lineFeed => rfl
  | carriageReturn => rfl
  | tab => rfl
  | numbered _ _ hwidth _ hvalue _ =>
      rw [List.cons_append, List.cons_append, Text.written?, if_pos rfl, escaped?,
        (named?_of_digitsBehind? hwidth).left, hwidth]
      exact numbered?_digits hvalue rest

theorem WrittenAs.head? {piece : Text} (h : WrittenAs mark c piece) (hother : mark ≠ '\\')
    (rest : Text) : (piece ++ rest).head? ≠ some mark := by
  intro hhead
  cases h with
  | shown _ _ hmark => exact hmark (Option.some.inj hhead)
  | marked _ => exact hother (Option.some.inj hhead).symm
  | lineFeed => exact hother (Option.some.inj hhead).symm
  | carriageReturn => exact hother (Option.some.inj hhead).symm
  | tab => exact hother (Option.some.inj hhead).symm
  | numbered => exact hother (Option.some.inj hhead).symm

theorem WrittenAs.isPrintable {piece : Text} (h : WrittenAs mark c piece)
    (hmark : c = mark -> c = '\'') {shown : Char} (hmember : shown ∈ piece) :
    Unicode.isPrintable shown = true := by
  have hbackslash : Unicode.isPrintable '\\' = true := Unicode.isPrintable_of_ascii (by decide)
  cases h with
  | shown hshown _ _ =>
      rw [List.mem_singleton.mp hmember]
      exact hshown
  | marked hc =>
      rw [List.mem_cons, List.mem_singleton] at hmember
      rcases hmember with rfl | rfl
      · exact hbackslash
      · rcases hc with rfl | hsame
        · exact hbackslash
        · rw [hmark hsame]
          exact Unicode.isPrintable_of_ascii (by decide)
  | numbered _ _ hwidth hsmall _ _ =>
      rw [List.mem_cons, List.mem_cons] at hmember
      rcases hmember with rfl | rfl | hdigit
      · exact hbackslash
      · exact (named?_of_digitsBehind? hwidth).right.isPrintable
      · exact (hsmall shown hdigit).isVisible.isPrintable
  | _ =>
      rw [List.mem_cons, List.mem_singleton] at hmember
      rcases hmember with rfl | rfl
      · exact hbackslash
      · exact Unicode.isPrintable_of_ascii (by decide)

end

/-!
# Quoted text

The mark is chosen so that it is an apostrophe wherever it stands in the text.
-/

/-- A quoted text: the written forms of its characters between two marks, which are double quotes
if the text holds apostrophes and no double quotes. -/
inductive Quotes (text : Text) : Text -> Prop
  | intro {mark : Char} {pieces : List Text} (hquotes : mark = '\'' ∨ mark = '"')
      (hdouble : mark = '"' <-> '\'' ∈ text ∧ '"' ∉ text)
      (hpieces : List.Forall₂ (WrittenAs mark) text pieces) :
      Quotes text (mark :: pieces.flatten ++ [mark])

theorem quoteMark_cases (text : Text) : quoteMark text = '\'' ∨ quoteMark text = '"' := by
  unfold quoteMark
  split
  · exact .inr rfl
  · exact .inl rfl

theorem quoteMark_eq_quote_iff (text : Text) :
    quoteMark text = '"' <-> '\'' ∈ text ∧ '"' ∉ text := by
  unfold quoteMark
  split_ifs with hquotes
  · rw [Bool.and_eq_true, Bool.not_eq_true', List.contains_iff_mem, ← Bool.not_eq_true,
      List.contains_iff_mem] at hquotes
    exact ⟨fun _ => hquotes, fun _ => rfl⟩
  · rw [Bool.and_eq_true, Bool.not_eq_true', List.contains_iff_mem, ← Bool.not_eq_true,
      List.contains_iff_mem] at hquotes
    exact ⟨fun h => absurd h (by decide), fun h => absurd h hquotes⟩

theorem eq_apostrophe_of_mark {text : Text} {c : Char} (hc : c ∈ text)
    (hmark : c = quoteMark text) : c = '\'' := by
  rcases quoteMark_cases text with happostrophe | hquote
  · rw [hmark, happostrophe]
  · rw [hmark, hquote] at hc
    exact absurd hc ((quoteMark_eq_quote_iff text).mp hquote).right

theorem quotes_iff {text shown : Text} : Quotes text shown <-> shown = text.quoted := by
  constructor
  · rintro ⟨hquotes, hdouble, hpieces⟩
    rename_i mark pieces
    have hmark : mark = quoteMark text := by
      rcases quoteMark_cases text with happostrophe | hquote
      · rcases hquotes with rfl | rfl
        · exact happostrophe.symm
        · exact ((quoteMark_eq_quote_iff text).mpr (hdouble.mp rfl)).symm
      · rw [hquote]
        exact hdouble.mpr ((quoteMark_eq_quote_iff text).mp hquote)
    have hwritten : text.map (escape mark) = pieces := by
      rw [← List.forall₂_eq_eq_eq, List.forall₂_map_left_iff]
      exact hpieces.imp fun c piece h => (h.eq_escape hquotes).symm
    rw [quoted, ← hmark, List.flatMap_def, hwritten]
  · rintro rfl
    rw [quoted, List.flatMap_def]
    refine .intro (quoteMark_cases text) (quoteMark_eq_quote_iff text) ?_
    rw [List.forall₂_map_right_iff, List.forall₂_same]
    exact fun c _hc => writtenAs_escape _ c

theorem unquoteTo?_escaped {mark : Char} (hother : mark ≠ '\\') {text : Text}
    (hmark : forall c, c ∈ text -> c = mark -> c = '\'') (behind : Text) :
    unquoteTo? mark (text.flatMap (escape mark) ++ mark :: behind) = some (text, behind) := by
  induction text with
  | nil => exact unquoteTo?_mark mark behind
  | cons c more ih =>
      have hc := hmark c List.mem_cons_self
      have hmore := ih fun other hmember => hmark other (List.mem_cons_of_mem c hmember)
      rw [List.flatMap_cons, List.append_assoc,
        unquoteTo?_written ((writtenAs_escape mark c).head? hother _)
          ((writtenAs_escape mark c).written? hc _), hmore]
      rfl

theorem unquote?_quoted (text behind : Text) :
    unquote? (text.quoted ++ behind) = some (text, behind) := by
  have hmark := quoteMark_cases text
  have hother : quoteMark text ≠ '\\' := by
    rcases hmark with h | h <;> rw [h] <;> decide
  rw [quoted, List.cons_append, List.cons_append, List.append_assoc, List.singleton_append,
    unquote?, if_pos hmark]
  exact unquoteTo?_escaped hother (fun c => eq_apostrophe_of_mark) behind

theorem isPrintable_of_mem_quoted {text : Text} {c : Char} (hc : c ∈ text.quoted) :
    Unicode.isPrintable c = true := by
  have hmark := isPrintable_of_quotes (quoteMark_cases text)
  rw [quoted, List.cons_append, List.mem_cons, List.mem_append, List.mem_singleton] at hc
  rcases hc with rfl | hinside | rfl
  · exact hmark
  · rcases List.mem_flatMap.mp hinside with ⟨source, hsource, hshown⟩
    exact (writtenAs_escape _ source).isPrintable (eq_apostrophe_of_mark hsource) hshown
  · exact hmark

end Text

/-!
# Shown tokens
-/

namespace Token

open Text (Quotes dropStart? unquote?)

def scopeOfEnd? (rest : Text) : Option Scope :=
  if rest.getLast? = some ')' then Scope.ofRaw? (String.ofList rest.dropLast) else none

def ofShown? (shown : Text) : Option Token := do
  let start ← dropStart? "Token(".toList shown
  let (text, behind) ← unquote? start
  let scope ← scopeOfEnd? (← dropStart? ", ".toList behind)
  some { text, scope }

theorem scopeOfEnd?_raw (scope : Scope) :
    scopeOfEnd? (scope.raw.toList ++ [')']) = some scope := by
  rw [scopeOfEnd?, if_pos (List.getLast?_concat), List.dropLast_concat, String.ofList_toList,
    Scope.ofRaw?_raw]

theorem shown_eq (token : Token) :
    token.shown = "Token(".toList ++
      (token.text.quoted ++ (", ".toList ++ (token.scope.raw.toList ++ [')']))) := by
  unfold shown
  simp only [List.append_assoc]

theorem ofShown?_shown (token : Token) : ofShown? token.shown = some token := by
  rw [ofShown?, shown_eq, Text.dropStart?_append, Option.bind_eq_bind, Option.bind_some,
    Text.unquote?_quoted, Option.bind_eq_bind, Option.bind_some]
  dsimp only
  rw [Text.dropStart?_append, Option.bind_eq_bind, Option.bind_some, scopeOfEnd?_raw]
  rfl

theorem isPrintable_of_mem_shown {token : Token} {c : Char} (hc : c ∈ token.shown) :
    Unicode.isPrintable c = true := by
  have hfixed :
      ("Token(".toList ++ (", ".toList ++ [')'])).all Unicode.isPrintable = true := by
    decide +kernel
  have hprintable := List.all_eq_true.mp hfixed c
  rw [shown_eq] at hc
  simp only [List.mem_append] at hc hprintable
  rcases hc with hstart | hquoted | hbetween | hname | hstop
  · exact hprintable (.inl hstart)
  · exact Text.isPrintable_of_mem_quoted hquoted
  · exact hprintable (.inr (.inl hbetween))
  · exact (Scope.isVisible_of_mem_raw hname).isPrintable
  · exact hprintable (.inr (.inr hstop))

/-- A token is read back from how it is shown, its text by unquoting, so that different tokens are
shown differently.  Texts are quoted in the one way there is, and everything shown is printable. -/
theorem shown_tells_token :
    (forall token : Token, ofShown? token.shown = some token) ∧
      (forall text behind : Text, unquote? (text.quoted ++ behind) = some (text, behind)) ∧
      (forall text shown : Text, Quotes text shown <-> shown = text.quoted) ∧
      (forall a b : Token, a.shown = b.shown <-> a = b) ∧
      forall (token : Token) (c : Char), c ∈ token.shown -> Unicode.isPrintable c = true := by
  have hinjective : Function.Injective shown := injective_of_read ofShown?_shown
  exact ⟨ofShown?_shown, Text.unquote?_quoted, fun _text _shown => Text.quotes_iff,
    fun _a _b => hinjective.eq_iff, fun _token _c => isPrintable_of_mem_shown⟩

end Token
end ScopeProbe
