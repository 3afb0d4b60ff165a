/-!
# Text

A text is the list of its characters: positions in it count characters, and cutting it takes
positions.  A line of a text holds no line feed.  Splitting and joining lines are inverse to each
other, and cutting accepts any two integers, as rule engines report positions outside the line.
-/

namespace ScopeProbe

abbrev Text := List Char

namespace Text

/-!
# Line ends
-/

/-- Writes every line end of two characters, carriage return and line feed, as a line feed. -/
def unifyNewlines : Text -> Text
  | [] => []
  | '\r' :: '\n' :: rest => '\n' :: unifyNewlines rest
  | c :: rest => c :: unifyNewlines rest

/-!
# Lines
-/

def consFirst (c : Char) : List Text -> List Text
  | [] => [[c]]
  | line :: more => (c :: line) :: more

/-- The lines of a text.  A text that ends with a line feed has an empty last line, and the empty
text has one line. -/
def lines : Text -> List Text
  | [] => [[]]
  | c :: rest => if c = '\n' then [] :: lines rest else consFirst c (lines rest)

def unlines : List Text -> Text
  | [] => []
  | [line] => line
  | line :: more => line ++ '\n' :: unlines more

theorem lines_ne_nil (text : Text) : lines text ≠ [] := by
  cases text with
  | nil => simp [lines]
  | cons c rest =>
      unfold lines
      split
      · simp
      · cases lines rest <;> simp [consFirst]

theorem unlines_consFirst (c : Char) {lines : List Text} (hlines : lines ≠ []) :
    unlines (consFirst c lines) = c :: unlines lines := by
  cases lines with
  | nil => exact absurd rfl hlines
  | cons line more => cases more <;> simp [consFirst, unlines]

@[simp] theorem unlines_lines (text : Text) : unlines (lines text) = text := by
  induction text with
  | nil => simp [lines, unlines]
  | cons c rest ih =>
      unfold lines
      split
      · rename_i hnewline
        cases hlines : lines rest with
        | nil => exact absurd hlines (lines_ne_nil rest)
        | cons line more =>
            rw [unlines, ← hlines, ih, hnewline, List.nil_append]
            simp
      · rw [unlines_consFirst c (lines_ne_nil rest), ih]

theorem newline_notMem_of_mem_lines {text line : Text} (hmem : line ∈ lines text) :
    '\n' ∉ line := by
  induction text generalizing line with
  | nil => simp_all [lines]
  | cons c rest ih =>
      unfold lines at hmem
      split at hmem
      · rcases List.mem_cons.mp hmem with rfl | hlater
        · simp
        · exact ih hlater
      · rename_i hother
        cases hlines : lines rest with
        | nil => exact absurd hlines (lines_ne_nil rest)
        | cons first more =>
            rw [hlines, consFirst] at hmem
            rcases List.mem_cons.mp hmem with rfl | hlater
            · have hfirst : '\n' ∉ first := ih (by simp [hlines])
              simp [Ne.symm hother, hfirst]
            · exact ih (by simp [hlines, hlater])

theorem lines_of_newline_notMem {line : Text} (h : '\n' ∉ line) : lines line = [line] := by
  induction line with
  | nil => rfl
  | cons c rest ih =>
      rw [List.mem_cons, not_or] at h
      rw [lines, if_neg (Ne.symm h.left), ih h.right, consFirst]

theorem lines_append_newline {line : Text} (h : '\n' ∉ line) (rest : Text) :
    lines (line ++ '\n' :: rest) = line :: lines rest := by
  induction line with
  | nil => rw [List.nil_append, lines, if_pos rfl]
  | cons c more ih =>
      rw [List.mem_cons, not_or] at h
      rw [List.cons_append, lines, if_neg (Ne.symm h.left), ih h.right, consFirst]

theorem lines_unlines {rows : List Text} (hrows : rows ≠ [])
    (h : forall row, row ∈ rows -> '\n' ∉ row) : lines (unlines rows) = rows := by
  induction rows with
  | nil => exact absurd rfl hrows
  | cons row more ih =>
      have hrow : '\n' ∉ row := h row List.mem_cons_self
      cases more with
      | nil => rw [unlines, lines_of_newline_notMem hrow]
      | cons next others =>
          have hmore := ih (List.cons_ne_nil next others)
            fun other hmem => h other (List.mem_cons_of_mem row hmem)
          rw [unlines, lines_append_newline hrow, hmore]
          exact List.cons_ne_nil next others

/-!
# Cutting
-/

/-- A position counted from the front, or from the end if it is negative, moved to the nearest
position that a text of the given length has. -/
def clamp (length : Nat) (position : Int) : Nat :=
  if position < 0 then (position + length).toNat else min position.toNat length

def cut (text : Text) (start stop : Int) : Text :=
  (text.take (clamp text.length stop)).drop (clamp text.length start)

theorem cut_natCast (text : Text) {start stop : Nat} (hle : start <= stop)
    (hstop : stop <= text.length) :
    cut text start stop = (text.take stop).drop start := by
  have hnonneg (n : Nat) : ¬ (n : Int) < 0 := by omega
  simp [cut, clamp, hnonneg, Nat.min_eq_left hstop, Nat.min_eq_left (Nat.le_trans hle hstop)]

/-!
# Searching
-/

def parts (mark : Char) : Text -> List Text
  | [] => [[]]
  | c :: rest => if c = mark then [] :: parts mark rest else consFirst c (parts mark rest)

def dropStart? : (beginning text : Text) -> Option Text
  | [], text => some text
  | _ :: _, [] => none
  | b :: bs, c :: cs => if b = c then dropStart? bs cs else none

def splitAt? (mark : Text) : Text -> Option (Text × Text)
  | [] => (dropStart? mark []).map fun rest => ([], rest)
  | c :: cs =>
      match dropStart? mark (c :: cs) with
      | some rest => some ([], rest)
      | none => (splitAt? mark cs).map fun (before, rest) => (c :: before, rest)

theorem parts_ne_nil (mark : Char) (text : Text) : parts mark text ≠ [] := by
  cases text with
  | nil => nofun
  | cons c rest =>
      unfold parts
      split
      · nofun
      · cases parts mark rest <;> nofun

theorem dropStart?_eq_some {beginning text rest : Text}
    (h : dropStart? beginning text = some rest) : text = beginning ++ rest := by
  induction beginning generalizing text with
  | nil => simpa [dropStart?] using h
  | cons b bs ih =>
      cases text with
      | nil => simp [dropStart?] at h
      | cons c cs =>
          unfold dropStart? at h
          split at h
          · rename_i hsame
            simp [hsame, ih h]
          · simp at h

@[simp] theorem dropStart?_append (beginning rest : Text) :
    dropStart? beginning (beginning ++ rest) = some rest := by
  induction beginning with
  | nil => rfl
  | cons b bs ih => rw [List.cons_append, dropStart?, if_pos rfl, ih]

theorem splitAt?_eq_some {mark text before rest : Text}
    (h : splitAt? mark text = some (before, rest)) : text = before ++ mark ++ rest := by
  induction text generalizing before with
  | nil =>
      simp only [splitAt?, Option.map_eq_some_iff, Prod.mk.injEq] at h
      rcases h with ⟨behind, hstart, rfl, rfl⟩
      simpa using dropStart?_eq_some hstart
  | cons c cs ih =>
      unfold splitAt? at h
      split at h
      · rename_i behind hstart
        simp only [Option.some.injEq, Prod.mk.injEq] at h
        rcases h with ⟨rfl, rfl⟩
        simpa using dropStart?_eq_some hstart
      · simp only [Option.map_eq_some_iff, Prod.mk.injEq, Prod.exists] at h
        rcases h with ⟨front, back, hsplit, rfl, rfl⟩
        simp [ih hsplit]

theorem splitAt?_singleton_eq_some {mark : Char} {text before behind : Text} :
    splitAt? [mark] text = some (before, behind) <->
      text = before ++ mark :: behind ∧ mark ∉ before := by
  induction text generalizing before behind with
  | nil =>
      simp [splitAt?, dropStart?]
  | cons c rest ih =>
      rw [splitAt?, dropStart?]
      by_cases hmark : mark = c
      · subst hmark
        rw [if_pos rfl]
        cases before with
        | nil => simp [dropStart?]
        | cons first more => simp +contextual [dropStart?]
      · rw [if_neg hmark]
        cases before with
        | nil => simp [Ne.symm hmark]
        | cons first more =>
            simp only [Option.map_eq_some_iff, Prod.exists, Prod.mk.injEq, List.cons.injEq, ih,
              List.cons_append, List.mem_cons, not_or]
            constructor
            · rintro ⟨front, back, ⟨rfl, hfront⟩, ⟨rfl, rfl⟩, rfl⟩
              exact ⟨⟨rfl, rfl⟩, hmark, hfront⟩
            · rintro ⟨⟨rfl, rfl⟩, _hmark, hmore⟩
              exact ⟨more, behind, ⟨rfl, hmore⟩, ⟨rfl, rfl⟩, rfl⟩

end Text
end ScopeProbe
