import Mathlib.Data.List.Basic
import ScopeProbe.Excerpt

/-!
# Fragments in their excerpts

An excerpt has the fragment between two lists of lines that do not depend on it,
and its span cuts exactly the fragment out of its lines.  A text on its own is
an excerpt with nothing around the fragment.
-/

namespace ScopeProbe

/-!
# What a span cuts out
-/

namespace Span

def Covers (span : Span) (index : Nat) : Prop :=
  span.startLine <= index ∧ (index : Int) <= span.endLine

instance (span : Span) (index : Nat) : Decidable (span.Covers index) :=
  inferInstanceAs (Decidable (_ ∧ _))

/-- A line from the start of the span on, if the span starts there, up to the end of the span, if
it ends there. -/
def part (span : Span) (index : Nat) (line : Text) : Text :=
  line.cut (if (index : Int) = span.startLine then span.startIndex else 0)
    (if (index : Int) = span.endLine then span.endIndex else line.length)

def parts (span : Span) (index : Nat) (lines : List Text) : List Text :=
  ((lines.zipIdx index).filter fun entry => span.Covers entry.2).map fun entry =>
    span.part entry.2 entry.1

structure Fits (span : Span) (lines : List Text) : Prop where
  startLine_nonneg : 0 <= span.startLine
  startLine_le : span.startLine <= span.endLine
  endLine_lt : span.endLine < lines.length
  start : forall line, lines[span.startLine.toNat]? = some line ->
    0 <= span.startIndex ∧ span.startIndex <= line.length
  stop : forall line, lines[span.endLine.toNat]? = some line ->
    0 <= span.endIndex ∧ span.endIndex <= line.length

variable {span : Span} {index : Nat} {lines : List Text}

theorem parts_append (span : Span) (index : Nat) (front back : List Text) :
    span.parts index (front ++ back) =
      span.parts index front ++ span.parts (index + front.length) back := by
  rw [parts, List.zipIdx_append, List.filter_append, List.map_append]
  rfl

theorem parts_cons {line : Text} (hcovers : span.Covers index) (more : List Text) :
    span.parts index (line :: more) =
      span.part index line :: span.parts (index + 1) more := by
  rw [parts, List.zipIdx_cons, List.filter_cons_of_pos (by exact decide_eq_true hcovers),
    List.map_cons]
  rfl

theorem parts_of_outside
    (houtside : (index : Int) + lines.length <= span.startLine ∨ span.endLine < index) :
    span.parts index lines = [] := by
  rw [parts, List.map_eq_nil_iff, List.filter_eq_nil_iff]
  rintro ⟨line, number⟩ hentry hcovers
  have hbounds := List.mem_zipIdx hentry
  have hcovers : span.startLine <= number ∧ (number : Int) <= span.endLine :=
    of_decide_eq_true hcovers
  omega

theorem parts_of_behind (hstart : span.startLine < index)
    (hstop : (index : Int) + lines.length = span.endLine + 1)
    (hend : forall last, lines.getLast? = some last -> span.endIndex = last.length) :
    span.parts index lines = lines := by
  have hwhole : forall entry, entry ∈ lines.zipIdx index ->
      span.part entry.2 entry.1 = entry.1 := by
    rintro ⟨line, number⟩ hentry
    have hbounds := List.mem_zipIdx hentry
    have hline : lines[number - index]? = some line :=
      (List.mk_mem_zipIdx_iff_le_and_getElem?_sub.mp hentry).right
    have hlast : (number : Int) = span.endLine -> span.endIndex = line.length := by
      intro hnumber
      apply hend
      rw [List.getLast?_eq_getElem?, ← hline]
      congr 1
      omega
    rw [part, if_neg (by dsimp only; omega)]
    split
    · rename_i hnumber
      rw [hlast hnumber]
      exact (Text.cut_natCast line (Nat.zero_le _) (Nat.le_refl _)).trans (by simp)
    · exact (Text.cut_natCast line (Nat.zero_le _) (Nat.le_refl _)).trans (by simp)
  have hall : forall entry, entry ∈ lines.zipIdx index ->
      decide (span.Covers entry.2) = true := by
    rintro ⟨line, number⟩ hentry
    have hbounds := List.mem_zipIdx hentry
    apply decide_eq_true
    constructor <;> dsimp only <;> omega
  rw [parts, List.filter_eq_self.mpr hall, List.map_congr_left hwhole]
  exact List.zipIdx_map_fst index lines

theorem part_first (front line : Text)
    (hstart : span.startLine = index ∧ span.startIndex = front.length)
    (hend : (index : Int) = span.endLine -> span.endIndex = (front ++ line).length) :
    span.part index (front ++ line) = line := by
  have hstop : (if (index : Int) = span.endLine then span.endIndex
      else ((front ++ line).length : Int)) = (front ++ line).length := by
    split
    · rename_i hlast
      exact hend hlast
    · rfl
  rw [part, hstop, if_pos hstart.left.symm, hstart.right,
    Text.cut_natCast _ (by simp) (Nat.le_refl _), List.take_length, List.drop_left]

theorem parts_around (header : List Text) (front first : Text) (more trailer : List Text)
    (hstart : span.startLine = header.length ∧ span.startIndex = front.length)
    (hstop : span.endLine = header.length + more.length)
    (hend : span.endIndex = Excerpt.lastLength ((front ++ first) :: more)) :
    span.parts 0 (header ++ ((front ++ first) :: more ++ trailer)) = first :: more := by
  have hheader : span.parts 0 header = [] := parts_of_outside (by omega)
  have htrailer : span.parts (header.length + ((front ++ first) :: more).length) trailer = [] :=
    parts_of_outside (by rw [List.length_cons]; omega)
  have hcovers : span.Covers header.length := by
    constructor <;> omega
  have hfirst : span.part header.length (front ++ first) = first := by
    apply part_first front first hstart
    intro hlast
    have hnone : more = [] := by
      apply List.eq_nil_of_length_eq_zero
      omega
    rw [hend, hnone]
    rfl
  have hmore : span.parts (header.length + 1) more = more := by
    apply parts_of_behind
    · omega
    · omega
    · intro last hlast
      rw [hend, Excerpt.lastLength, List.getLast?_cons, hlast]
      rfl
  rw [parts_append, hheader, Nat.zero_add, List.nil_append, parts_append, htrailer,
    List.append_nil, parts_cons hcovers, hfirst, hmore]

end Span

/-!
# Places for a fragment
-/

def Template.bare : Template where
  header := []
  indent := 0
  trailer := []

def Template.at? : Option Surroundings -> Template
  | none => .bare
  | some place => place.template

namespace Excerpt

def placed : Option Surroundings -> Text -> Excerpt
  | none, fragment => ofText fragment
  | some place, fragment => inside place fragment

theorem ofText_eq_fill (text : Text) : ofText text = fill .bare text := by
  have hindent : indentFirst 0 text.unifyNewlines.lines = text.unifyNewlines.lines := by
    cases text.unifyNewlines.lines <;> rfl
  rw [ofText, fill, Template.bare]
  dsimp only
  rw [hindent]
  simp

theorem placed_eq_fill (place : Option Surroundings) (fragment : Text) :
    placed place fragment = fill (Template.at? place) fragment := by
  cases place with
  | none => exact ofText_eq_fill fragment
  | some place => rfl

theorem fill_of_lines (template : Template) {fragment first : Text} {more : List Text}
    (hlines : fragment.unifyNewlines.lines = first :: more) :
    fill template fragment =
      { lines := template.header ++
          ((List.replicate template.indent ' ' ++ first) :: more ++ template.trailer)
        span := ⟨template.header.length, template.indent,
          template.header.length + more.length,
          lastLength ((List.replicate template.indent ' ' ++ first) :: more)⟩ } := by
  rw [fill, hlines, indentFirst, List.append_assoc, List.length_cons]
  congr 2
  omega

/-- The text that the span of an excerpt cuts out of its lines. -/
def cutOut (excerpt : Excerpt) : Text :=
  Text.unlines (excerpt.span.parts 0 excerpt.lines)

variable (template : Template) (fragment : Text)

theorem parts_fill :
    (fill template fragment).span.parts 0 (fill template fragment).lines =
      fragment.unifyNewlines.lines := by
  cases hlines : fragment.unifyNewlines.lines with
  | nil => exact absurd hlines (Text.lines_ne_nil _)
  | cons first more =>
      rw [fill_of_lines template hlines, Span.parts_around _ _ _ _ _ (by simp) rfl rfl]

theorem cutOut_fill : (fill template fragment).cutOut = fragment.unifyNewlines := by
  rw [cutOut, parts_fill, Text.unlines_lines]

theorem getElem?_around {header body trailer : List Text} {number : Nat}
    (hnumber : number < body.length) :
    (header ++ (body ++ trailer))[header.length + number]? = body[number]? := by
  rw [List.getElem?_append_right (Nat.le_add_right _ _), Nat.add_sub_cancel_left,
    List.getElem?_append_left hnumber]

theorem endIndex_fill {line : Text}
    (hline : (fill template fragment).lines[(fill template fragment).span.endLine.toNat]? =
      some line) :
    (fill template fragment).span.endIndex = line.length := by
  cases hlines : fragment.unifyNewlines.lines with
  | nil => exact absurd hlines (Text.lines_ne_nil _)
  | cons first more =>
      rw [fill_of_lines template hlines] at hline ⊢
      have hplace : ((List.replicate template.indent ' ' ++ first) :: more)[more.length]? =
          some line := by
        rw [← getElem?_around (Nat.lt_succ_self _), ← hline]
        rfl
      dsimp only
      rw [lastLength, List.getLast?_eq_getElem?, List.length_cons, Nat.add_sub_cancel, hplace]
      rfl

theorem fits_fill : (fill template fragment).span.Fits (fill template fragment).lines := by
  have hend : forall line,
      (fill template fragment).lines[(fill template fragment).span.endLine.toNat]? = some line ->
        (fill template fragment).span.endIndex = line.length := by
    intro line hline
    exact endIndex_fill template fragment hline
  cases hlines : fragment.unifyNewlines.lines with
  | nil => exact absurd hlines (Text.lines_ne_nil _)
  | cons first more =>
      rw [fill_of_lines template hlines] at hend ⊢
      constructor
      · dsimp only
        omega
      · dsimp only
        omega
      · simp only [List.length_append, List.length_cons]
        omega
      · intro line hline
        have hplace : ((List.replicate template.indent ' ' ++ first) :: more)[0]? = some line :=
          (getElem?_around (Nat.zero_lt_succ _)).symm.trans hline
        rw [List.getElem?_cons_zero, Option.some.injEq] at hplace
        rw [← hplace, List.length_append, List.length_replicate]
        dsimp only
        omega
      · intro line hline
        rw [hend line hline]
        omega

theorem around_fill :
    (fill template fragment).lines.take (fill template fragment).span.startLine.toNat =
        template.header ∧
      (fill template fragment).lines.drop ((fill template fragment).span.endLine + 1).toNat =
        template.trailer := by
  cases hlines : fragment.unifyNewlines.lines with
  | nil => exact absurd hlines (Text.lines_ne_nil _)
  | cons first more =>
      rw [fill_of_lines template hlines]
      constructor
      · dsimp only
        rw [Int.toNat_natCast, List.take_left]
      · have hlength : ((template.header.length : Int) + more.length + 1).toNat =
            (template.header ++
              (List.replicate template.indent ' ' ++ first) :: more).length := by
          rw [List.length_append, List.length_cons]
          omega
        dsimp only
        rw [hlength, ← List.append_assoc, List.drop_left]

theorem isEmpty_fill :
    (fill template fragment).span.isEmpty = true <-> fragment.unifyNewlines = [] := by
  cases hlines : fragment.unifyNewlines.lines with
  | nil => exact absurd hlines (Text.lines_ne_nil _)
  | cons first more =>
      rw [← Text.unlines_lines fragment.unifyNewlines, hlines, fill_of_lines template hlines,
        Span.isEmpty, Bool.and_eq_true, beq_iff_eq, decide_eq_true_iff]
      dsimp only
      cases more with
      | nil =>
          have hlength : lastLength [List.replicate template.indent ' ' ++ first] =
              template.indent + first.length := by
            simp [lastLength]
          rw [hlength, Text.unlines, ← List.length_eq_zero_iff]
          constructor
          · rintro ⟨_hline, hindex⟩
            omega
          · intro hnone
            constructor
            · simp
            · omega
      | cons second rest =>
          constructor
          · rintro ⟨hline, _hindex⟩
            rw [List.length_cons] at hline
            omega
          · intro hnone
            simp [Text.unlines] at hnone

theorem newline_notMem_fill {line : Text} (htemplate : forall other,
      other ∈ template.header ++ template.trailer -> '\n' ∉ other)
    (hline : line ∈ (fill template fragment).lines) : '\n' ∉ line := by
  cases hlines : fragment.unifyNewlines.lines with
  | nil => exact absurd hlines (Text.lines_ne_nil _)
  | cons first more =>
      have hbare : forall other, other ∈ first :: more -> '\n' ∉ other := by
        intro other hother
        rw [← hlines] at hother
        exact Text.newline_notMem_of_mem_lines hother
      rw [fill_of_lines template hlines] at hline
      rcases List.mem_append.mp hline with hheader | hinner
      · exact htemplate line (List.mem_append_left _ hheader)
      · rcases List.mem_append.mp hinner with hbody | htrailer
        · rcases List.mem_cons.mp hbody with rfl | hmore
          · intro hnewline
            rcases List.mem_append.mp hnewline with hindent | hfirst
            · cases List.eq_of_mem_replicate hindent
            · exact hbare first List.mem_cons_self hfirst
          · exact hbare line (List.mem_cons_of_mem _ hmore)
        · exact htemplate line (List.mem_append_right _ htrailer)

/-- The span of an excerpt stands in its lines and cuts the fragment out of them, between lines that
the place alone decides.  No line holds a line feed, and the span is empty just if the fragment
is. -/
theorem span_recovers_fragment (place : Option Surroundings) (fragment : Text) :
    let excerpt := placed place fragment
    excerpt.span.Fits excerpt.lines ∧
      excerpt.cutOut = fragment.unifyNewlines ∧
      (excerpt.lines.take excerpt.span.startLine.toNat = (Template.at? place).header ∧
        excerpt.lines.drop (excerpt.span.endLine + 1).toNat = (Template.at? place).trailer) ∧
      (forall line, line ∈ excerpt.lines -> '\n' ∉ line) ∧
      (excerpt.span.isEmpty = true <-> fragment.unifyNewlines = []) := by
  intro excerpt
  have hexcerpt : excerpt = fill (Template.at? place) fragment := placed_eq_fill place fragment
  have htemplate : forall other, other ∈ (Template.at? place).header ++
      (Template.at? place).trailer -> '\n' ∉ other := by
    cases place with
    | none => decide
    | some place => cases place <;> decide
  rw [hexcerpt]
  refine ⟨fits_fill _ fragment, cutOut_fill _ fragment, around_fill _ fragment, ?_,
    isEmpty_fill _ fragment⟩
  intro line hline
  exact newline_notMem_fill _ fragment htemplate hline

end Excerpt

end ScopeProbe
