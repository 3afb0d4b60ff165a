import ScopeProbe.Proofs.Mana.Code

/-!
# String literals

How far a string literal goes is told by its characters alone.  Read from the
opening on, each place of the literal stands in its text, behind the backslash of
an escape, or in an interpolation, and the literal ends with the first quote that
stands in its text.  The tokens of the literal reach just as far, and they mark
its escapes, its interpolations and its end where these standings say so.
-/

namespace ScopeProbe
namespace Mana

/-!
# Places of a literal
-/

/-- What a character of a string literal is part of. -/
inductive Standing where
  | text
  | escaped
  | interpolation
  deriving DecidableEq, Repr

def Standing.next (interpolated : Bool) : Standing -> Char -> Standing
  | text, c =>
      if c = '\\' then escaped
      else if interpolated ∧ c = '\x7b' then interpolation
      else text
  | escaped, _ => text
  | interpolation, c => if c = '\x7d' then text else interpolation

section Places

variable (interpolated : Bool)

def standingAt (standing : Standing) (text : Text) (place : Nat) : Standing :=
  (text.take place).foldl (Standing.next interpolated) standing

def closesAt (standing : Standing) (text : Text) (place : Nat) : Bool :=
  standingAt interpolated standing text place == .text && text[place]? == some '"'

def closing? (standing : Standing) (text : Text) : Option Nat :=
  (List.range text.length).find? (closesAt interpolated standing text)

def extent (standing : Standing) (text : Text) : Nat :=
  match closing? interpolated standing text with
  | some place => place + 1
  | none => text.length

end Places

/-!
Behind a piece of a text its places stand as they do in a text of their own.
-/

section Behind

variable {interpolated : Bool} {standing next : Standing} {piece : Text}
  (hnext : piece.foldl (Standing.next interpolated) standing = next) (behind : Text)

include hnext

theorem standingAt_behind (place : Nat) :
    standingAt interpolated standing (piece ++ behind) (piece.length + place) =
      standingAt interpolated next behind place := by
  rw [standingAt, List.take_length_add_append, List.foldl_append, hnext]
  rfl

theorem closesAt_behind (place : Nat) :
    closesAt interpolated standing (piece ++ behind) (piece.length + place) =
      closesAt interpolated next behind place := by
  rw [closesAt, standingAt_behind hnext, List.getElem?_append_right (Nat.le_add_right _ _),
    Nat.add_sub_cancel_left]
  rfl

theorem closing?_behind
    (hopen : forall place, place < piece.length ->
      closesAt interpolated standing (piece ++ behind) place = false) :
    closing? interpolated standing (piece ++ behind) =
      (closing? interpolated next behind).map (piece.length + ·) := by
  have hfront : (List.range piece.length).find?
      (closesAt interpolated standing (piece ++ behind)) = none := by
    apply List.find?_eq_none.mpr
    intro place hplace
    rw [hopen place (List.mem_range.mp hplace)]
    exact Bool.false_ne_true
  rw [closing?, List.length_append, List.range_add, List.find?_append, hfront, Option.none_or,
    List.find?_map]
  have hsame : closesAt interpolated standing (piece ++ behind) ∘ (piece.length + ·) =
      closesAt interpolated next behind := by
    funext place
    exact closesAt_behind hnext behind place
  rw [hsame]
  rfl

theorem extent_behind
    (hopen : forall place, place < piece.length ->
      closesAt interpolated standing (piece ++ behind) place = false) :
    extent interpolated standing (piece ++ behind) =
      piece.length + extent interpolated next behind := by
  rw [extent, closing?_behind hnext behind hopen, extent]
  cases closing? interpolated next behind with
  | none => exact List.length_append
  | some place => rfl

end Behind

/-!
# Pieces of a literal
-/

def literalEnd : Lexeme where
  text := ['"']
  inner := [.stringQuotedDouble, .punctuationDefinitionStringEnd]

/-- The lexeme that a place of a literal calls for, by where it stands and what is ahead: the end of
the literal, an escape, an end of an interpolation, or a mark without meaning inside of one. -/
def mark? (interpolated : Bool) : Standing -> Text -> Option Lexeme
  | .text, '"' :: _ => some literalEnd
  | .text, '\\' :: c :: _ =>
      some { text := ['\\', c], inner := [.stringQuotedDouble, .constantCharacterEscape] }
  | .text, '\x7b' :: _ =>
      if interpolated then
        some
          { text := ['\x7b'],
            inner := [.stringQuotedDouble, .metaInterpolation,
              .punctuationDefinitionInterpolationBegin] }
      else none
  | .interpolation, '\x7d' :: _ =>
      some
        { text := ['\x7d'],
          inner := [.stringQuotedDouble, .metaInterpolation,
            .punctuationDefinitionInterpolationEnd] }
  | .interpolation, c :: _ =>
      if c = '"' ∨ c = '\\' ∨ c = '\x7b' then
        some { text := [c], inner := [.stringQuotedDouble, .metaInterpolation] }
      else none
  | _, _ => none

def Standing.ordinary (interpolated : Bool) : Standing -> Char -> Bool
  | text, c => !endsPlain interpolated c
  | escaped, _ => false
  | interpolation, c => c != '"' && c != '\\' && c != '\x7b' && c != '\x7d'

inductive PieceTold (interpolated : Bool) : Standing -> Text -> Lexeme -> Prop where
  | mark {standing : Standing} {ahead : Text} {lexeme : Lexeme} :
      mark? interpolated standing ahead = some lexeme ->
        PieceTold interpolated standing ahead lexeme
  | plain {ahead text : Text} :
      (forall c, c ∈ text -> Standing.text.ordinary interpolated c = true) ->
        PieceTold interpolated .text ahead { text, inner := [.stringQuotedDouble] }
  | lastBackslash :
      PieceTold interpolated .text ['\\'] { text := ['\\'], inner := [.stringQuotedDouble] }
  | inside {ahead text : Text} {inner : List Scope} :
      (forall c, c ∈ text -> Standing.interpolation.ordinary interpolated c = true) ->
        inner = [] ∨ inner = [.variableOtherReadwrite] ->
        PieceTold interpolated .interpolation ahead
          { text, inner := [.stringQuotedDouble, .metaInterpolation] ++ inner }

def Lexeme.placed (start : Nat) : List Lexeme -> List (Nat × Lexeme)
  | [] => []
  | lexeme :: more => (start, lexeme) :: placed (start + lexeme.text.length) more

theorem Lexeme.placed_add (start shift : Nat) (lexemes : List Lexeme) :
    placed (start + shift) lexemes =
      (placed shift lexemes).map fun entry => (start + entry.1, entry.2) := by
  induction lexemes generalizing shift with
  | nil => rfl
  | cons lexeme more ih =>
      rw [placed, placed, List.map_cons, Nat.add_assoc, ih]

theorem Lexeme.mem_placed_iff {start place : Nat} {lexemes : List Lexeme} {lexeme : Lexeme} :
    (place, lexeme) ∈ placed start lexemes <->
      exists shift, (shift, lexeme) ∈ placed 0 lexemes ∧ start + shift = place := by
  have hshift := placed_add start 0 lexemes
  rw [Nat.add_zero] at hshift
  simp [hshift]

/-- The pieces of a literal reach as far as the literal does.  An end is the last of them, and there
is one just if the literal is closed.  Whatever a place calls for stands there, and whatever stands
at a place is told by it. -/
structure LiteralTold (interpolated : Bool) (standing : Standing) (text : Text)
    (pieces : List Lexeme) : Prop where
  text_eq : (pieces.map Lexeme.text).flatten = text.take (extent interpolated standing text)
  ending : exists inner,
    pieces = inner ++
        (if (closing? interpolated standing text).isSome then [literalEnd] else []) ∧
      forall piece, piece ∈ inner -> .punctuationDefinitionStringEnd ∉ piece.inner
  marks : forall place lexeme, place < extent interpolated standing text ->
    mark? interpolated (standingAt interpolated standing text place) (text.drop place) =
        some lexeme ->
      (place, lexeme) ∈ Lexeme.placed 0 pieces
  told : forall place lexeme, (place, lexeme) ∈ Lexeme.placed 0 pieces ->
    PieceTold interpolated (standingAt interpolated standing text place) (text.drop place) lexeme

theorem LiteralTold.nil (interpolated : Bool) (standing : Standing) :
    LiteralTold interpolated standing [] [] where
  text_eq := rfl
  ending := ⟨[], rfl, by simp⟩
  marks := fun _place _lexeme hplace => absurd hplace (Nat.not_lt_zero _)
  told := fun _place _lexeme hplaced => absurd hplaced List.not_mem_nil

theorem LiteralTold.close (interpolated : Bool) (behind : Text) :
    LiteralTold interpolated .text ('"' :: behind) [literalEnd] := by
  have hclosing : closing? interpolated .text ('"' :: behind) = some 0 := by
    rw [closing?, List.length_cons, List.range_succ_eq_map, List.find?_cons_of_pos]
    rfl
  have hextent : extent interpolated .text ('"' :: behind) = 1 := by
    rw [extent, hclosing]
  refine ⟨?_, ⟨[], ?_, by simp⟩, ?_, ?_⟩
  · rw [hextent]
    rfl
  · rw [hclosing]
    rfl
  · intro place lexeme hplace hmark
    rw [hextent, Nat.lt_one_iff] at hplace
    rw [hplace] at hmark ⊢
    rw [← Option.some.inj hmark]
    exact List.mem_cons_self
  · intro place lexeme hplaced
    cases List.mem_singleton.mp hplaced
    exact PieceTold.mark rfl

structure Piece (interpolated : Bool) (standing : Standing) (lexeme : Lexeme) (behind : Text)
    (next : Standing) : Prop where
  next_eq : lexeme.text.foldl (Standing.next interpolated) standing = next
  opened : forall place, place < lexeme.text.length ->
    closesAt interpolated standing (lexeme.text ++ behind) place = false
  notEnd : .punctuationDefinitionStringEnd ∉ lexeme.inner
  marks : forall place other, place < lexeme.text.length ->
    mark? interpolated (standingAt interpolated standing (lexeme.text ++ behind) place)
        ((lexeme.text ++ behind).drop place) = some other ->
      (place, other) = (0, lexeme)
  told : PieceTold interpolated standing (lexeme.text ++ behind) lexeme

theorem LiteralTold.cons {interpolated : Bool} {standing next : Standing} {lexeme : Lexeme}
    {behind : Text} {pieces : List Lexeme}
    (hpiece : Piece interpolated standing lexeme behind next)
    (hmore : LiteralTold interpolated next behind pieces) :
    LiteralTold interpolated standing (lexeme.text ++ behind) (lexeme :: pieces) := by
  have hextent := extent_behind hpiece.next_eq behind hpiece.opened
  have hclosing := closing?_behind hpiece.next_eq behind hpiece.opened
  refine ⟨?_, ?_, ?_, ?_⟩
  · rw [List.map_cons, List.flatten_cons, hmore.text_eq, hextent, List.take_length_add_append]
  · rcases hmore.ending with ⟨inner, hpieces, hinner⟩
    refine ⟨lexeme :: inner, ?_, ?_⟩
    · rw [hclosing, Option.isSome_map, List.cons_append, ← hpieces]
    · intro piece hpiece'
      rcases List.mem_cons.mp hpiece' with rfl | hlater
      · exact hpiece.notEnd
      · exact hinner piece hlater
  · intro place other hplace hmark
    by_cases hfront : place < lexeme.text.length
    · rw [hpiece.marks place other hfront hmark]
      exact List.mem_cons_self
    · rcases Nat.exists_eq_add_of_le (Nat.le_of_not_lt hfront) with ⟨shift, rfl⟩
      rw [hextent, Nat.add_lt_add_iff_left] at hplace
      rw [standingAt_behind hpiece.next_eq, List.drop_length_add_append] at hmark
      apply List.mem_cons_of_mem
      rw [Nat.zero_add]
      exact Lexeme.mem_placed_iff.mpr ⟨shift, hmore.marks shift other hplace hmark, rfl⟩
  · intro place other hplaced
    rcases List.mem_cons.mp hplaced with hfirst | hlater
    · cases hfirst
      exact hpiece.told
    · rw [Nat.zero_add] at hlater
      rcases Lexeme.mem_placed_iff.mp hlater with ⟨shift, hshift, rfl⟩
      rw [standingAt_behind hpiece.next_eq, List.drop_length_add_append]
      exact hmore.told shift other hshift

/-!
# Kinds of pieces
-/

section Ordinary

variable {interpolated : Bool} {standing : Standing} {c : Char}

theorem Standing.ordinary_text_iff :
    Standing.text.ordinary interpolated c = true <->
      c ≠ '"' ∧ c ≠ '\\' ∧ ¬ (interpolated = true ∧ c = '\x7b') := by
  cases interpolated <;> simp [ordinary, endsPlain, and_assoc]

theorem Standing.ordinary_interpolation_iff :
    Standing.interpolation.ordinary interpolated c = true <->
      c ≠ '"' ∧ c ≠ '\\' ∧ c ≠ '\x7b' ∧ c ≠ '\x7d' := by
  simp [ordinary, and_assoc]

theorem Standing.next_of_ordinary (hc : standing.ordinary interpolated c = true) :
    Standing.next interpolated standing c = standing := by
  cases standing with
  | text =>
      rcases ordinary_text_iff.mp hc with ⟨_hquote, hescape, hopen⟩
      rw [next, if_neg hescape, if_neg hopen]
  | escaped => cases hc
  | interpolation =>
      rcases ordinary_interpolation_iff.mp hc with ⟨_hquote, _hescape, _hopen, hclose⟩
      rw [next, if_neg hclose]

theorem ne_quote_of_ordinary (hc : standing.ordinary interpolated c = true) : c ≠ '"' := by
  cases standing with
  | text => exact (Standing.ordinary_text_iff.mp hc).left
  | escaped => cases hc
  | interpolation => exact (Standing.ordinary_interpolation_iff.mp hc).left

theorem mark?_of_ordinary (hc : standing.ordinary interpolated c = true)
    (rest : Text) : mark? interpolated standing (c :: rest) = none := by
  cases standing with
  | text =>
      rcases Standing.ordinary_text_iff.mp hc with ⟨hquote, hescape, hopen⟩
      unfold mark?
      split <;> simp_all
  | escaped => cases hc
  | interpolation =>
      rcases Standing.ordinary_interpolation_iff.mp hc with ⟨hquote, hescape, hopen, hclose⟩
      unfold mark?
      split <;> simp_all

theorem foldl_of_ordinary {text : Text}
    (htext : forall c, c ∈ text -> standing.ordinary interpolated c = true) :
    text.foldl (Standing.next interpolated) standing = standing := by
  induction text with
  | nil => rfl
  | cons c rest ih =>
      rw [List.foldl_cons, Standing.next_of_ordinary (htext c List.mem_cons_self)]
      exact ih fun d hd => htext d (List.mem_cons_of_mem _ hd)

theorem Piece.run {text : Text} {inner : List Scope} {behind : Text}
    (htext : forall c, c ∈ text -> standing.ordinary interpolated c = true)
    (hinner : .punctuationDefinitionStringEnd ∉ inner)
    (htold : PieceTold interpolated standing (text ++ behind) { text, inner }) :
    Piece interpolated standing { text, inner } behind standing := by
  have hplace : forall place, place < text.length ->
      exists c rest, (text ++ behind).drop place = c :: rest ∧
        standing.ordinary interpolated c = true ∧
        standingAt interpolated standing (text ++ behind) place = standing := by
    intro place hplace
    refine ⟨text[place], text.drop (place + 1) ++ behind, ?_, htext _ (List.getElem_mem hplace), ?_⟩
    · rw [List.drop_append_of_le_length hplace.le, List.drop_eq_getElem_cons hplace,
        List.cons_append]
    · rw [standingAt, List.take_append_of_le_length hplace.le]
      exact foldl_of_ordinary fun c hc => htext c (List.mem_of_mem_take hc)
  refine ⟨foldl_of_ordinary htext, ?_, hinner, ?_, htold⟩
  · intro place hfront
    rcases hplace place hfront with ⟨c, rest, hahead, hc, _hstanding⟩
    have hhead : (text ++ behind)[place]? = some c := by
      rw [← List.head?_drop, hahead]
      rfl
    rw [closesAt, hhead]
    simp [ne_quote_of_ordinary hc]
  · intro place other hfront hmark
    rcases hplace place hfront with ⟨c, rest, hahead, hc, hstanding⟩
    rw [hstanding, hahead, mark?_of_ordinary hc] at hmark
    cases hmark

theorem Piece.char {inner : List Scope} {behind : Text}
    (hquote : standing = .text -> c ≠ '"')
    (hinner : .punctuationDefinitionStringEnd ∉ inner)
    (hmark : mark? interpolated standing (c :: behind) = some { text := [c], inner }) :
    Piece interpolated standing { text := [c], inner } behind
      (Standing.next interpolated standing c) := by
  refine ⟨rfl, ?_, hinner, ?_, PieceTold.mark hmark⟩
  · intro place hplace
    cases Nat.lt_one_iff.mp hplace
    simpa [closesAt, standingAt] using hquote
  · intro place other hplace hother
    cases Nat.lt_one_iff.mp hplace
    have hsame : mark? interpolated standing (c :: behind) = some other := hother
    rw [hmark] at hsame
    cases hsame
    rfl

end Ordinary

theorem Piece.escape (interpolated : Bool) (c : Char) (behind : Text) :
    Piece interpolated .text
      { text := ['\\', c], inner := [.stringQuotedDouble, .constantCharacterEscape] } behind
      .text := by
  have hplaces : forall place, place < 2 -> place = 0 ∨ place = 1 := by
    intro place hplace
    omega
  refine ⟨rfl, ?_, by simp, ?_, PieceTold.mark rfl⟩
  · intro place hplace
    rcases hplaces place hplace with rfl | rfl
    · rfl
    · rfl
  · intro place other hplace hmark
    rcases hplaces place hplace with rfl | rfl
    · cases hmark
      rfl
    · cases hmark

theorem Piece.lastBackslash (interpolated : Bool) :
    Piece interpolated .text { text := ['\\'], inner := [.stringQuotedDouble] } [] .escaped := by
  refine ⟨rfl, ?_, by simp, ?_, PieceTold.lastBackslash⟩
  · intro place hplace
    cases Nat.lt_one_iff.mp hplace
    rfl
  · intro place other hplace hmark
    cases Nat.lt_one_iff.mp hplace
    cases hmark

/-!
# Scanning a literal
-/

inductive Reads (interpolated : Bool) : Mode -> Standing -> Prop where
  | text : Reads interpolated (.string interpolated) .text
  | interpolation (hinterpolated : interpolated = true) :
      Reads interpolated .interpolation .interpolation

def literalMarks : List Char :=
  ['"', '\\', '\x7b', '\x7d']

structure Step.Takes (interpolated : Bool) (standing : Standing) (state : State) (c : Char)
    (rest : Text) (step : Step) : Prop where
  state_eq : step.state = state
  piece : exists next,
    (rest.drop step.extra = [] ∨ Reads interpolated step.mode next) ∧
      Piece interpolated standing { text := c :: rest.take step.extra, inner := step.inner }
        (rest.drop step.extra) next

section Steps

variable (state : State) (interpolated : Bool) (c : Char) (rest : Text)

theorem stringStep_takes (hquote : c ≠ '"') :
    (stringStep state interpolated c rest).Takes interpolated .text state c rest := by
  unfold stringStep
  rw [if_neg hquote]
  split_ifs with hescape hopen
  · rcases hescape with ⟨rfl, hrest⟩
    rcases List.exists_cons_of_ne_nil hrest with ⟨d, more, rfl⟩
    exact ⟨rfl, .text, Or.inr Reads.text, Piece.escape interpolated d more⟩
  · rcases hopen with ⟨hinterpolated, rfl⟩
    refine ⟨rfl, .interpolation, Or.inr (Reads.interpolation hinterpolated), ?_⟩
    have hnext : Standing.next interpolated .text '\x7b' = .interpolation := by
      simp [Standing.next, hinterpolated]
    rw [← hnext]
    exact Piece.char (fun _htext => hquote) (by simp) (by simp [mark?, hinterpolated])
  · refine ⟨rfl, ?_⟩
    by_cases hlast : c = '\\'
    · have hrest : rest = [] := by
        by_contra hrest
        exact hescape ⟨hlast, hrest⟩
      rw [hlast, hrest]
      exact ⟨.escaped, Or.inl rfl, Piece.lastBackslash interpolated⟩
    · have hc : Standing.text.ordinary interpolated c = true :=
        Standing.ordinary_text_iff.mpr ⟨hquote, hlast, hopen⟩
      have hrun : forall d, d ∈ c :: rest.take (runLength (!endsPlain interpolated ·) rest) ->
          Standing.text.ordinary interpolated d = true := by
        intro d hd
        rcases List.mem_cons.mp hd with rfl | hmore
        · exact hc
        · rw [take_runLength] at hmore
          exact List.all_eq_true.mp List.all_takeWhile d hmore
      exact ⟨.text, Or.inr Reads.text, Piece.run hrun (by simp) (PieceTold.plain hrun)⟩

theorem ordinary_of_kind {kind : Char -> Bool}
    (hkind : (literalMarks.all fun d => !kind d) = true) {c : Char} (hc : kind c = true) :
    Standing.interpolation.ordinary interpolated c = true := by
  have hother : forall d, d ∈ literalMarks -> c ≠ d := by
    rintro d hd rfl
    have hnot := List.all_eq_true.mp hkind c hd
    rw [hc] at hnot
    cases hnot
  rw [Standing.ordinary_interpolation_iff]
  simpa [literalMarks] using hother

theorem ordinary_run {kind : Char -> Bool}
    (hkind : (literalMarks.all fun d => !kind d) = true)
    (hc : Standing.interpolation.ordinary interpolated c = true) :
    forall d, d ∈ c :: rest.take (runLength kind rest) ->
      Standing.interpolation.ordinary interpolated d = true := by
  intro d hd
  rcases List.mem_cons.mp hd with rfl | hmore
  · exact hc
  · rw [take_runLength] at hmore
    exact ordinary_of_kind interpolated hkind (List.all_eq_true.mp List.all_takeWhile d hmore)

theorem Piece.inside {text : Text} (behind : Text)
    (htext : forall d, d ∈ text -> Standing.interpolation.ordinary interpolated d = true)
    {inner : List Scope} (hinner : inner = [] ∨ inner = [.variableOtherReadwrite]) :
    Piece interpolated .interpolation
      { text, inner := [.stringQuotedDouble, .metaInterpolation] ++ inner } behind
      .interpolation := by
  apply Piece.run htext ?_ (PieceTold.inside htext hinner)
  rcases hinner with rfl | rfl <;> simp

theorem interpolationStep_takes :
    (interpolationStep state c rest).Takes true .interpolation state c rest := by
  have hreads : Reads true .interpolation .interpolation := Reads.interpolation rfl
  unfold interpolationStep
  split_ifs with hclose hblank hword
  · refine ⟨rfl, .text, Or.inr Reads.text, ?_⟩
    rw [hclose]
    exact Piece.char (by simp) (by simp) rfl
  · refine ⟨rfl, .interpolation, Or.inr hreads, Piece.inside true _ ?_ (Or.inl rfl)⟩
    exact ordinary_run true c rest (by decide) (ordinary_of_kind true (by decide) hblank)
  · refine ⟨rfl, .interpolation, Or.inr hreads, Piece.inside true _ ?_ (Or.inr rfl)⟩
    exact ordinary_run true c rest (by decide +kernel)
      (ordinary_of_kind true (by decide +kernel) hword)
  · refine ⟨rfl, .interpolation, Or.inr hreads, ?_⟩
    by_cases hmark : c = '"' ∨ c = '\\' ∨ c = '\x7b'
    · have hnext : Standing.next true .interpolation c = .interpolation := if_neg hclose
      have hcalls : mark? true .interpolation (c :: rest) =
          some { text := [c], inner := [.stringQuotedDouble, .metaInterpolation] } := by
        rcases hmark with rfl | rfl | rfl <;> rfl
      have hpiece := Piece.char (by simp) (by simp) hcalls
      rw [hnext] at hpiece
      exact hpiece
    · have hc : Standing.interpolation.ordinary true c = true := by
        simp only [not_or] at hmark
        rcases hmark with ⟨hquote, hescape, hbrace⟩
        exact Standing.ordinary_interpolation_iff.mpr ⟨hquote, hescape, hbrace, hclose⟩
      have htext : forall d, d ∈ [c] -> Standing.interpolation.ordinary true d = true := by
        intro d hd
        rw [List.mem_singleton.mp hd]
        exact hc
      exact Piece.inside true _ htext (Or.inl rfl)

end Steps

theorem Reads.step_takes {interpolated : Bool} {mode : Mode} {standing : Standing}
    (h : Reads interpolated mode standing) (state : State) {c : Char} (rest : Text)
    (hopen : ¬ (standing = .text ∧ c = '"')) :
    (step state mode c rest).Takes interpolated standing state c rest := by
  cases h with
  | text => exact stringStep_takes state interpolated c rest fun hquote => hopen ⟨rfl, hquote⟩
  | interpolation hinterpolated =>
      rw [hinterpolated]
      exact interpolationStep_takes state c rest

theorem Reads.step_close {interpolated : Bool} {mode : Mode}
    (h : Reads interpolated mode .text) (state : State) (rest : Text) :
    step state mode '"' rest = ⟨0, literalEnd.inner, .code false, state⟩ := by
  cases h with
  | text => rfl

theorem scan_literal (interpolated : Bool) (state : State) (mode : Mode) (text : Text) :
    forall standing, text = [] ∨ Reads interpolated mode standing ->
      exists pieces behind,
        (scan state mode 0 text).1 = pieces ++ (scan state (.code false) 0 behind).1 ∧
          LiteralTold interpolated standing text pieces := by
  induction state, mode, text using moment_induction with
  | done state mode =>
      intro standing _hreads
      exact ⟨[], [], rfl, LiteralTold.nil interpolated standing⟩
  | next moment ih =>
      intro standing hleft
      have hreads : Reads interpolated moment.mode standing :=
        hleft.resolve_left (List.cons_ne_nil _ _)
      by_cases hclose : standing = .text ∧ moment.head = '"'
      · rcases hclose with ⟨rfl, hquote⟩
        rw [hquote]
        refine ⟨[literalEnd], moment.rest, ?_, LiteralTold.close interpolated moment.rest⟩
        exact scan_char (hreads.step_close moment.state moment.rest)
      · have htakes := hreads.step_takes moment.state moment.rest hclose
        rcases htakes.piece with ⟨next, hnext, hpiece⟩
        have hstate : moment.step.state = moment.state := htakes.state_eq
        rw [hstate] at ih
        rcases ih next hnext with ⟨pieces, behind, hscan, htold⟩
        refine ⟨moment.lexeme :: pieces, behind, ?_, ?_⟩
        · rw [scan_moment, hstate, hscan]
          rfl
        · rw [← moment.text_append_behind]
          exact LiteralTold.cons hpiece htold

/-!
# Literals in a line
-/

def opening (interpolated : Bool) : Lexeme where
  text := if interpolated then ['$', '"'] else ['"']
  inner := [.stringQuotedDouble, .punctuationDefinitionStringBegin]

theorem scan_opening {state : State} (hcomment : state.inComment = false) {mode : Mode}
    {interpolated afterType : Bool} {c : Char} {rest body : Text}
    (hstep : step state mode c rest = codeStep state afterType c rest)
    (hahead : c :: rest = (opening interpolated).text ++ body) :
    (scan state mode 0 (c :: rest)).1 =
      opening interpolated :: (scan state (.string interpolated) 0 body).1 := by
  cases interpolated with
  | false =>
      have hparts : c = '"' ∧ rest = body := List.cons.inj hahead
      rcases hparts with ⟨rfl, rfl⟩
      have hquote : step state mode '"' rest =
          ⟨0, (opening false).inner, .string false, state⟩ := by
        rw [hstep]
        simp [codeStep, hcomment, opening]
      exact scan_char hquote
  | true =>
      have hparts : c = '$' ∧ rest = '"' :: body := List.cons.inj hahead
      rcases hparts with ⟨rfl, rfl⟩
      have hquote : step state mode '$' ('"' :: body) =
          ⟨1, (opening true).inner, .string true, state⟩ := by
        rw [hstep]
        simp [codeStep, hcomment, opening]
      rw [scan, hquote]
      rfl

/-- Wherever code meets the opening of a string literal, the tokens from there on are the opening
and the pieces of the literal, just as far as the literal goes. -/
theorem string_literal_told {before : Option State} {line body : Text} {position : Nat}
    {moment : Moment} {interpolated : Bool}
    (hcomes : ComesTo (before.getD {}) line position moment) (hcode : moment.InCode)
    (hopening : moment.head :: moment.rest = (opening interpolated).text ++ body) :
    exists pieces, Inset before line position moment.state (opening interpolated :: pieces) ∧
      LiteralTold interpolated .text body pieces := by
  have hvisible : isBlank moment.head = false := by
    cases interpolated <;>
      · rw [(List.cons.inj hopening).left]
        rfl
  rcases hcode.step_eq hvisible with ⟨afterType, hstep⟩
  have hscan := scan_opening hcode.noComment hstep hopening
  rcases scan_literal interpolated moment.state (.string interpolated) body .text
    (Or.inr Reads.text) with ⟨pieces, behind, hpieces, htold⟩
  rw [hpieces] at hscan
  exact ⟨pieces, hcomes.inset hscan, htold⟩

theorem inner_quotes_told :
    exists (moment : Moment) (body : Text),
      ComesTo ((none : Option State).getD {}) "x=$\"\\\"\x7b\"a\x7d\";".toList 2 moment ∧
        moment.InCode ∧ moment.head :: moment.rest = (opening true).text ++ body ∧
        exists pieces,
          Inset none "x=$\"\\\"\x7b\"a\x7d\";".toList 2 moment.state (opening true :: pieces) ∧
            LiteralTold true .text body pieces := by
  have hcomes : ComesTo ((none : Option State).getD {}) "x=$\"\\\"\x7b\"a\x7d\";".toList 2
      { state := {}, mode := .code false, head := '$',
        rest := "\"\\\"\x7b\"a\x7d\";".toList } :=
    ⟨(lineMoments {} "x=$\"\\\"\x7b\"a\x7d\";".toList).take 2,
      (lineMoments {} "x=$\"\\\"\x7b\"a\x7d\";".toList).drop 3,
      by decide +kernel, by decide +kernel⟩
  exact ⟨_, "\\\"\x7b\"a\x7d\";".toList, hcomes, ⟨rfl, rfl⟩, rfl,
    string_literal_told hcomes ⟨rfl, rfl⟩ rfl⟩

end Mana
end ScopeProbe
