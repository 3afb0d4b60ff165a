import Mathlib.Data.List.Basic
import ScopeProbe.Proofs.Fragments
import ScopeProbe.Proofs.Mana.Tiling
import ScopeProbe.Proofs.Readings
import ScopeProbe.Proofs.Spans

/-!
# Fragments in their surroundings

Reading a fragment inside its surroundings gives the tokens of the bare
fragment, lexed in the state that the surroundings open.  The lines in front
only set up that state, the indentation is part of a run of blanks that starts
in front of the span, and nothing behind the fragment is kept.
-/

namespace ScopeProbe

/-!
# What a span keeps of a line
-/

namespace Span

variable {span : Span} {index : Nat} {line : Text} {tokens : List RawToken}

theorem filter_of_outside (houtside : (index : Int) < span.startLine ∨ span.endLine < index) :
    span.filter index line tokens = [] := by
  apply List.filter_eq_nil_iff.mpr
  intro token _htoken hkeeps
  rcases keeps_iff.mp hkeeps with ⟨hinside, _hrest⟩
  omega

theorem filter_eq_self (hinside : span.startLine <= index ∧ (index : Int) <= span.endLine)
    (hend : (index : Int) = span.endLine -> span.endIndex = line.length)
    (htokens : forall token, token ∈ tokens -> token.scopes ≠ [] ∧
      ((index : Int) = span.startLine -> span.startIndex <= token.start)) :
    span.filter index line tokens = tokens := by
  apply List.filter_eq_self.mpr
  intro token htoken
  rcases htokens token htoken with ⟨hscopes, hstart⟩
  refine keeps_iff.mpr ⟨hinside, hstart, ?_, hscopes⟩
  intro hlast
  rw [hend hlast]
  exact min_le_right _ _

end Span

/-!
# Blanks in front of a line

A run of blanks at the start of a line is one lexeme, and the rest of the line
is lexed as if it stood alone.
-/

namespace Mana

theorem unicode_of_isBlank {c : Char} (h : isBlank c = true) : Unicode.isBlank c = true := by
  rw [isBlank, Bool.or_eq_true, beq_iff_eq, beq_iff_eq] at h
  rcases h with rfl | rfl <;> decide

theorem isPreprocessorLine_dropWhile (line : Text) :
    isPreprocessorLine (line.dropWhile isBlank) = isPreprocessorLine line := by
  induction line with
  | nil => rfl
  | cons c rest ih =>
      cases hc : isBlank c with
      | false => rw [List.dropWhile_cons_of_neg (by simp [hc])]
      | true =>
          rw [List.dropWhile_cons_of_pos hc, ih, isPreprocessorLine, isPreprocessorLine,
            List.dropWhile_cons_of_pos (unicode_of_isBlank hc)]

theorem scan_lineStart {state : State} {text : Text}
    (hhead : forall c, text.head? = some c -> isBlank c = false) :
    scan state .lineStart 0 text = scan state (.code false) 0 text := by
  cases text with
  | nil => rfl
  | cons c rest =>
      have hstep : step state .lineStart c rest = step state (.code false) c rest := by
        show blankOrCodeStep state true false c rest = blankOrCodeStep state false false c rest
        simp [blankOrCodeStep, hhead c rfl]
      rw [scan, scan, hstep]

theorem head?_dropWhile_isBlank (text : Text) (c : Char)
    (h : (text.dropWhile isBlank).head? = some c) : isBlank c = false := by
  have hnot := List.head?_dropWhile_not isBlank text
  rw [h] at hnot
  simpa using hnot

theorem lexLine_blanks {state : State} (hcode : state.inComment = false) {c : Char}
    (hc : isBlank c = true) (rest : Text) :
    exists inner, lexLine state (c :: rest) =
      ({ text := c :: rest.takeWhile isBlank, inner } ::
          (lexLine state (rest.dropWhile isBlank)).1,
        (lexLine state (rest.dropWhile isBlank)).2) := by
  have hline : isPreprocessorLine (c :: rest) =
      isPreprocessorLine (rest.dropWhile isBlank) := by
    rw [← isPreprocessorLine_dropWhile (c :: rest), List.dropWhile_cons_of_pos hc]
  cases hhash : isPreprocessorLine (rest.dropWhile isBlank) with
  | true =>
      have hstep : step state .hash c rest = ⟨runLength isBlank rest, [], .hash, state⟩ := by
        show hashStep state c rest = _
        rw [hashStep, if_pos hc]
      refine ⟨[], ?_⟩
      rw [lexLine, lexLine, startMode, startMode, hline, hhash, hcode]
      exact scan_run hstep
  | false =>
      have hstep : exists inner,
          step state .lineStart c rest =
            ⟨runLength isBlank rest, inner, .code false, state⟩ := by
        refine ⟨leadingBlanks (rest.drop (runLength isBlank rest)), ?_⟩
        show blankOrCodeStep state true false c rest = _
        simp [blankOrCodeStep, hcode, hc]
      rcases hstep with ⟨inner, hstep⟩
      refine ⟨inner, ?_⟩
      rw [lexLine, lexLine, startMode, startMode, hline, hhash, hcode]
      show scan state .lineStart 0 (c :: rest) =
        (_ :: (scan state .lineStart 0 (rest.dropWhile isBlank)).1,
          (scan state .lineStart 0 (rest.dropWhile isBlank)).2)
      rw [scan_lineStart (head?_dropWhile_isBlank rest)]
      exact scan_run hstep

theorem lexLine_indent {state : State} (hcode : state.inComment = false) {indent : Nat}
    (hindent : 0 < indent) (line : Text) :
    exists blanks : Lexeme, indent <= blanks.text.length ∧
      lexLine state (List.replicate indent ' ' ++ line) =
        (blanks :: (lexLine state (line.dropWhile isBlank)).1,
          (lexLine state (line.dropWhile isBlank)).2) := by
  cases indent with
  | zero => cases hindent
  | succ more =>
      have hblank : forall c, c ∈ List.replicate more ' ' -> isBlank c = true := by
        intro c hc
        rw [List.eq_of_mem_replicate hc]
        rfl
      rcases lexLine_blanks hcode (c := ' ') rfl (List.replicate more ' ' ++ line) with
        ⟨inner, hlex⟩
      rw [List.takeWhile_append_of_pos hblank, List.dropWhile_append_of_pos hblank] at hlex
      refine ⟨_, ?_, hlex⟩
      simp

/-!
# The lines of a fragment

Only the first line has something in front of the span.  Whatever is emitted
for the other lines of the fragment is kept.
-/

namespace Lexeme

theorem le_start_rawTokens {position : Nat} {lexemes : List Lexeme} {token : RawToken}
    (htoken : token ∈ rawTokens position lexemes) : (position : Int) <= token.start := by
  induction lexemes generalizing position with
  | nil => cases htoken
  | cons lexeme more ih =>
      rcases List.mem_cons.mp htoken with rfl | hlater
      · exact le_refl _
      · have hstart := ih hlater
        omega

theorem rawTokens_scopes_ne_nil {position : Nat} {lexemes : List Lexeme} {token : RawToken}
    (htoken : token ∈ rawTokens position lexemes) : token.scopes ≠ [] := by
  rcases mem_rawTokens_scopes htoken with ⟨lexeme, _hlexeme, hscopes⟩
  rw [hscopes]
  exact List.cons_ne_nil _ _

end Lexeme

def Lexeme.innermost (lexeme : Lexeme) : Scope :=
  lexeme.inner.getLast?.getD .source

theorem Lexeme.heard_eq (lexeme : Lexeme) :
    heard lexeme.entry = (lexeme.text, lexeme.innermost.raw) := by
  rw [heard, Lexeme.entry, Lexeme.scopes, List.getLast?_map, List.getLast?_cons]
  rfl

theorem Lexeme.heard_entry (lexeme : Lexeme) :
    exists scope : Scope, (heard lexeme.entry).2 = scope.raw :=
  ⟨lexeme.innermost, congrArg Prod.snd lexeme.heard_eq⟩

theorem map_lexemeIn {tokens : List RawToken} {line : Text} {lexemes : List Lexeme}
    (hentries : tokens.map (fun token => (token.textIn line, token.scopes)) =
      lexemes.map Lexeme.entry) :
    tokens.map (RawToken.lexemeIn line) = (lexemes.map Lexeme.entry).map heard := by
  rw [← hentries, List.map_map]
  rfl

theorem tokens_indent {state : State} (hcode : state.inComment = false) {indent : Nat}
    (hindent : 0 < indent) (line : Text) :
    exists (blanks : RawToken) (width : Nat), blanks.start = 0 ∧ indent <= width ∧
      (grammar (List.replicate indent ' ' ++ line) (some state)).tokens =
        blanks :: Lexeme.rawTokens width (lexLine state (line.dropWhile isBlank)).1 ∧
      (Lexeme.rawTokens width (lexLine state (line.dropWhile isBlank)).1).map
          (RawToken.lexemeIn (List.replicate indent ' ' ++ line)) =
        ((lexLine state (line.dropWhile isBlank)).1.map Lexeme.entry).map heard := by
  rcases lexLine_indent hcode hindent line with ⟨blanks, hwidth, hlex⟩
  have hflatten := flatten_texts_lexLine state (List.replicate indent ' ' ++ line)
  rw [hlex, List.map_cons, List.flatten_cons] at hflatten
  have hentries := Lexeme.map_entry_rawTokens blanks.text
    (lexLine state (line.dropWhile isBlank)).1
  rw [hflatten] at hentries
  have htokens : (grammar (List.replicate indent ' ' ++ line) (some state)).tokens =
      { start := 0, stop := blanks.text.length, scopes := blanks.scopes.map Scope.raw } ::
        Lexeme.rawTokens blanks.text.length (lexLine state (line.dropWhile isBlank)).1 := by
    rw [grammar_tokens, Option.getD_some, hlex, Lexeme.rawTokens, Nat.zero_add]
    rfl
  exact ⟨_, blanks.text.length, rfl, hwidth, htokens, map_lexemeIn hentries⟩

theorem state_indent {state : State} (hcode : state.inComment = false) {indent : Nat}
    (hindent : 0 < indent) (line : Text) :
    (lexLine state (List.replicate indent ' ' ++ line)).2 =
      (lexLine state (line.dropWhile isBlank)).2 := by
  rcases lexLine_indent hcode hindent line with ⟨blanks, _hwidth, hlex⟩
  rw [hlex]

theorem keptLexemes_first {span : Span} {state : State} (hcode : state.inComment = false)
    {indent : Nat} (hindent : 0 < indent) (line : Text) {index : Nat}
    (hstart : span.startLine = index ∧ span.startIndex = indent)
    (hinside : (index : Int) <= span.endLine)
    (hend : (index : Int) = span.endLine ->
      span.endIndex = (List.replicate indent ' ' ++ line).length) :
    (span.filter index (List.replicate indent ' ' ++ line)
        (grammar (List.replicate indent ' ' ++ line) (some state)).tokens).map
        (RawToken.lexemeIn (List.replicate indent ' ' ++ line)) =
      ((lexLine state (line.dropWhile isBlank)).1.map Lexeme.entry).map heard := by
  rcases tokens_indent hcode hindent line with ⟨blanks, width, hblanks, hwidth, htokens, hlexemes⟩
  have hdropped : ¬ span.keeps index (List.replicate indent ' ' ++ line) blanks = true := by
    intro hkeeps
    rcases Span.keeps_iff.mp hkeeps with ⟨_hinside, hfirst, _hrest⟩
    have hbehind := hfirst hstart.left.symm
    rw [hstart.right, hblanks] at hbehind
    omega
  have hkept : span.filter index (List.replicate indent ' ' ++ line)
      (Lexeme.rawTokens width (lexLine state (line.dropWhile isBlank)).1) =
        Lexeme.rawTokens width (lexLine state (line.dropWhile isBlank)).1 := by
    refine Span.filter_eq_self ⟨le_of_eq hstart.left, hinside⟩ hend ?_
    intro token htoken
    have hbehind := Lexeme.le_start_rawTokens htoken
    refine ⟨Lexeme.rawTokens_scopes_ne_nil htoken, ?_⟩
    intro _hfirst
    rw [hstart.right]
    omega
  rw [htokens, Span.filter, List.filter_cons_of_neg hdropped]
  show (span.filter index _ _).map _ = _
  rw [hkept, hlexemes]

theorem keptLexemes_more {span : Span} {index : Nat} {state : State} {lines : List Text}
    (hstart : span.startLine < index)
    (hstop : (index : Int) + lines.length = span.endLine + 1)
    (hend : forall last, lines.getLast? = some last -> span.endIndex = last.length) :
    Excerpt.keptLexemes span (grammar.visits index (some state) lines) =
      (grammar.emitted (some state) lines).map heard := by
  rw [← grammar.flatMap_texts_visits index, List.map_flatMap, Excerpt.keptLexemes]
  apply List.flatMap_congr
  intro visit hvisit
  have hbounds := grammar.index_bounds hvisit
  have hline := grammar.getElem?_index hvisit
  have hkept : span.filter visit.index visit.call.line visit.tokens = visit.tokens := by
    apply Span.filter_eq_self
    · omega
    · intro hlast
      apply hend
      rw [List.getLast?_eq_getElem?, ← hline]
      congr 1
      omega
    · intro token htoken
      rw [grammar.tokens_visits hvisit] at htoken
      refine ⟨Lexeme.rawTokens_scopes_ne_nil htoken, ?_⟩
      omega
  rw [hkept, Visit.texts, List.map_map]
  rfl

theorem keptLexemes_outside {span : Span} {index : Nat} {before : Option State}
    {lines : List Text}
    (houtside : (index : Int) + lines.length <= span.startLine ∨ span.endLine < index) :
    Excerpt.keptLexemes span (grammar.visits index before lines) = [] := by
  apply List.flatMap_eq_nil_iff.mpr
  intro visit hvisit
  have hbounds := grammar.index_bounds hvisit
  rw [Span.filter_of_outside (by omega), List.map_nil]

/-- A span that starts behind the indentation of its first line and ends with its last line keeps
what these lines emit, the first of them without its leading blanks. -/
theorem keptLexemes_body {span : Span} {state : State} (hcode : state.inComment = false)
    {indent : Nat} (hindent : 0 < indent) (first : Text) (more : List Text) {index : Nat}
    (hstart : span.startLine = index ∧ span.startIndex = indent)
    (hstop : span.endLine = index + more.length)
    (hend : span.endIndex =
      Excerpt.lastLength ((List.replicate indent ' ' ++ first) :: more)) :
    Excerpt.keptLexemes span
        (grammar.visits index (some state) ((List.replicate indent ' ' ++ first) :: more)) =
      (grammar.emitted (some state) (first.dropWhile isBlank :: more)).map heard := by
  have hfirst := keptLexemes_first hcode hindent first hstart (by omega) (by
    intro hlast
    have hnone : more = [] := by
      apply List.eq_nil_of_length_eq_zero
      omega
    rw [hend, hnone]
    rfl)
  have hmore : Excerpt.keptLexemes span
      (grammar.visits (index + 1) (some (lexLine state (first.dropWhile isBlank)).2) more) =
        (grammar.emitted (some (lexLine state (first.dropWhile isBlank)).2) more).map heard := by
    apply keptLexemes_more
    · omega
    · omega
    · intro last hlast
      rw [hend, Excerpt.lastLength, List.getLast?_cons, hlast]
      rfl
  rw [Grammar.visits_cons, grammar_state, Option.getD_some, state_indent hcode hindent,
    Excerpt.keptLexemes, List.flatMap_cons, hfirst]
  show _ ++ Excerpt.keptLexemes span _ = _
  rw [hmore, emitted_grammar, List.map_append]

end Mana

/-!
# Surroundings
-/

def Surroundings.state : Surroundings -> Mana.State
  | enumBody => { blocks := [.enumBody] }
  | classBody | interfaceBody | structBody => { blocks := [.typeBody] }
  | methodBody => { blocks := [.plain, .typeBody] }
  | namespaceBody => { blocks := [.namespaceBody] }

theorem Surroundings.stateAfter_header (place : Surroundings) :
    Mana.grammar.stateAfter none place.template.header = some place.state := by
  cases place <;> decide +kernel

theorem Surroundings.inComment_state (place : Surroundings) : place.state.inComment = false := by
  cases place <;> rfl

theorem Surroundings.indent_pos (place : Surroundings) : 0 < place.template.indent := by
  cases place <;> decide

namespace Excerpt

/-- The lines of a fragment without the blanks in front of the first. -/
def bareLines (fragment : Text) : List Text :=
  fragment.unifyNewlines.lines.modifyHead (List.dropWhile Mana.isBlank)

open Mana in
theorem keptLexemes_fill {template : Template} (hindent : 0 < template.indent) {state : State}
    (hheader : grammar.stateAfter none template.header = some state)
    (hcode : state.inComment = false) (fragment : Text) :
    keptLexemes (fill template fragment).span
        (grammar.visits 0 none (fill template fragment).lines) =
      (grammar.emitted (some state) (bareLines fragment)).map heard := by
  cases hlines : fragment.unifyNewlines.lines with
  | nil => exact absurd hlines (Text.lines_ne_nil _)
  | cons first more =>
      rw [fill_of_lines template hlines, bareLines, hlines, List.modifyHead_cons]
      dsimp only
      rw [Grammar.visits_append, hheader, Nat.zero_add, Grammar.visits_append,
        keptLexemes_append, keptLexemes_append]
      rw [keptLexemes_outside (by dsimp only; omega),
        keptLexemes_body hcode hindent first more ⟨rfl, rfl⟩ rfl rfl,
        keptLexemes_outside (by rw [List.length_cons]; dsimp only; omega),
        List.nil_append, List.append_nil]

open Mana in
/-- A fragment at a place reads as its bare lines do in the state of that place: the reading never
fails, and nothing of the source around the fragment is told. -/
theorem classify_inside (place : Surroundings) (fragment : Text) (excludeCarriers : Bool) :
    ((inside place fragment).classify grammar excludeCarriers).map (List.map Token.spelled) =
      .ok (((grammar.emitted (some place.state) (bareLines fragment)).map heard).filter
        fun lexeme => !(excludeCarriers && carrierNames.contains lexeme.2)) := by
  have hkept := keptLexemes_fill place.indent_pos place.stateAfter_header
    place.inComment_state fragment
  have hknown : forall lexeme,
      lexeme ∈ keptLexemes (inside place fragment).span
          (grammar.visits 0 none (inside place fragment).lines) ->
        exists scope : Scope, lexeme.2 = scope.raw := by
    intro lexeme hlexeme
    rw [inside, hkept] at hlexeme
    rcases List.mem_map.mp hlexeme with ⟨entry, hentry, rfl⟩
    rcases mem_emitted hentry with ⟨source, rfl⟩
    exact source.heard_entry
  rw [classify_of_known grammar excludeCarriers _ hknown, inside, hkept]

end Excerpt
end ScopeProbe
