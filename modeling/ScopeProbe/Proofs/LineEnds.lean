import Mathlib.Data.List.Basic
import ScopeProbe.Proofs.Fragments
import ScopeProbe.Proofs.Readings
import ScopeProbe.Proofs.Spans

/-!
# Tokens at the ends of lines

A fragment ends where its last line does, so a token that starts inside a line
of the fragment is never held back for its end.  Lines in front of the last one
have no end as far as a span goes: a token that starts at the end of such a line
or behind it, like a line terminator that an engine tells as a token of its own,
is kept, and its text is empty.
-/

namespace ScopeProbe

/-!
# Proper tokens
-/

/-- A range of at least one position, which may reach behind its line, with a scope of the
vocabulary if it has any. -/
structure RawToken.Proper (token : RawToken) : Prop where
  start_nonneg : 0 <= token.start
  start_lt : token.start < token.stop
  known : token.scopes ≠ [] -> exists scope : Scope, token.innermost = scope.raw

def Grammar.Proper {σ : Type} (grammar : Grammar σ) : Prop :=
  forall line before token, token ∈ (grammar line before).tokens -> token.Proper

theorem RawToken.textIn_eq_nil_iff {token : RawToken} (hproper : token.Proper) (line : Text) :
    token.textIn line = [] <-> line.length <= token.start := by
  have hstart := hproper.start_nonneg
  have hstop := hproper.start_lt
  rw [textIn, Text.cut, List.drop_eq_nil_iff, List.length_take, Text.clamp, Text.clamp,
    if_neg (by omega), if_neg (by omega)]
  omega

/-!
# Kept tokens and their lexemes
-/

namespace Span

/-- A place on the lines of a span that is neither in front of it nor behind it. -/
def Contains (span : Span) (index : Nat) (position : Int) : Prop :=
  span.Covers index ∧
    ((index : Int) = span.startLine -> span.startIndex <= position) ∧
    ((index : Int) = span.endLine -> position < span.endIndex)

end Span

namespace Excerpt

variable {σ : Type} {grammar : Grammar σ}

def lineAt (excerpt : Excerpt) (index : Nat) : Text :=
  excerpt.lines[index]?.getD []

def spanLexemes (grammar : Grammar σ) (excerpt : Excerpt) : List (Text × String) :=
  (excerpt.spanTokens grammar).map fun entry => entry.2.lexemeIn (excerpt.lineAt entry.1)

theorem keptLexemes_eq_spanLexemes (grammar : Grammar σ) (excerpt : Excerpt) :
    keptLexemes excerpt.span (grammar.visits 0 none excerpt.lines) =
      excerpt.spanLexemes grammar := by
  rw [spanLexemes, spanTokens, walk, walkFrom_kept, List.map_flatMap, keptLexemes]
  apply List.flatMap_congr
  intro visit hvisit
  have hline : excerpt.lineAt visit.index = visit.call.line := by
    rw [lineAt, show excerpt.lines[visit.index]? = some visit.call.line by
      simpa using grammar.getElem?_index hvisit]
    rfl
  rw [List.map_map]
  apply List.map_congr_left
  intro token _htoken
  show _ = token.lexemeIn (excerpt.lineAt visit.index)
  rw [hline]

theorem proper_of_mem_stream (hproper : grammar.Proper) {lines : List Text} {index : Nat}
    {token : RawToken} (htoken : (index, token) ∈ grammar.stream lines) : token.Proper := by
  rcases List.mem_flatMap.mp htoken with ⟨visit, hvisit, hentry⟩
  rcases List.mem_map.mp hentry with ⟨same, hsame, hequal⟩
  cases hequal
  rw [grammar.tokens_visits hvisit] at hsame
  exact hproper _ _ token hsame

theorem mem_spanTokens {excerpt : Excerpt} {index : Nat} {line : Text} {token : RawToken}
    (hline : excerpt.lines[index]? = some line) :
    (index, token) ∈ excerpt.spanTokens grammar <->
      (index, token) ∈ grammar.stream excerpt.lines ∧
        excerpt.span.keeps index line token = true := by
  rw [spanTokens_eq_filter_stream, List.mem_filter, decide_eq_true_iff,
    Span.keeps_iff_holds token hline]

theorem of_mem_spanTokens {excerpt : Excerpt} {index : Nat} {token : RawToken}
    (htoken : (index, token) ∈ excerpt.spanTokens grammar) :
    (index, token) ∈ grammar.stream excerpt.lines ∧ token.scopes ≠ [] ∧
      excerpt.span.Covers index := by
  rw [spanTokens_eq_filter_stream, List.mem_filter, decide_eq_true_iff] at htoken
  rcases htoken with ⟨hstream, hscopes, hstart, hstop⟩
  rw [Prod.Lex.toLex_le_toLex] at hstart hstop
  dsimp only at hstart hstop
  refine ⟨hstream, hscopes, ?_⟩
  constructor <;> omega

theorem classify_of_proper (hproper : grammar.Proper) (excerpt : Excerpt)
    (excludeCarriers : Bool) :
    (excerpt.classify grammar excludeCarriers).map (List.map Token.spelled) =
      .ok ((excerpt.spanLexemes grammar).filter
        fun lexeme => !(excludeCarriers && carrierNames.contains lexeme.2)) := by
  rw [← keptLexemes_eq_spanLexemes]
  apply classify_of_known
  intro lexeme hlexeme
  rcases List.mem_flatMap.mp hlexeme with ⟨visit, hvisit, hentry⟩
  rcases List.mem_map.mp hentry with ⟨token, htoken, rfl⟩
  rcases List.mem_filter.mp htoken with ⟨hreported, hkeeps⟩
  rcases Span.keeps_iff.mp hkeeps with ⟨_hinside, _hstart, _hstop, hscopes⟩
  rw [grammar.tokens_visits hvisit] at hreported
  exact (hproper _ _ token hreported).known hscopes

/-!
# Fragments up to the ends of their lines
-/

variable {place : Option Surroundings} {fragment : Text} {index : Nat} {line : Text}
  {token : RawToken}

theorem endIndex_placed
    (hline : (placed place fragment).lines[index]? = some line)
    (hlast : (index : Int) = (placed place fragment).span.endLine) :
    (placed place fragment).span.endIndex = line.length := by
  rw [placed_eq_fill] at hline hlast ⊢
  apply endIndex_fill
  rw [← hlast]
  exact hline

theorem startIndex_le_placed
    (hline : (placed place fragment).lines[index]? = some line)
    (hfirst : (index : Int) = (placed place fragment).span.startLine) :
    (placed place fragment).span.startIndex <= line.length := by
  rw [placed_eq_fill] at hline hfirst ⊢
  apply ((fits_fill _ fragment).start line _).right
  rw [← hfirst]
  exact hline

theorem mem_spanTokens_placed
    (hline : (placed place fragment).lines[index]? = some line)
    (htoken : (index, token) ∈ grammar.stream (placed place fragment).lines)
    (hscopes : token.scopes ≠ []) :
    (index, token) ∈ (placed place fragment).spanTokens grammar <->
      (placed place fragment).span.Covers index ∧
        ((index : Int) = (placed place fragment).span.startLine ->
          (placed place fragment).span.startIndex <= token.start) := by
  rw [mem_spanTokens hline, Span.keeps_iff]
  constructor
  · rintro ⟨_hstream, hinside, hstart, _hstop, _hscopes⟩
    exact ⟨hinside, hstart⟩
  · rintro ⟨hinside, hstart⟩
    refine ⟨htoken, hinside, hstart, ?_, hscopes⟩
    intro hlast
    rw [endIndex_placed hline hlast]
    exact Int.min_le_right _ _

theorem mem_spanTokens_inside
    (hline : (placed place fragment).lines[index]? = some line)
    (htoken : (index, token) ∈ grammar.stream (placed place fragment).lines)
    (hscopes : token.scopes ≠ []) (hinside : token.start < line.length) :
    (index, token) ∈ (placed place fragment).spanTokens grammar <->
      (placed place fragment).span.Contains index token.start := by
  rw [mem_spanTokens_placed hline htoken hscopes]
  constructor
  · rintro ⟨hcovers, hstart⟩
    refine ⟨hcovers, hstart, ?_⟩
    intro hlast
    rw [endIndex_placed hline hlast]
    exact hinside
  · rintro ⟨hcovers, hstart, _hstop⟩
    exact ⟨hcovers, hstart⟩

theorem mem_spanTokens_behind
    (hline : (placed place fragment).lines[index]? = some line)
    (htoken : (index, token) ∈ grammar.stream (placed place fragment).lines)
    (hscopes : token.scopes ≠ []) (hbehind : line.length <= token.start) :
    (index, token) ∈ (placed place fragment).spanTokens grammar <->
      (placed place fragment).span.Covers index := by
  rw [mem_spanTokens_placed hline htoken hscopes]
  constructor
  · rintro ⟨hcovers, _hstart⟩
    exact hcovers
  · intro hcovers
    refine ⟨hcovers, ?_⟩
    intro hfirst
    exact (startIndex_le_placed hline hfirst).trans hbehind

/-- Reading a fragment never fails if the engine is proper, and what it gives comes from tokens on
the lines of the fragment.  Of the tokens that start inside their lines just those in the fragment
are kept, each with some text.  Every token that starts at the end of its line or behind it is kept
as well, without a text, and so it is on the last line of the fragment. -/
theorem line_ends_kept (hproper : grammar.Proper) (place : Option Surroundings)
    (fragment : Text) (excludeCarriers : Bool) :
    let excerpt := placed place fragment
    (excerpt.classify grammar excludeCarriers).map (List.map Token.spelled) =
        .ok ((excerpt.spanLexemes grammar).filter
          fun lexeme => !(excludeCarriers && carrierNames.contains lexeme.2)) ∧
      (forall index token, (index, token) ∈ excerpt.spanTokens grammar ->
        (index, token) ∈ grammar.stream excerpt.lines ∧ token.scopes ≠ [] ∧
          excerpt.span.Covers index) ∧
      forall index line token, excerpt.lines[index]? = some line ->
        (index, token) ∈ grammar.stream excerpt.lines -> token.scopes ≠ [] ->
          (token.start < line.length -> token.textIn line ≠ [] ∧
            ((index, token) ∈ excerpt.spanTokens grammar <->
              excerpt.span.Contains index token.start)) ∧
          (line.length <= token.start -> token.textIn line = [] ∧
            ((index, token) ∈ excerpt.spanTokens grammar <-> excerpt.span.Covers index)) := by
  intro excerpt
  refine ⟨classify_of_proper hproper excerpt excludeCarriers, ?_, ?_⟩
  · intro index token htoken
    exact of_mem_spanTokens htoken
  · intro index line token hline htoken hscopes
    have htext := RawToken.textIn_eq_nil_iff (proper_of_mem_stream hproper htoken) line
    constructor
    · intro hinside
      refine ⟨?_, mem_spanTokens_inside hline htoken hscopes hinside⟩
      intro hempty
      have hbehind := htext.mp hempty
      omega
    · intro hbehind
      exact ⟨htext.mpr hbehind, mem_spanTokens_behind hline htoken hscopes hbehind⟩

end Excerpt

/-!
# Terminators as tokens

An engine that tells each line as one token, and the terminator of the second
line as another, is proper.
-/

def Grammar.secondEnded : Grammar Nat := fun line before =>
  let whole : RawToken :=
    { start := 0, stop := line.length, scopes := [Scope.keywordOtherClass.raw] }
  let terminator : RawToken := { whole with start := line.length, stop := line.length + 1 }
  { tokens :=
      (if line = [] then [] else [whole]) ++ if before = some 1 then [terminator] else []
    state := before.getD 0 + 1 }

theorem Grammar.proper_secondEnded : Grammar.secondEnded.Proper := by
  intro line before token htoken
  have hcases : (line ≠ [] ∧ token = ⟨0, line.length, [Scope.keywordOtherClass.raw]⟩) ∨
      token = ⟨line.length, line.length + 1, [Scope.keywordOtherClass.raw]⟩ := by
    rcases List.mem_append.mp htoken with hwhole | hterminator
    · left
      split at hwhole
      · cases hwhole
      · rename_i hsome
        exact ⟨hsome, List.mem_singleton.mp hwhole⟩
    · right
      split at hterminator
      · exact List.mem_singleton.mp hterminator
      · cases hterminator
  have hknown : token.innermost = Scope.keywordOtherClass.raw := by
    rcases hcases with ⟨_hsome, rfl⟩ | rfl <;> rfl
  have hrange : 0 <= token.start ∧ token.start < token.stop := by
    rcases hcases with ⟨hsome, rfl⟩ | rfl
    · have hlength := List.length_pos_iff.mpr hsome
      dsimp only
      omega
    · dsimp only
      omega
  exact ⟨hrange.left, hrange.right, fun _hscopes => ⟨_, hknown⟩⟩

theorem Excerpt.terminator_kept :
    Grammar.secondEnded.Proper ∧
      (1, ⟨1, 2, [Scope.keywordOtherClass.raw]⟩) ∈
        (placed none "a\nb\nc".toList).spanTokens Grammar.secondEnded := by
  refine ⟨Grammar.proper_secondEnded, ?_⟩
  rcases line_ends_kept Grammar.proper_secondEnded none "a\nb\nc".toList true with
    ⟨_houtcome, _hsource, hends⟩
  rcases hends 1 ['b'] ⟨1, 2, [Scope.keywordOtherClass.raw]⟩ (by decide) (by decide +kernel)
    (List.cons_ne_nil _ _) with ⟨_hinside, hbehind⟩
  exact (hbehind (by decide)).right.mpr (by decide)

theorem Excerpt.terminator_told :
    Grammar.secondEnded.Proper ∧
      (placed none "a\nb\nc".toList).classify Grammar.secondEnded true =
        .ok [⟨['a'], .keywordOtherClass⟩, ⟨['b'], .keywordOtherClass⟩,
          ⟨[], .keywordOtherClass⟩, ⟨['c'], .keywordOtherClass⟩] :=
  ⟨Grammar.proper_secondEnded, by decide +kernel⟩

end ScopeProbe
