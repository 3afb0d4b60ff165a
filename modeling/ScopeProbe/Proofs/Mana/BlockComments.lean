import Mathlib.Data.List.Infix
import ScopeProbe.Proofs.Mana.HashSigns

/-!
# Block comments

A block comment that is open at the start of a line reaches up to the first
place where its end stands, and to the end of the line if there is none.  What
is in it does not matter.  Behind it the line goes on like one that has begun
with two marks of its own, so nothing that counts at the start of a line counts
there.
-/

namespace ScopeProbe

def RawToken.shift (width : Nat) (token : RawToken) : RawToken :=
  { token with start := token.start + width, stop := token.stop + width }

namespace Mana

/-!
# The end of a block comment
-/

def commentMark : Text :=
  ['*', '/']

/-- A comment with what is behind it ends where it says: its end does not stand at any place in
front of that. -/
def FirstClose (comment behind : Text) : Prop :=
  forall place, place < comment.length ->
    ¬ commentMark <+: (comment ++ (commentMark ++ behind)).drop place

instance (comment behind : Text) : Decidable (FirstClose comment behind) :=
  inferInstanceAs (Decidable (forall place, place < _ -> _))

theorem commentEnd?_eq_none {text : Text} :
    commentEnd? text = none <-> ¬ commentMark <:+: text := by
  fun_induction commentEnd? text with
  | case1 => decide
  | case2 rest =>
      have hmark : commentMark <:+: '*' :: '/' :: rest :=
        (List.prefix_append commentMark rest).isInfix
      simp [hmark]
  | case3 c rest hmark ih =>
      have hstart : ¬ commentMark <+: c :: rest := by
        rintro ⟨more, hmore⟩
        cases hmore
        exact hmark _ rfl rfl
      rw [Option.map_eq_none_iff, ih, List.infix_cons_iff, or_iff_right hstart]

theorem commentEnd?_of_firstClose {comment behind : Text} (hfirst : FirstClose comment behind) :
    commentEnd? (comment ++ (commentMark ++ behind)) = some comment.length := by
  induction comment with
  | nil => rfl
  | cons c more ih =>
      have hmore : FirstClose more behind := by
        intro place hplace
        exact hfirst (place + 1) (Nat.succ_lt_succ hplace)
      have hstart := hfirst 0 (Nat.zero_lt_succ _)
      rw [List.drop_zero] at hstart
      rw [List.cons_append] at hstart ⊢
      rw [commentEnd?, ih hmore]
      · rfl
      · rintro rest rfl hrest
        rw [hrest] at hstart
        exact hstart (List.prefix_append commentMark rest)

/-!
# Lexemes of a line in a block comment
-/

section Lexemes

variable {state : State}

def commentLexemes (text : Text) : List Lexeme :=
  if text = [] then [] else [{ text, inner := [.commentBlock] }]

def closeLexeme : Lexeme where
  text := commentMark
  inner := [.commentBlock, .punctuationDefinitionComment]

theorem step_inComment (hcomment : state.inComment = true) {mode : Mode}
    (hmode : mode = .lineStart ∨ mode = .code false) (c : Char) (rest : Text) :
    step state mode c rest = commentStep state c rest := by
  have hcode (atStart : Bool) :
      blankOrCodeStep state atStart false c rest = commentStep state c rest := by
    simp [blankOrCodeStep, codeStep, hcomment]
  rcases hmode with rfl | rfl
  · exact hcode true
  · exact hcode false

theorem scan_unclosed (hcomment : state.inComment = true) {text : Text}
    (hopen : ¬ commentMark <:+: text) :
    scan state .lineStart 0 text = (commentLexemes text, state) := by
  cases text with
  | nil => rfl
  | cons c rest =>
      have hstep : step state .lineStart c rest =
          ⟨rest.length, [.commentBlock], .code false, state⟩ := by
        rw [step_inComment hcomment (.inl rfl), commentStep, commentEnd?_eq_none.mpr hopen]
      rw [scan, hstep, scan_eq_scan_drop, List.drop_length, List.take_length]
      rfl

theorem scan_close (hcomment : state.inComment = true) {mode : Mode}
    (hmode : mode = .lineStart ∨ mode = .code false) (behind : Text) :
    scan state mode 0 (commentMark ++ behind) =
      (closeLexeme :: (scan { state with inComment := false } (.code false) 0 behind).1,
        (scan { state with inComment := false } (.code false) 0 behind).2) := by
  have hstep : step state mode '*' ('/' :: behind) =
      ⟨1, [.commentBlock, .punctuationDefinitionComment], .code false,
        { state with inComment := false }⟩ := by
    rw [step_inComment hcomment hmode]
    rfl
  show scan state mode 0 ('*' :: '/' :: behind) = _
  rw [scan, hstep]
  rfl

theorem scan_firstClose (hcomment : state.inComment = true) {comment behind : Text}
    (hfirst : FirstClose comment behind) :
    scan state .lineStart 0 (comment ++ (commentMark ++ behind)) =
      (commentLexemes comment ++ closeLexeme ::
          (scan { state with inComment := false } (.code false) 0 behind).1,
        (scan { state with inComment := false } (.code false) 0 behind).2) := by
  cases comment with
  | nil => exact scan_close hcomment (.inl rfl) behind
  | cons c more =>
      have hend := commentEnd?_of_firstClose hfirst
      rw [List.cons_append] at hend
      have hstep : step state .lineStart c (more ++ (commentMark ++ behind)) =
          ⟨more.length, [.commentBlock], .code false, state⟩ := by
        rw [step_inComment hcomment (.inl rfl), commentStep, hend]
        rfl
      rw [List.cons_append, scan, hstep, scan_eq_scan_drop]
      dsimp only
      rw [List.drop_left, List.take_left, scan_close hcomment (.inr rfl)]
      rfl

theorem lexLine_inComment (hcomment : state.inComment = true) (line : Text) :
    lexLine state line = scan state .lineStart 0 line := by
  rw [lexLine, startMode, hcomment]
  rfl

/-!
Two marks at the start of a line have no effect on what is behind them, other
than that it is not at the start of the line.
-/

def twoMarks : Text :=
  [';', ';']

def markLexeme : Lexeme where
  text := [';']
  inner := [.punctuationTerminatorStatement]

theorem operator?_mark (rest : Text) : operator? (';' :: rest) = none := by
  rw [operator?, List.find?_eq_none]
  simp [operators]

theorem step_mark (hcode : state.inComment = false) {mode : Mode}
    (hmode : mode = .lineStart ∨ mode = .code false) (rest : Text) :
    step state mode ';' rest =
      ⟨0, [.punctuationTerminatorStatement], .code false, state⟩ := by
  have hsymbol : symbolStep state ';' rest =
      ⟨0, [.punctuationTerminatorStatement], .code false, state⟩ := by
    have hscope : punctuation.lookup ';' = some .punctuationTerminatorStatement := by decide
    simp [symbolStep, operator?_mark, hscope]
  have hcodeStep : codeStep state false ';' rest = symbolStep state ';' rest := by
    have hdigit : Unicode.isDigit ';' = false := by decide +kernel
    have hword : isWordStart ';' = false := by decide +kernel
    simp [codeStep, hcode, hdigit, hword]
  have hblank (atStart : Bool) :
      blankOrCodeStep state atStart false ';' rest = codeStep state false ';' rest := by
    rw [blankOrCodeStep, hcode]
    rfl
  rcases hmode with rfl | rfl
  · exact (hblank true).trans (hcodeStep.trans hsymbol)
  · exact (hblank false).trans (hcodeStep.trans hsymbol)

theorem isPreprocessorLine_twoMarks (behind : Text) :
    isPreprocessorLine (twoMarks ++ behind) = false := by
  rfl

theorem lexLine_twoMarks (hcode : state.inComment = false) (behind : Text) :
    lexLine state (twoMarks ++ behind) =
      (markLexeme :: markLexeme :: (scan state (.code false) 0 behind).1,
        (scan state (.code false) 0 behind).2) := by
  rw [lexLine, startMode, isPreprocessorLine_twoMarks, Bool.and_false, if_neg Bool.false_ne_true]
  show scan state .lineStart 0 (';' :: ';' :: behind) = _
  rw [scan, step_mark hcode (.inl rfl), scan, step_mark hcode (.inr rfl)]
  rfl

end Lexemes

/-!
# Tokens of a line in a block comment
-/

theorem Lexeme.rawTokens_add (start width : Nat) (lexemes : List Lexeme) :
    rawTokens (start + width) lexemes = (rawTokens start lexemes).map (RawToken.shift width) := by
  induction lexemes generalizing start with
  | nil => rfl
  | cons lexeme more ih =>
      rw [rawTokens, rawTokens, List.map_cons, ← ih, Nat.add_right_comm]
      rfl

def commentTokens (text : Text) : List RawToken :=
  if text = [] then []
  else [{ start := 0, stop := text.length, scopes := [Scope.source, .commentBlock].map Scope.raw }]

def closeToken (place : Nat) : RawToken where
  start := place
  stop := (place + 2 : Nat)
  scopes := [Scope.source, .commentBlock, .punctuationDefinitionComment].map Scope.raw

def markToken (place : Nat) : RawToken where
  start := place
  stop := (place + 1 : Nat)
  scopes := [Scope.source, .punctuationTerminatorStatement].map Scope.raw

theorem rawTokens_commentLexemes (text : Text) :
    Lexeme.rawTokens 0 (commentLexemes text) = commentTokens text := by
  rw [commentLexemes, commentTokens]
  split
  · rfl
  · rw [Lexeme.rawTokens, Nat.zero_add]
    rfl

theorem flatten_commentLexemes (text : Text) :
    ((commentLexemes text).map Lexeme.text).flatten = text := by
  rw [commentLexemes]
  split
  · rename_i hnone
    exact hnone.symm
  · exact List.append_nil text

section Tokens

variable {state : State}

theorem grammar_unclosed (hcomment : state.inComment = true) {line : Text}
    (hopen : ¬ commentMark <:+: line) :
    grammar line (some state) = { tokens := commentTokens line, state } := by
  rw [grammar, Option.getD_some, lexLine_inComment hcomment, scan_unclosed hcomment hopen]
  dsimp only
  rw [rawTokens_commentLexemes]

theorem grammar_twoMarks (hcode : state.inComment = false) (behind : Text) :
    grammar (twoMarks ++ behind) (some state) =
      { tokens := markToken 0 :: markToken 1 ::
          Lexeme.rawTokens 2 (scan state (.code false) 0 behind).1
        state := (scan state (.code false) 0 behind).2 } := by
  rw [grammar, Option.getD_some, lexLine_twoMarks hcode]
  rfl

theorem grammar_firstClose (hcomment : state.inComment = true) {comment behind : Text}
    (hfirst : FirstClose comment behind) :
    grammar (comment ++ (commentMark ++ behind)) (some state) =
      { tokens := commentTokens comment ++ closeToken comment.length ::
          ((grammar (twoMarks ++ behind) (some { state with inComment := false })).tokens.drop
            2).map (RawToken.shift comment.length)
        state :=
          (grammar (twoMarks ++ behind) (some { state with inComment := false })).state } := by
  rw [grammar_twoMarks rfl, grammar, Option.getD_some, lexLine_inComment hcomment,
    scan_firstClose hcomment hfirst]
  dsimp only
  rw [rawTokens_append, flatten_commentLexemes, rawTokens_commentLexemes, Nat.zero_add,
    Lexeme.rawTokens, List.drop_succ_cons, List.drop_succ_cons, List.drop_zero,
    ← Lexeme.rawTokens_add, Nat.add_comm 2]
  rfl

theorem isSign_eq_false {token : RawToken} (scope : Scope) (hscope : token.innermost = scope.raw)
    (hother : scope ≠ .punctuationSeparatorHash) : isSign token = false := by
  rw [isSign, hscope, beq_eq_false_iff_ne]
  exact Scope.raw_injective.ne hother

theorem isSign_twoMarks (hcode : state.inComment = false) {behind : Text} {token : RawToken}
    (htoken : token ∈ (grammar (twoMarks ++ behind) (some state)).tokens) :
    isSign token = false := by
  by_contra hsign
  rw [Bool.not_eq_false] at hsign
  have hline := (@exists_sign_iff (some state) hcode (twoMarks ++ behind)).mp
    ⟨token, htoken, hsign⟩
  rw [isPreprocessorLine_twoMarks] at hline
  cases hline

end Tokens

/-!
# Runs in a block comment
-/

theorem visits_unclosed {state : State} (hcomment : state.inComment = true) {lines : List Text}
    (hopen : forall line, line ∈ lines -> ¬ commentMark <:+: line) (index : Nat) :
    grammar.visits index (some state) lines =
        (lines.zipIdx index).map (fun entry =>
          { index := entry.2
            call := { line := entry.1, before := some state }
            tokens := commentTokens entry.1 }) ∧
      grammar.stateAfter (some state) lines = some state := by
  induction lines generalizing index with
  | nil => exact ⟨rfl, rfl⟩
  | cons line more ih =>
      have hline := grammar_unclosed hcomment (hopen line List.mem_cons_self)
      rcases ih (fun other hother => hopen other (List.mem_cons_of_mem _ hother)) (index + 1) with
        ⟨hvisits, hstate⟩
      constructor
      · rw [Grammar.visits_cons, hline, hvisits, List.zipIdx_cons, List.map_cons]
      · rw [Grammar.stateAfter_cons, hline, hstate]

/-- A block comment ends where its end stands first.  A line without its end is comment as a whole,
and so are any number of them.  A line with its end is comment up to there, whatever that holds, and
behind it goes on like a line that begins with two marks: it is not one of the preprocessor. -/
theorem comment_ends_at_first_close {state : State} (hcomment : state.inComment = true) :
    (forall line : Text, ¬ commentMark <:+: line ->
      grammar line (some state) = { tokens := commentTokens line, state }) ∧
      (forall lines : List Text, (forall line, line ∈ lines -> ¬ commentMark <:+: line) ->
        forall index,
          grammar.visits index (some state) lines =
              (lines.zipIdx index).map (fun entry =>
                { index := entry.2
                  call := { line := entry.1, before := some state }
                  tokens := commentTokens entry.1 }) ∧
            grammar.stateAfter (some state) lines = some state) ∧
      forall comment behind : Text, FirstClose comment behind ->
        let line := grammar (comment ++ (commentMark ++ behind)) (some state)
        let marked := grammar (twoMarks ++ behind) (some { state with inComment := false })
        line.tokens = commentTokens comment ++ closeToken comment.length ::
            (marked.tokens.drop 2).map (RawToken.shift comment.length) ∧
          marked.tokens.take 2 = [markToken 0, markToken 1] ∧
          line.state = marked.state ∧
          forall token, token ∈ line.tokens -> isSign token = false := by
  refine ⟨fun line hopen => grammar_unclosed hcomment hopen,
    fun lines hopen index => visits_unclosed hcomment hopen index, ?_⟩
  intro comment behind hfirst line marked
  have hline : line =
      { tokens := commentTokens comment ++ closeToken comment.length ::
          (marked.tokens.drop 2).map (RawToken.shift comment.length)
        state := marked.state } :=
    grammar_firstClose hcomment hfirst
  have hmarks : marked.tokens.take 2 = [markToken 0, markToken 1] := by
    show (grammar (twoMarks ++ behind) _).tokens.take 2 = _
    rw [grammar_twoMarks rfl]
    rfl
  have hstate : line.state = marked.state := by rw [hline]
  refine ⟨by rw [hline], hmarks, hstate, ?_⟩
  intro token htoken
  rw [hline] at htoken
  rcases List.mem_append.mp htoken with hfront | hclose
  · rw [commentTokens] at hfront
    split at hfront
    · cases hfront
    · rw [List.mem_singleton.mp hfront]
      exact isSign_eq_false .commentBlock rfl (by decide)
  · rcases List.mem_cons.mp hclose with rfl | hlater
    · exact isSign_eq_false .punctuationDefinitionComment rfl (by decide)
    · rcases List.mem_map.mp hlater with ⟨other, hother, rfl⟩
      show isSign other = false
      exact isSign_twoMarks rfl (List.mem_of_mem_drop hother)

theorem comment_of_stars_ends :
    ({ inComment := true, blocks := [.typeBody] } : State).inComment = true ∧
      FirstClose "/**".toList "#if".toList ∧
      (grammar "/***/#if".toList (some { inComment := true, blocks := [.typeBody] })).tokens =
        commentTokens "/**".toList ++ closeToken 3 ::
          ((grammar ";;#if".toList (some { blocks := [.typeBody] })).tokens.drop 2).map
            (RawToken.shift 3) := by
  have hfirst : FirstClose "/**".toList "#if".toList := by decide
  have hline : "/***/#if".toList = "/**".toList ++ (commentMark ++ "#if".toList) := by decide
  have hmarked : ";;#if".toList = twoMarks ++ "#if".toList := by decide
  have hlength : "/**".toList.length = 3 := by decide
  have hends := (@comment_ends_at_first_close { inComment := true, blocks := [.typeBody] }
    rfl).right.right _ _ hfirst
  rw [hlength] at hends
  rw [hline, hmarked]
  exact ⟨rfl, hfirst, hends.left⟩

end Mana
end ScopeProbe
