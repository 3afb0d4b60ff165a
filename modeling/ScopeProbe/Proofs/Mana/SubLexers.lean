import ScopeProbe.Proofs.Mana.Cursors
import ScopeProbe.Proofs.Mana.WrittenScopes
import ScopeProbe.Proofs.Outcomes

/-!
# What a mode leaves to do begins with a step

In each of its loops the line lexer reports the lexeme of a step, with its scopes
written out, and has the mode of the step behind it still to do.  Nothing that it
looks up on the way is missing, and none of its loops stays where it is.
-/

namespace ScopeProbe
namespace Mana
namespace LineLexer

section

variable (place : Place) (state : State) (tokens : List RawToken)

/-!
# Strings
-/

theorem takes_interpolation :
    Takes place.line .interpolation (place.cursor state false tokens)
      (interpolationStep state place.head place.rest) := by
  have hlt := place.cursor_lt state tokens false
  have hchar := place.charAt_cursor state tokens false
  have hbody : interpolationBody place.line (place.cursor state false tokens) =
      if place.head = '\x7d' then .ok (.done (place.cursor state false tokens))
      else .ok (.yield ((place.cursor state false tokens).behind
        (interpolationStep state place.head place.rest))) := by
    rw [interpolationBody, hchar, ok_bind, interpolationStep]
    split
    · rfl
    · split
      · rename_i hblank
        rw [place.skip_cursor state tokens false hblank]
        rfl
      · split
        · rename_i hstart
          rw [place.skip_cursor state tokens false (isWordChar_of_isWordStart hstart)]
          rfl
        · rfl
  rw [Takes, resume, lexInterpolation]
  by_cases hclose : place.head = '\x7d'
  · rw [if_pos hclose] at hbody
    rw [loop_done hlt hbody, interpolationStep, if_pos hclose, ok_bind, closeInterpolation,
      if_pos hlt]
    rfl
  · have hmode : (interpolationStep state place.head place.rest).mode = .interpolation := by
      rw [interpolationStep, if_neg hclose]
      split
      · rfl
      · split <;> rfl
    rw [if_neg hclose] at hbody
    rw [loop_behind hlt hbody, hmode]
    rfl

theorem position_le_interpolation {line : Text} {cursor next : Cursor}
    (h : lexInterpolation line cursor = .ok next) : cursor.position <= next.position := by
  have hdone (cursor next : Cursor) (hbody : interpolationBody line cursor = .ok (.done next)) :
      cursor.position <= next.position := by
    rcases bind_eq_ok.mp hbody with ⟨c, _hchar, hnext⟩
    simp only [skip_eq, ok_bind] at hnext
    split_ifs at hnext <;> cases hnext
    exact Nat.le_refl _
  rcases bind_eq_ok.mp h with ⟨last, hlast, hnext⟩
  have hle := position_le_of_loop hdone hlast
  cases hnext
  unfold closeInterpolation
  split
  · exact Nat.le_succ_of_le hle
  · exact hle

theorem takes_string (interpolated : Bool) :
    Takes place.line (.string interpolated) (place.cursor state false tokens)
      (stringStep state interpolated place.head place.rest) := by
  have hlt := place.cursor_lt state tokens false
  have hchar := place.charAt_cursor state tokens false
  have hescapes : (place.head = '\\' ∧
      (place.cursor state false tokens).position + 1 < place.line.length) <->
        (place.head = '\\' ∧ place.rest ≠ []) := by
    rw [← place.succ_lt_length]
    rfl
  rw [stringStep]
  split
  · rename_i hquote
    refine takes_of_done hlt ?_ (fun _ => rfl) rfl
    rw [stringBody, hchar, ok_bind, if_pos hquote]
    rfl
  · rename_i hquote
    split
    · rename_i hescape
      refine takes_of_yield hlt ?_ (fun _ => rfl) rfl
      rw [stringBody, hchar, ok_bind, if_neg hquote, if_pos (hescapes.mpr hescape)]
      rfl
    · rename_i hescape
      have hplain : ¬ (place.head = '\\' ∧
          (place.cursor state false tokens).position + 1 < place.line.length) := fun h =>
        hescape (hescapes.mp h)
      split
      · rename_i hbrace
        rw [Takes, resume, loop_bind hlt, hbrace.left]
        rotate_left
        · rw [stringBody, hchar, ok_bind, if_neg hquote, if_neg hplain, if_pos hbrace]
          rfl
        · intro next hnext
          exact position_le_interpolation hnext
        · rfl
      · rename_i hbrace
        have hrest : place.line.drop (place.front.length + 1) = place.rest := place.drop_behind 0
        refine takes_of_yield hlt ?_ (fun _ => rfl) rfl
        rw [stringBody, hchar, ok_bind, if_neg hquote, if_neg hplain, if_neg hbrace, skip_eq,
          Place.cursor, cursorAt, hrest]
        rfl

theorem position_lt_string {line : Text} {interpolated : Bool} {cursor next : Cursor}
    (h : lexString line interpolated cursor = .ok next) : cursor.position < next.position := by
  have hdone (cursor next : Cursor)
      (hbody : stringBody line interpolated cursor = .ok (.done next)) :
      cursor.position <= next.position := by
    rcases bind_eq_ok.mp hbody with ⟨c, _hchar, hnext⟩
    simp only [skip_eq, ok_bind] at hnext
    split_ifs at hnext
    · cases hnext
      exact Nat.le_succ _
    · cases hnext
    · rcases bind_eq_ok.mp hnext with ⟨last, _hlast, hyield⟩
      cases hyield
    · cases hnext
  have hle := position_le_of_loop hdone h
  refine Nat.lt_of_lt_of_le ?_ hle
  show cursor.position < cursor.position + _
  split <;> omega

/-!
# Preprocessor lines
-/

theorem takes_preprocessor (message : Bool) :
    Takes place.line (.preprocessor message) (place.cursor state false tokens)
      (preprocessorStep state message place.head place.rest) := by
  have hlt := place.cursor_lt state tokens false
  have hchar := place.charAt_cursor state tokens false
  rw [preprocessorStep]
  split
  · rename_i hblank
    refine takes_of_yield hlt ?_ (fun _ => rfl) rfl
    rw [preprocessorBody, hchar, ok_bind, if_pos hblank,
      place.skip_cursor state tokens false hblank]
    rfl
  · rename_i hblank
    split
    · rename_i hmessage
      refine takes_of_yield hlt ?_ (fun _ => rfl) rfl
      rw [preprocessorBody, hchar, ok_bind, if_neg hblank, if_pos hmessage, place.length_line]
      rfl
    · rename_i hmessage
      split
      · rename_i hstart
        refine takes_of_yield hlt ?_ (fun _ => rfl) rfl
        rw [preprocessorBody, hchar, ok_bind, if_neg hblank, if_neg hmessage, if_pos hstart,
          place.skip_cursor state tokens false (isWordChar_of_isWordStart hstart)]
        rfl
      · rename_i hstart
        refine takes_of_yield hlt ?_ (fun _ => rfl) rfl
        rw [preprocessorBody, hchar, ok_bind, if_neg hblank, if_neg hmessage, if_neg hstart]
        rfl

theorem takes_directive :
    Takes place.line .directive (place.cursor state false tokens)
      (directiveStep state place.head place.rest) := by
  rw [directiveStep]
  split
  · rename_i hword
    have hlookup := map_raw_lookup_directives
      (place.head :: place.rest.take (runLength isWordChar place.rest))
    rw [Takes, resume, lexDirective, place.skip_cursor state tokens false hword, ok_bind]
    dsimp only
    rw [place.cut_word state tokens]
    cases hdirective : Mana.directives.lookup
        (place.head :: place.rest.take (runLength isWordChar place.rest)) with
    | some scope =>
        rw [hdirective, Option.map_some] at hlookup
        split at hlookup
        · rename_i hcontains
          rw [if_pos hcontains, ← Option.some.inj hlookup]
          rfl
        · cases hlookup
    | none =>
        rw [hdirective, Option.map_none] at hlookup
        split at hlookup
        · cases hlookup
        · rename_i hcontains
          have hlt : (place.cursor state false tokens).position <
              place.front.length + 1 + runLength isWordChar place.rest := by
            show place.front.length < _
            omega
          rw [if_neg hcontains, if_pos hlt]
          rfl
  · rename_i hword
    have hrest := takes_preprocessor place state tokens false
    rw [Takes, resume] at hrest
    rw [Takes, resume, lexDirective, place.skip_idle state tokens false hword, ok_bind]
    dsimp only
    rw [Text.cut_self, if_neg (by decide), if_neg (Nat.lt_irrefl _)]
    exact hrest

theorem takes_hash (hstart : isBlank place.head = true -> place.front = []) :
    Takes place.line .hash (place.cursor state false tokens)
      (hashStep state place.head place.rest) := by
  rw [hashStep]
  split
  · rename_i hblank
    have hfront : place.front.length = 0 := by
      rw [hstart hblank, List.length_nil]
    have hskip : skip place.line isBlank 0 =
        .ok (place.front.length + 1 + runLength isBlank place.rest) := by
      rw [← place.skip hblank, hfront]
    rw [Takes, resume, if_pos (show (place.cursor state false tokens).position = 0 from hfront),
      lexPreprocessor, hskip, ok_bind, if_pos (by omega), resume,
      if_neg (Nat.ne_of_gt (Nat.lt_of_le_of_lt (Nat.zero_le _) (position_lt_behind _ _)))]
    rfl
  · rename_i hblank
    have hhash : (if (place.cursor state false tokens).position = 0 then
        lexPreprocessor place.line (place.cursor state false tokens)
      else lexHash place.line (place.cursor state false tokens)) =
        lexHash place.line (place.cursor state false tokens) := by
      split
      · rename_i hzero
        have hskip := place.skip_idle state tokens false hblank
        rw [hzero] at hskip
        rw [lexPreprocessor, hskip, ok_bind, if_neg (Nat.lt_irrefl 0)]
      · rfl
    rw [Takes, resume, hhash, lexHash]
    rfl

/-!
# Comments
-/

theorem position_le_lineComment (line : Text) (cursor : Cursor) :
    cursor.position <= (lexLineComment line cursor).position := by
  unfold lexLineComment
  split
  · rename_i hlt
    exact Nat.le_of_lt hlt
  · exact Nat.le_refl _

theorem commentEnd?_drop {text : Text} {n : Nat} (h : commentEnd? text = some n) :
    commentEnd? (text.drop n) = some 0 := by
  fun_induction commentEnd? text generalizing n with
  | case1 => cases h
  | case2 rest =>
      cases h
      rfl
  | case3 c rest _hopen ih =>
      rcases Option.map_eq_some_iff.mp h with ⟨m, hm, rfl⟩
      exact ih hm

theorem position_lt_blockComment {line : Text} {cursor : Cursor}
    (hlt : cursor.position < line.length) :
    cursor.position < (lexBlockComment line cursor).position := by
  unfold lexBlockComment
  split
  · exact hlt
  · rename_i close hclose
    rw [find?_eq] at hclose
    rcases Option.map_eq_some_iff.mp hclose with ⟨before, _hend, rfl⟩
    show cursor.position < cursor.position + before + 2
    omega

theorem loop_comment {line : Text} {cursor : Cursor} (hlt : cursor.position < line.length)
    (hcomment : cursor.inComment = true) :
    loop line (lexOn line) cursor = loop line (lexOn line) (lexBlockComment line cursor) := by
  refine loop_yield hlt ?_ (position_lt_blockComment hlt)
  rw [lexOn, if_pos hcomment]

theorem lexBlockComment_of_end {line : Text} {cursor : Cursor} {before : Nat}
    (hend : commentEnd? (line.drop cursor.position) = some before) :
    lexBlockComment line cursor = closeComment (cursor.position + before)
      (if 0 < before then cursor.emit (cursor.position + before) [commentBlock] else cursor) := by
  have hlt : cursor.position < cursor.position + before <-> 0 < before := by
    omega
  rw [lexBlockComment, find?_eq, hend]
  dsimp only [Option.map_some]
  simp only [hlt]

theorem lexBlockComment_behind {more : Nat}
    (hend : commentEnd? (place.head :: place.rest) = some (more + 1)) :
    lexBlockComment place.line (place.cursor state false tokens) =
      lexBlockComment place.line ((place.cursor state false tokens).behind
        ⟨more, [.commentBlock], .code false, state⟩) := by
  have hdrop := place.drop_cursor state tokens false
  have hbehind : commentEnd? (place.line.drop (place.front.length + 1 + more)) = some 0 := by
    rw [place.drop_behind, ← List.drop_succ_cons]
    exact commentEnd?_drop hend
  have hclose : (place.cursor state false tokens).position + (more + 1) =
      place.front.length + 1 + more := by
    show place.front.length + (more + 1) = _
    omega
  have hagain : lexBlockComment place.line ((place.cursor state false tokens).behind
      ⟨more, [.commentBlock], .code false, state⟩) = _ := lexBlockComment_of_end hbehind
  rw [lexBlockComment_of_end (hdrop ▸ hend), if_pos (Nat.succ_pos more), hclose, hagain,
    if_neg (Nat.lt_irrefl 0)]
  rfl

/-- The text of a comment and its end are taken in one go, which are two steps. -/
theorem takes_comment (hcomment : state.inComment = true) :
    Takes place.line (.code false) (place.cursor state false tokens)
      (commentStep state place.head place.rest) := by
  have hlt := place.cursor_lt state tokens false
  have hdrop := place.drop_cursor state tokens false
  rw [Takes, resume, commentStep, loop_comment hlt hcomment]
  split
  · rename_i hnone
    rw [lexBlockComment, find?_eq, hdrop, hnone, place.length_line]
    rfl
  · rename_i hend
    rw [lexBlockComment_of_end (hdrop ▸ hend), if_neg (Nat.lt_irrefl 0)]
    rfl
  · rename_i more hend
    have hclose := commentEnd?_le hend
    rw [List.length_cons] at hclose
    have hlater : place.front.length + 1 + more < place.line.length := by
      rw [place.length_line]
      omega
    rw [lexBlockComment_behind place state tokens hend]
    exact (loop_comment hlater hcomment).symm

/-!
# Words
-/

theorem innermost_eq_iff {state : State} (hproper : state.Proper) (block : Block)
    (hblock : Block.ofName block.name = block) (htop : block.name ≠ "top") :
    state.written.blocks.getLast?.getD "top" = block.name <-> state.blocks.head? = some block := by
  rw [State.written, List.getLast?_reverse, List.head?_map]
  cases hhead : state.blocks.head? with
  | none => simpa using htop.symm
  | some other =>
      have hother := hproper.blocks other (List.mem_of_head? hhead)
      constructor
      · intro h
        rw [← hother, ← hblock]
        exact congrArg (some <| Block.ofName ·) h
      · intro h
        cases h
        rfl

theorem identifierScope_eq (hproper : state.Proper) (wasType afterType : Bool) (stop : Nat) :
    identifierScope place.line wasType stop (place.cursor state afterType tokens) =
      .ok (Mana.identifierScope state wasType (place.line.drop stop)).raw := by
  have htype : (place.cursor state afterType tokens).blocks.getLast?.getD "top" = "type" <->
      state.blocks.head? = some .typeBody := innermost_eq_iff hproper .typeBody rfl (by decide)
  have henum : (place.cursor state afterType tokens).blocks.getLast?.getD "top" = "enum" <->
      state.blocks.head? = some .enumBody := innermost_eq_iff hproper .enumBody rfl (by decide)
  rw [identifierScope, nextSignificant_eq, ok_bind, Mana.identifierScope]
  simp only [htype, henum]
  split
  · rfl
  · split
    · split <;> rfl
    · split <;> rfl

theorem lexIdentifier_of_pending {line : Text} {cursor : Cursor} {kind : Declaration}
    (wasType : Bool) (stop : Nat) (hpending : cursor.pending = some kind.keyword.toList) :
    lexIdentifier line wasType stop cursor =
      .ok ({ cursor with pending := none, nextBlock := kind.block.name }.emit stop
        [kind.nameScope.raw]) := by
  rw [lexIdentifier, hpending]
  dsimp only
  rw [lookup_bodies_keyword, kind.raw_nameScope]

theorem lexWord_eq (hproper : state.Proper)
    (wasType : Bool) (hstart : isWordStart place.head = true) :
    lexWord place.line wasType (place.cursor state false tokens) =
      .ok ((place.cursor state false tokens).behind
        (wordStep state wasType place.head place.rest)) := by
  have hskip := place.skip_cursor state tokens false (isWordChar_of_isWordStart hstart)
  rw [lexWord, hskip, ok_bind]
  dsimp only
  rw [place.cut_word state tokens, wordStep, reserved?_eq, lookup_bodies, ← map_raw_lookup_keywords]
  dsimp only
  generalize place.head :: place.rest.take (runLength isWordChar place.rest) = word
  split
  · rfl
  · cases hdeclared : declared? word with
    | some kind =>
        rw [keyword_of_declared? hdeclared, ← kind.raw_keywordScope]
        rfl
    | none =>
        dsimp only [Option.map_none, Option.isSome_none]
        rw [if_neg Bool.false_ne_true, Option.none_or]
        split
        · rfl
        · split
          · rfl
          · cases Mana.keywords.lookup word with
            | some scope => rfl
            | none =>
                dsimp only [Option.map_none]
                cases hpending : state.pending with
                | some kind =>
                    have hwaits : (place.cursor state false tokens).pending =
                        some kind.keyword.toList := by
                      show state.pending.map _ = _
                      rw [hpending, Option.map_some]
                    rw [lexIdentifier_of_pending wasType _ hwaits]
                    rfl
                | none =>
                    have hfree : (place.cursor state false tokens).pending = none := by
                      show state.pending.map _ = _
                      rw [hpending, Option.map_none]
                    rw [lexIdentifier, hfree]
                    dsimp only
                    rw [identifierScope_eq place state tokens hproper, ok_bind, place.drop_behind]
                    rfl

/-!
# Symbols
-/

theorem openBrace_cursor :
    (place.cursor state false tokens).openBrace = place.cursor state.openBrace false tokens := by
  rw [Cursor.openBrace, Place.cursor, Place.cursor, cursorAt, cursorAt]
  simp only [State.written, State.openBrace, List.map_cons, List.reverse_cons, Block.name]

theorem closeBrace_cursor :
    (place.cursor state false tokens).closeBrace = place.cursor state.closeBrace false tokens := by
  rw [Cursor.closeBrace, Place.cursor, Place.cursor, cursorAt, cursorAt]
  simp only [State.written, State.closeBrace, List.map_tail, List.dropLast_reverse]

theorem lexSymbol_eq :
    lexSymbol place.line place.head (place.cursor state false tokens) =
      (place.cursor state false tokens).behind (symbolStep state place.head place.rest) := by
  rw [lexSymbol, place.drop_cursor state tokens false, ← map_raw_operator?, symbolStep,
    ← map_raw_lookup_punctuation]
  cases hoperator : operator? (place.head :: place.rest) with
  | some found =>
      rcases found with ⟨operator, scope⟩
      have hne : operator ≠ [] := operators_ne_nil _ (List.mem_of_find?_eq_some hoperator)
      have hlength : (place.cursor state false tokens).position + operator.length =
          (place.cursor state false tokens).position + 1 + (operator.length - 1) := by
        have hpos := List.length_pos_iff.mpr hne
        omega
      dsimp only [Option.map_some, Prod.map_apply, id]
      rw [hlength]
      rfl
  | none =>
      dsimp only [Option.map_none]
      cases Mana.punctuation.lookup place.head with
      | none => rfl
      | some scope =>
          dsimp only [Option.map_some]
          rw [openBrace_cursor, closeBrace_cursor]
          split
          · rfl
          · split <;> rfl

/-!
# Blanks
-/

theorem lexBlanks_eq (afterType atStart : Bool) (hstart : atStart = true <-> place.front = [])
    (hblank : isBlank place.head = true) :
    lexBlanks place.line (place.cursor state afterType tokens) =
      .ok ((place.cursor state afterType tokens).behind
        ⟨runLength isBlank place.rest,
          if atStart then Mana.leadingBlanks (place.rest.drop (runLength isBlank place.rest))
          else [],
          .code afterType, state⟩) := by
  have hzero : (place.cursor state afterType tokens).position = 0 <-> atStart = true := by
    rw [hstart, ← List.length_eq_zero_iff]
    rfl
  rw [lexBlanks, place.skip_cursor state tokens afterType hblank, ok_bind, place.drop_behind]
  simp only [hzero]
  cases atStart with
  | false => rfl
  | true =>
      simp only [true_and, if_true, Mana.leadingBlanks]
      split <;> rfl

/-!
# Numbers
-/

theorem position_le_hexDigits {line : Text} {cursor next : Cursor}
    (h : lexHexDigits line cursor = .ok next) : cursor.position <= next.position := by
  rw [lexHexDigits, skip_eq, ok_bind] at h
  split at h <;> cases h
  · exact Nat.le_add_right _ _
  · exact Nat.le_refl _

theorem done_of_number {line : Text} {cursor next : Cursor}
    (hbody : numberBody line cursor = .ok (.done next)) : cursor.position <= next.position := by
  rcases bind_eq_ok.mp hbody with ⟨c, _hchar, hnext⟩
  simp only [skip_eq, ok_bind] at hnext
  split_ifs at hnext with _hdigit _hunderscore _hdot _hbehind _hsuffix
  · cases hnext
  · cases hnext
  · rcases bind_eq_ok.mp hnext with ⟨d, _hchar, hdone⟩
    split at hdone <;> cases hdone
    exact Nat.le_refl _
  · cases hnext
    exact Nat.le_refl _
  · cases hnext
    exact Nat.le_succ _
  · cases hnext
    exact Nat.le_refl _

theorem numberBody_of_digit (hdigit : Unicode.isDigit place.head = true) :
    numberBody place.line (place.cursor state false tokens) =
      .ok (.yield ((place.cursor state false tokens).behind
        ⟨runLength Unicode.isDigit place.rest, [.constantNumericDecimal], .number, state⟩)) := by
  rw [numberBody, place.charAt_cursor state tokens false, ok_bind, if_pos hdigit,
    place.skip_cursor state tokens false hdigit]
  rfl

theorem takes_numberStart (hdigit : Unicode.isDigit place.head = true) :
    lexNumber place.line (place.cursor state false tokens) >>= loop place.line (lexOn place.line) =
      resume place.line (numberStart state place.head place.rest).mode
        ((place.cursor state false tokens).behind
          (numberStart state place.head place.rest)) := by
  have hmark : ((place.head :: place.rest).take 2 = "0x".toList ∨
      (place.head :: place.rest).take 2 = "0X".toList) <->
        (place.head = '0' ∧ (place.rest.head? = some 'x' ∨ place.rest.head? = some 'X')) := by
    cases place.rest with
    | nil => simp
    | cons c more => simp [and_or_left]
  rw [lexNumber, place.drop_cursor state tokens false, numberStart]
  simp only [hmark]
  split
  · rfl
  · rw [loop_behind (place.cursor_lt state tokens false)
      (numberBody_of_digit place state tokens hdigit)]
    rfl

theorem position_lt_number (hdigit : Unicode.isDigit place.head = true) {next : Cursor}
    (h : lexNumber place.line (place.cursor state false tokens) = .ok next) :
    (place.cursor state false tokens).position < next.position := by
  rw [lexNumber] at h
  split at h
  · exact Nat.lt_of_lt_of_le (Nat.lt_add_of_pos_right (Nat.succ_pos 1)) (position_le_hexDigits h)
  · rw [loop_behind (place.cursor_lt state tokens false)
      (numberBody_of_digit place state tokens hdigit)] at h
    exact Nat.lt_of_lt_of_le (position_lt_behind _ _)
      (position_le_of_loop (fun _ _ => done_of_number) h)

/-!
# Code
-/

theorem isPrefixOf_pair (first second : Char) (text : Text) (c : Char) :
    [first, second].isPrefixOf (c :: text) = true <-> c = first ∧ text.head? = some second := by
  cases text with
  | nil => simp
  | cons d more =>
      simp only [List.isPrefixOf, Bool.and_true, Bool.and_eq_true, beq_iff_eq, List.head?_cons,
        Option.some.injEq]
      constructor
      · intro h
        exact ⟨h.left.symm, h.right.symm⟩
      · intro h
        exact ⟨h.left.symm, h.right.symm⟩

theorem lexDefault_eq (afterType : Bool) :
    lexDefault place.line (place.cursor state afterType tokens) =
      if isBlank place.head then lexBlanks place.line (place.cursor state afterType tokens)
      else if place.head = '/' ∧ place.rest.head? = some '/' then
        .ok (lexLineComment place.line ((place.cursor state false tokens).behind
          ⟨1, [.commentLineDoubleSlash, .punctuationDefinitionComment], .lineComment, state⟩))
      else if place.head = '/' ∧ place.rest.head? = some '*' then
        .ok ((place.cursor state false tokens).behind
          ⟨1, [.commentBlock, .punctuationDefinitionComment], .code false,
            { state with inComment := true }⟩)
      else if place.head = '$' ∧ place.rest.head? = some '"' then
        lexString place.line true (place.cursor state false tokens)
      else if place.head = '"' then lexString place.line false (place.cursor state false tokens)
      else if Unicode.isDigit place.head then
        lexNumber place.line (place.cursor state false tokens)
      else if isWordStart place.head then
        lexWord place.line afterType (place.cursor state false tokens)
      else .ok (lexSymbol place.line place.head (place.cursor state false tokens)) := by
  have hslashes : "//".toList.isPrefixOf (place.head :: place.rest) = true <-> _ :=
    isPrefixOf_pair '/' '/' place.rest place.head
  have hstar : "/*".toList.isPrefixOf (place.head :: place.rest) = true <-> _ :=
    isPrefixOf_pair '/' '*' place.rest place.head
  have hdollar : "$\"".toList.isPrefixOf (place.head :: place.rest) = true <-> _ :=
    isPrefixOf_pair '$' '"' place.rest place.head
  rw [lexDefault, place.charAt_cursor state tokens afterType, ok_bind,
    place.drop_cursor state tokens afterType]
  simp only [hslashes, hstar, hdollar]
  rfl

theorem takes_of_action {afterType : Bool} {action : Except Fault Cursor} {next : Step}
    (hcode : state.inComment = false)
    (haction : lexDefault place.line (place.cursor state afterType tokens) = action)
    (hmoves : forall later, action = .ok later -> place.front.length < later.position)
    (hresume : action >>= loop place.line (lexOn place.line) =
      resume place.line next.mode ((place.cursor state afterType tokens).behind next)) :
    Takes place.line (.code afterType) (place.cursor state afterType tokens) next := by
  have houtside : (place.cursor state afterType tokens).inComment = false := hcode
  have hbody : lexOn place.line (place.cursor state afterType tokens) = .yield <$> action := by
    rw [lexOn, houtside, haction]
    rfl
  rw [Takes, resume, loop_bind (place.cursor_lt state tokens afterType) hbody hmoves, hresume]

theorem takes_of_default {afterType : Bool} {next : Step} (hcode : state.inComment = false)
    (hdefault : lexDefault place.line (place.cursor state afterType tokens) =
      .ok ((place.cursor state afterType tokens).behind next))
    (hmode : forall cursor, resume place.line next.mode cursor =
      loop place.line (lexOn place.line) cursor) :
    Takes place.line (.code afterType) (place.cursor state afterType tokens) next := by
  refine takes_of_action place state tokens hcode hdefault ?_ ?_
  · intro later hlater
    cases hlater
    exact position_lt_behind (place.cursor state afterType tokens) next
  · rw [hmode, ok_bind]

theorem wordStep_mode (wasType : Bool) (c : Char) (rest : Text) :
    exists afterType, (wordStep state wasType c rest).mode = .code afterType := by
  simp only [wordStep]
  split
  · exact ⟨_, rfl⟩
  · split <;> exact ⟨_, rfl⟩

theorem symbolStep_mode (c : Char) (rest : Text) :
    (symbolStep state c rest).mode = .code false := by
  rw [symbolStep]
  split
  · rfl
  · split <;> rfl

theorem takes_code (hproper : state.Proper)
    {afterType : Bool} (hcomment : state.inComment = true -> afterType = false)
    (hblank : state.inComment = false -> ¬ isBlank place.head = true) :
    Takes place.line (.code afterType) (place.cursor state afterType tokens)
      (codeStep state afterType place.head place.rest) := by
  have hdefault (houtside : ¬ state.inComment = true) :=
    (lexDefault_eq place state tokens afterType).trans
      (if_neg (hblank (Bool.eq_false_iff.mpr houtside)))
  rw [codeStep]
  split_ifs with hcomments hslashes hstar hdollar hquote hdigit hword
  · rw [hcomment hcomments]
    exact takes_comment place state tokens hcomments
  all_goals
    have hcode : state.inComment = false := Bool.eq_false_iff.mpr hcomments
    specialize hdefault hcomments
  · rw [if_pos hslashes] at hdefault
    refine takes_of_action place state tokens hcode hdefault ?_ rfl
    intro later hlater
    cases hlater
    exact Nat.lt_of_lt_of_le (position_lt_behind (place.cursor state false tokens) _)
      (position_le_lineComment place.line _)
  · rw [if_neg hslashes, if_pos hstar] at hdefault
    exact takes_of_default place state tokens hcode hdefault fun _ => rfl
  · rw [if_neg hslashes, if_neg hstar, if_pos hdollar] at hdefault
    exact takes_of_action place state tokens hcode hdefault
      (fun _ hlater => position_lt_string hlater) rfl
  · rw [if_neg hslashes, if_neg hstar, if_neg hdollar, if_pos hquote] at hdefault
    exact takes_of_action place state tokens hcode hdefault
      (fun _ hlater => position_lt_string hlater) rfl
  · rw [if_neg hslashes, if_neg hstar, if_neg hdollar, if_neg hquote, if_pos hdigit] at hdefault
    exact takes_of_action place state tokens hcode hdefault
      (fun _ hlater => position_lt_number place state tokens hdigit hlater)
      (takes_numberStart place state tokens hdigit)
  · rw [if_neg hslashes, if_neg hstar, if_neg hdollar, if_neg hquote, if_neg hdigit,
      if_pos hword, lexWord_eq place state tokens hproper afterType hword] at hdefault
    rcases wordStep_mode state afterType place.head place.rest with ⟨behind, hmode⟩
    refine takes_of_default place state tokens hcode hdefault fun _ => ?_
    rw [hmode, resume]
  · rw [if_neg hslashes, if_neg hstar, if_neg hdollar, if_neg hquote, if_neg hdigit,
      if_neg hword, lexSymbol_eq] at hdefault
    refine takes_of_default place state tokens hcode hdefault fun _ => ?_
    rw [symbolStep_mode, resume]

theorem takes_blankOrCode (atStart : Bool) (hstart : atStart = true <-> place.front = [])
    (hproper : state.Proper)
    {afterType : Bool} (hcomment : state.inComment = true -> afterType = false) :
    Takes place.line (.code afterType) (place.cursor state afterType tokens)
      (blankOrCodeStep state atStart afterType place.head place.rest) := by
  rw [blankOrCodeStep]
  split
  · rename_i hblank
    rw [Bool.and_eq_true, Bool.not_eq_true'] at hblank
    have hdefault := lexDefault_eq place state tokens afterType
    rw [if_pos hblank.right,
      lexBlanks_eq place state tokens afterType atStart hstart hblank.right] at hdefault
    exact takes_of_default place state tokens hblank.left hdefault fun _ => rfl
  · rename_i hblank
    refine takes_code place state tokens hproper hcomment fun hcode hhead => hblank ?_
    rw [hcode, hhead]
    rfl

theorem takes_hexDigits (hfront : place.front ≠ [])
    (hproper : state.Proper) :
    Takes place.line .hexDigits (place.cursor state false tokens)
      (hexStep state place.head place.rest) := by
  rw [hexStep]
  split
  · rename_i hdigit
    show lexHexDigits place.line (place.cursor state false tokens) >>= _ = _
    rw [lexHexDigits, place.skip_cursor state tokens false hdigit, ok_bind]
    have hlt : (place.cursor state false tokens).position <
        place.front.length + 1 + runLength Hexadecimal.isDigit place.rest :=
      position_lt_behind (place.cursor state false tokens)
        ⟨runLength Hexadecimal.isDigit place.rest, [], .hexDigits, state⟩
    rw [if_pos hlt]
    rfl
  · rename_i hdigit
    show lexHexDigits place.line (place.cursor state false tokens) >>= _ = _
    rw [lexHexDigits, place.skip_idle state tokens false hdigit, ok_bind,
      if_neg (Nat.lt_irrefl _)]
    exact takes_blankOrCode place state tokens false (by simp [hfront]) hproper fun _ => rfl

theorem charAt_succ {c : Char} {more : Text} (hrest : place.rest = c :: more) :
    charAt place.line (place.front.length + 1) = .ok c := by
  have hget : place.line[place.front.length + 1]? = some c := by
    rw [Place.line, hrest, List.getElem?_append_right (Nat.le_add_right _ 1),
      Nat.add_sub_cancel_left]
    rfl
  rw [charAt, hget]

theorem numberBody_of_point (hpoint : place.head = '.') :
    numberBody place.line (place.cursor state false tokens) =
      if place.rest.head?.any Unicode.isDigit then
        .ok (.yield ((place.cursor state false tokens).behind
          ⟨0, [.constantNumericDecimal, .constantNumericOtherSeparatorDecimals], .number, state⟩))
      else .ok (.done (place.cursor state false tokens)) := by
  have hdigit : ¬ Unicode.isDigit place.head = true := by
    rw [hpoint]
    decide
  have hunderscore : place.head ≠ '_' := by
    rw [hpoint]
    decide
  rw [numberBody, place.charAt_cursor state tokens false, ok_bind, if_neg hdigit,
    if_neg hunderscore, if_pos hpoint]
  show (if place.front.length + 1 < place.line.length then _ else _) = _
  cases hrest : place.rest with
  | nil =>
      have hend : ¬ place.front.length + 1 < place.line.length := by
        rw [place.succ_lt_length, hrest]
        exact fun h => h rfl
      rw [if_neg hend]
      rfl
  | cons c more =>
      have hlt : place.front.length + 1 < place.line.length := by
        rw [place.succ_lt_length, hrest]
        exact List.cons_ne_nil c more
      rw [if_pos hlt]
      show (do if Unicode.isDigit (← charAt place.line (place.front.length + 1)) then _ else _) = _
      rw [charAt_succ place hrest, ok_bind]
      rfl

theorem takes_number (hfront : place.front ≠ [])
    (hproper : state.Proper) :
    Takes place.line .number (place.cursor state false tokens)
      (numberStep state place.head place.rest) := by
  have hlt := place.cursor_lt state tokens false
  have hchar := place.charAt_cursor state tokens false
  rw [numberStep]
  split_ifs with hdigit hunderscore hpoint hsuffix
  · exact takes_of_yield hlt (numberBody_of_digit place state tokens hdigit) (fun _ => rfl) rfl
  · refine takes_of_yield hlt ?_ (fun _ => rfl) rfl
    rw [numberBody, hchar, ok_bind, if_neg hdigit, if_pos hunderscore]
    rfl
  · refine takes_of_yield hlt ?_ (fun _ => rfl) rfl
    rw [numberBody_of_point place state tokens hpoint.left, if_pos hpoint.right]
  · refine takes_of_done hlt ?_ (fun _ => rfl) rfl
    have hpoint : place.head ≠ '.' := by
      rintro h
      rw [h] at hsuffix
      cases hsuffix
    rw [numberBody, hchar, ok_bind, if_neg hdigit, if_neg hunderscore, if_neg hpoint,
      if_pos hsuffix]
    rfl
  · have hbody : numberBody place.line (place.cursor state false tokens) =
        .ok (.done (place.cursor state false tokens)) := by
      by_cases hhead : place.head = '.'
      · rw [numberBody_of_point place state tokens hhead, if_neg fun h => hpoint ⟨hhead, h⟩]
      · rw [numberBody, hchar, ok_bind, if_neg hdigit, if_neg hunderscore, if_neg hhead,
          if_neg hsuffix]
        rfl
    show loop place.line (numberBody place.line) (place.cursor state false tokens) >>= _ = _
    rw [loop_done hlt hbody]
    exact takes_blankOrCode place state tokens false (by simp [hfront]) hproper fun _ => rfl

theorem takes_lineComment :
    Takes place.line .lineComment (place.cursor state false tokens)
      ⟨place.rest.length, [.commentLineDoubleSlash], .lineComment, state⟩ := by
  have hend (cursor : Cursor) (hcursor : cursor.position = place.line.length) :
      lexLineComment place.line cursor = cursor := by
    rw [lexLineComment, hcursor, if_neg (Nat.lt_irrefl _)]
  have hline : lexLineComment place.line (place.cursor state false tokens) =
      (place.cursor state false tokens).behind
        ⟨place.rest.length, [.commentLineDoubleSlash], .lineComment, state⟩ := by
    rw [lexLineComment, if_pos (place.cursor_lt state tokens false), place.length_line]
    rfl
  show loop place.line _ (lexLineComment place.line (place.cursor state false tokens)) =
    loop place.line _ (lexLineComment place.line _)
  rw [hline, hend _ place.length_line.symm]

end

end LineLexer

end Mana
end ScopeProbe
