import ScopeProbe.Mana.LineLexer
import ScopeProbe.Proofs.Mana.Words

/-!
# Cursors in a line

The loops of the line lexer stand inside of each other, and where a cursor is in them
is the mode of a step.  So each mode is what the line lexer has still to do.  At a
place of the line its characters are found, and a loop goes on as long as its body
moves the cursor.
-/

namespace ScopeProbe
namespace Mana

def State.written (state : State) : LineLexer.RuleStack where
  inComment := state.inComment
  blocks := (state.blocks.map Block.name).reverse
  pending := state.pending.map fun kind => kind.keyword.toList
  nextBlock := state.nextBlock.name

/-- All blocks of a state are of a kind, with the one that the next brace opens. -/
structure State.All (kind : Block -> Prop) (state : State) : Prop where
  nextBlock : kind state.nextBlock
  blocks : forall block, block ∈ state.blocks -> kind block

def State.Proper (state : State) : Prop :=
  state.All fun block => Block.ofName block.name = block

namespace LineLexer

theorem ok_bind {α β : Type} (value : α) (next : α -> Except Fault β) :
    (Except.ok value >>= next) = next value := rfl

/-!
# Places in a line
-/

/-- A character of a line, with what is in front of it and what is behind. -/
structure Place where
  front : Text
  head : Char
  rest : Text

namespace Place

variable (place : Place)

def line : Text :=
  place.front ++ place.head :: place.rest

theorem length_line : place.line.length = place.front.length + 1 + place.rest.length := by
  rw [line, List.length_append, List.length_cons]
  omega

theorem lt_length : place.front.length < place.line.length := by
  rw [place.length_line]
  omega

theorem succ_lt_length : place.front.length + 1 < place.line.length <-> place.rest ≠ [] := by
  rw [place.length_line, ← List.length_pos_iff]
  omega

theorem charAt : LineLexer.charAt place.line place.front.length = .ok place.head := by
  rw [LineLexer.charAt, line, List.getElem?_append_right (Nat.le_refl _), Nat.sub_self,
    List.getElem?_cons_zero]

theorem drop : place.line.drop place.front.length = place.head :: place.rest := by
  rw [line, List.drop_left]

theorem drop_behind (extra : Nat) :
    place.line.drop (place.front.length + 1 + extra) = place.rest.drop extra := by
  rw [Nat.add_assoc, ← List.drop_drop, place.drop, Nat.add_comm, List.drop_succ_cons]

theorem cut {extra : Nat} (hextra : extra <= place.rest.length) :
    place.line.cut place.front.length (place.front.length + 1 + extra : Nat) =
      place.head :: place.rest.take extra := by
  have hle : place.front.length + 1 + extra <= place.line.length := by
    rw [place.length_line]
    omega
  rw [Text.cut_natCast place.line (by omega) hle, List.drop_take, place.drop,
    show place.front.length + 1 + extra - place.front.length = extra + 1 by omega,
    List.take_succ_cons]

end Place

/-!
# Looking ahead
-/

section

theorem skip_eq (line : Text) (kind : Char -> Bool) (position : Nat) :
    skip line kind position = .ok (position + runLength kind (line.drop position)) := by
  fun_induction skip line kind position with
  | case1 position hlt ih =>
      rw [charAt, List.getElem?_eq_getElem hlt, List.drop_eq_getElem_cons hlt]
      generalize (line : List Char)[position] = c
      show (if kind c then skip line kind (position + 1) else pure position) = _
      rw [runLength, List.takeWhile_cons]
      cases hkind : kind c with
      | true =>
          rw [if_pos rfl, if_pos rfl, ih, runLength, List.length_cons]
          congr 1
          omega
      | false => rfl
  | case2 position hend =>
      rw [List.drop_eq_nil_of_le (Nat.le_of_not_lt hend)]
      rfl

theorem Place.skip (place : Place) {kind : Char -> Bool} (hkind : kind place.head) :
    LineLexer.skip place.line kind place.front.length =
      .ok (place.front.length + 1 + runLength kind place.rest) := by
  rw [skip_eq, place.drop, runLength, List.takeWhile_cons, if_pos hkind, List.length_cons,
    runLength]
  congr 1
  omega

theorem nextSignificant_eq (line : Text) (position : Nat) :
    nextSignificant line position = .ok ((line.drop position).dropWhile isBlank).head? := by
  rw [nextSignificant, skip_eq, ← drop_runLength, List.drop_drop]
  generalize position + runLength isBlank (line.drop position) = stop
  show (if stop < line.length then some <$> charAt line stop else pure none) = _
  split
  · rename_i hlt
    rw [charAt, List.getElem?_eq_getElem hlt, List.drop_eq_getElem_cons hlt]
    rfl
  · rename_i hend
    rw [List.drop_eq_nil_of_le (Nat.le_of_not_lt hend)]
    rfl

theorem commentEnd?_eq_splitAt? (text : Text) :
    commentEnd? text = (Text.splitAt? "*/".toList text).map fun (before, _) => before.length := by
  fun_induction commentEnd? text with
  | case1 => rfl
  | case2 rest => rfl
  | case3 c rest hopen ih =>
      have hmark : Text.dropStart? "*/".toList (c :: rest) = none := by
        cases hdrop : Text.dropStart? "*/".toList (c :: rest) with
        | none => rfl
        | some behind => exact absurd (Text.dropStart?_eq_some hdrop) (by simpa using hopen behind)
      rw [Text.splitAt?, hmark, ih]
      cases Text.splitAt? "*/".toList rest <;> rfl

theorem find?_eq (line : Text) (position : Nat) :
    find? line "*/".toList position =
      (commentEnd? (line.drop position)).map fun before => position + before := by
  rw [find?, commentEnd?_eq_splitAt?]
  cases Text.splitAt? "*/".toList (line.drop position) <;> rfl

end

/-!
# Loops
-/

section

variable {line : Text} {body : Cursor -> Except Fault (ForInStep Cursor)} {cursor next : Cursor}

theorem loop_end (hend : ¬ cursor.position < line.length) : loop line body cursor = .ok cursor := by
  rw [loop, if_neg hend]
  rfl

theorem loop_done (hlt : cursor.position < line.length) (hbody : body cursor = .ok (.done next)) :
    loop line body cursor = .ok next := by
  rw [loop, if_pos hlt, hbody]
  rfl

theorem loop_yield (hlt : cursor.position < line.length)
    (hbody : body cursor = .ok (.yield next)) (hnext : cursor.position < next.position) :
    loop line body cursor = loop line body next := by
  rw [loop, if_pos hlt, hbody]
  exact if_pos hnext

theorem loop_bind {action : Except Fault Cursor} (hlt : cursor.position < line.length)
    (hbody : body cursor = .yield <$> action)
    (hnext : forall next, action = .ok next -> cursor.position < next.position) :
    loop line body cursor = action >>= loop line body := by
  cases haction : action with
  | error fault =>
      rw [loop, if_pos hlt, hbody, haction]
      rfl
  | ok next =>
      rw [haction] at hbody
      rw [loop_yield hlt hbody (hnext next haction)]
      rfl

theorem position_le_of_loop
    (hdone : forall cursor next, body cursor = .ok (.done next) -> cursor.position <= next.position)
    (h : loop line body cursor = .ok next) : cursor.position <= next.position := by
  induction hleft : line.length - cursor.position using Nat.strongRecOn generalizing cursor with
  | ind left ih =>
      by_cases hlt : cursor.position < line.length
      · cases hbody : body cursor with
        | error fault =>
            rw [loop, if_pos hlt, hbody] at h
            cases h
        | ok found =>
            cases found with
            | done last =>
                rw [loop_done hlt hbody] at h
                cases h
                exact hdone _ _ hbody
            | yield later =>
                by_cases hlater : cursor.position < later.position
                · rw [loop_yield hlt hbody hlater] at h
                  have hle := ih (line.length - later.position) (by omega) h rfl
                  omega
                · rw [loop, if_pos hlt, hbody] at h
                  simp only [bind, Except.bind, if_neg hlater] at h
                  cases h
      · rw [loop_end hlt] at h
        cases h
        exact Nat.le_refl _

end

/-!
# What is still to do
-/

def cursorAt (state : State) (afterType : Bool) (position : Nat) (tokens : List RawToken) :
    Cursor :=
  { state.written with position, tokens, afterType }

def Cursor.behind (cursor : Cursor) (next : Step) : Cursor :=
  cursorAt next.state next.mode.afterType (cursor.position + 1 + next.extra)
    (cursor.tokens ++ [{
      start := cursor.position
      stop := (cursor.position + 1 + next.extra : Nat)
      scopes := (Scope.source :: next.inner).map Scope.raw }])

/-- What a mode leaves to the line lexer: the loops that the cursor is in, from the inside out. -/
def resume (line : Text) : Mode -> Cursor -> Except Fault Cursor
  | .lineStart, cursor => loop line (lexOn line) cursor
  | .code _, cursor => loop line (lexOn line) cursor
  | .lineComment, cursor => loop line (lexOn line) (lexLineComment line cursor)
  | .hexDigits, cursor => lexHexDigits line cursor >>= loop line (lexOn line)
  | .number, cursor => loop line (numberBody line) cursor >>= loop line (lexOn line)
  | .string interpolated, cursor =>
      loop line (stringBody line interpolated) cursor >>= loop line (lexOn line)
  | .interpolation, cursor =>
      lexInterpolation line cursor >>= loop line (stringBody line true) >>= loop line (lexOn line)
  | .hash, cursor =>
      (if cursor.position = 0 then lexPreprocessor line cursor else lexHash line cursor) >>=
        loop line (lexOn line)
  | .directive, cursor => lexDirective line cursor >>= loop line (lexOn line)
  | .preprocessor message, cursor =>
      loop line (preprocessorBody line message) cursor >>= loop line (lexOn line)

/-- What a mode leaves to do begins with the lexeme of a step. -/
def Takes (line : Text) (mode : Mode) (cursor : Cursor) (next : Step) : Prop :=
  resume line mode cursor = resume line next.mode (cursor.behind next)

theorem position_lt_behind (cursor : Cursor) (next : Step) :
    cursor.position < (cursor.behind next).position := by
  show cursor.position < cursor.position + 1 + next.extra
  omega

theorem loop_behind {line : Text} {body : Cursor -> Except Fault (ForInStep Cursor)}
    {cursor : Cursor} {next : Step} (hlt : cursor.position < line.length)
    (hbody : body cursor = .ok (.yield (cursor.behind next))) :
    loop line body cursor = loop line body (cursor.behind next) :=
  loop_yield hlt hbody (position_lt_behind cursor next)

def Place.cursor (place : Place) (state : State) (afterType : Bool) (tokens : List RawToken) :
    Cursor :=
  cursorAt state afterType place.front.length tokens

section

variable (place : Place) (state : State) (tokens : List RawToken)

theorem Place.cursor_lt (afterType : Bool) :
    (place.cursor state afterType tokens).position < place.line.length :=
  place.lt_length

theorem Place.charAt_cursor (afterType : Bool) :
    LineLexer.charAt place.line (place.cursor state afterType tokens).position = .ok place.head :=
  place.charAt

theorem Place.drop_cursor (afterType : Bool) :
    place.line.drop (place.cursor state afterType tokens).position = place.head :: place.rest :=
  place.drop

theorem Place.cut_word :
    place.line.cut (place.cursor state false tokens).position
        (place.front.length + 1 + runLength isWordChar place.rest : Nat) =
      place.head :: place.rest.take (runLength isWordChar place.rest) :=
  place.cut (runLength_le isWordChar place.rest)

theorem Place.skip_idle (afterType : Bool) {kind : Char -> Bool} (hkind : ¬ kind place.head) :
    LineLexer.skip place.line kind (place.cursor state afterType tokens).position =
      .ok (place.cursor state afterType tokens).position := by
  show LineLexer.skip place.line kind place.front.length = .ok place.front.length
  rw [skip_eq, place.drop, runLength, List.takeWhile_cons, if_neg hkind, List.length_nil,
    Nat.add_zero]

theorem Place.skip_cursor (afterType : Bool) {kind : Char -> Bool} (hkind : kind place.head) :
    LineLexer.skip place.line kind (place.cursor state afterType tokens).position =
      .ok (place.front.length + 1 + runLength kind place.rest) :=
  place.skip hkind

theorem takes_of_yield {line : Text} {mode : Mode}
    {body : Cursor -> Except Fault (ForInStep Cursor)} {later : Cursor -> Except Fault Cursor}
    {cursor : Cursor} {next : Step} (hlt : cursor.position < line.length)
    (hbody : body cursor = .ok (.yield (cursor.behind next)))
    (hmode : forall cursor, resume line next.mode cursor = loop line body cursor >>= later)
    (hloop : resume line mode cursor = loop line body cursor >>= later) :
    Takes line mode cursor next := by
  rw [Takes, hloop, loop_behind hlt hbody, hmode]

theorem takes_of_done {line : Text} {mode : Mode}
    {body : Cursor -> Except Fault (ForInStep Cursor)} {later : Cursor -> Except Fault Cursor}
    {cursor : Cursor} {next : Step} (hlt : cursor.position < line.length)
    (hbody : body cursor = .ok (.done (cursor.behind next)))
    (hmode : forall cursor, resume line next.mode cursor = later cursor)
    (hloop : resume line mode cursor = loop line body cursor >>= later) :
    Takes line mode cursor next := by
  rw [Takes, hloop, loop_done hlt hbody, hmode, ok_bind]

end

end LineLexer
end Mana
end ScopeProbe
