import ScopeProbe.Proofs.Mana.Moments
import ScopeProbe.Proofs.Runs

/-!
# Tokens tile their line

The tokens of a line follow each other without gaps from its start to its end,
none of them is empty, and together their texts are the line.
-/

namespace ScopeProbe

/-!
# Tilings
-/

/-- Tokens that follow each other without gaps and cover the positions from a start to a stop,
each of them at least one. -/
inductive Tiles : Int -> List RawToken -> Int -> Prop where
  | nil (position : Int) : Tiles position [] position
  | cons {start stop : Int} {token : RawToken} {more : List RawToken} :
      token.start = start -> token.start < token.stop ->
        Tiles token.stop more stop -> Tiles start (token :: more) stop

def RawToken.entryIn (line : Text) (token : RawToken) : Text × List String :=
  (token.textIn line, token.scopes)

theorem Text.cut_self (text : Text) (position : Int) : text.cut position position = [] := by
  rw [cut, List.drop_eq_nil_iff]
  exact List.length_take_le _ _

theorem Text.cut_middle (front piece back : Text) :
    Text.cut (front ++ (piece ++ back)) front.length
        ((front.length + piece.length : Nat) : Int) = piece := by
  rw [cut_natCast _ (Nat.le_add_right _ _) (by simp), ← List.append_assoc,
    ← List.length_append, List.take_left, List.drop_left]

namespace Mana

namespace Lexeme

def entry (lexeme : Lexeme) : Text × List String :=
  (lexeme.text, lexeme.scopes.map Scope.raw)

theorem tiles_rawTokens (start : Nat) (lexemes : List Lexeme)
    (hpos : forall lexeme, lexeme ∈ lexemes -> 0 < lexeme.text.length) :
    Tiles start (rawTokens start lexemes)
      ((start + (lexemes.map text).flatten.length : Nat) : Int) := by
  induction lexemes generalizing start with
  | nil => exact Tiles.nil _
  | cons lexeme more ih =>
      have hlexeme : 0 < lexeme.text.length := hpos lexeme List.mem_cons_self
      have hmore := ih (start + lexeme.text.length)
        (fun other hother => hpos other (List.mem_cons_of_mem _ hother))
      rw [Nat.add_assoc, ← List.length_append] at hmore
      have hwidth : (start : Int) < ((start + lexeme.text.length : Nat) : Int) := by
        omega
      exact Tiles.cons rfl hwidth hmore

theorem map_entry_rawTokens (front : Text) (lexemes : List Lexeme) :
    (rawTokens front.length lexemes).map
        (fun token => (token.textIn (front ++ (lexemes.map text).flatten), token.scopes)) =
      lexemes.map entry := by
  induction lexemes generalizing front with
  | nil => rfl
  | cons lexeme more ih =>
      have htext := Text.cut_middle front lexeme.text (more.map text).flatten
      have hmore := ih (front ++ lexeme.text)
      rw [List.length_append, List.append_assoc] at hmore
      rw [rawTokens, List.map_cons, List.map_cons, List.flatten_cons, List.map_cons, hmore]
      congr 1
      exact Prod.ext htext rfl

theorem map_width_rawTokens (start : Nat) (lexemes : List Lexeme) :
    (rawTokens start lexemes).map (fun token => token.stop - token.start) =
      lexemes.map fun lexeme => (lexeme.text.length : Int) := by
  induction lexemes generalizing start with
  | nil => rfl
  | cons lexeme more ih =>
      rw [rawTokens, List.map_cons, List.map_cons, ih]
      congr 1
      show ((start + lexeme.text.length : Nat) : Int) - (start : Int) = lexeme.text.length
      omega

theorem mem_rawTokens_scopes {start : Nat} {lexemes : List Lexeme} {token : RawToken}
    (htoken : token ∈ rawTokens start lexemes) :
    exists lexeme, lexeme ∈ lexemes ∧ token.scopes = lexeme.scopes.map Scope.raw := by
  induction lexemes generalizing start with
  | nil => cases htoken
  | cons lexeme more ih =>
      rcases List.mem_cons.mp htoken with rfl | hlater
      · exact ⟨lexeme, List.mem_cons_self, rfl⟩
      · rcases ih hlater with ⟨other, hother, hscopes⟩
        exact ⟨other, List.mem_cons_of_mem _ hother, hscopes⟩

end Lexeme

/-!
# The tokens of a line
-/

theorem grammar_tokens (line : Text) (before : Option State) :
    (grammar line before).tokens =
      Lexeme.rawTokens 0 (lexLine (before.getD {}) line).1 := rfl

theorem grammar_state (line : Text) (before : Option State) :
    (grammar line before).state = (lexLine (before.getD {}) line).2 := rfl

theorem lexLine_fst (state : State) (line : Text) :
    (lexLine state line).1 = (lineMoments state line).map Moment.lexeme :=
  scan_fst state (startMode state line) line

theorem map_entry_tokens (line : Text) (before : Option State) :
    (grammar line before).tokens.map (fun token => (token.textIn line, token.scopes)) =
      (lexLine (before.getD {}) line).1.map Lexeme.entry := by
  have hcut := Lexeme.map_entry_rawTokens [] (lexLine (before.getD {}) line).1
  rw [List.nil_append, flatten_texts_lexLine] at hcut
  rw [grammar_tokens]
  exact hcut

theorem emitted_grammar (state : State) (line : Text) (more : List Text) :
    grammar.emitted (some state) (line :: more) =
      (lexLine state line).1.map Lexeme.entry ++
        grammar.emitted (some (lexLine state line).2) more := by
  rw [Grammar.emitted_cons, map_entry_tokens]
  rfl

theorem mem_emitted {state : State} {lines : List Text} {entry : Text × List String}
    (hentry : entry ∈ grammar.emitted (some state) lines) :
    exists lexeme : Lexeme, lexeme.entry = entry := by
  induction lines generalizing state with
  | nil => cases hentry
  | cons line more ih =>
      rw [emitted_grammar] at hentry
      rcases List.mem_append.mp hentry with hline | hlater
      · rcases List.mem_map.mp hline with ⟨lexeme, _hlexeme, hentry⟩
        exact ⟨lexeme, hentry⟩
      · exact ih hlater

/-- The tokens of a line tile it, and none of its characters is lost.  Each token is as wide as the
step that took it asked for, and all of them stand in the root scope. -/
theorem tokens_tile_line (line : Text) (before : Option State) :
    Tiles 0 (grammar line before).tokens line.length ∧
      ((grammar line before).tokens = [] <-> line = []) ∧
      (grammar line before).tokens.map (fun token => token.stop - token.start) =
        (lineMoments (before.getD {}) line).map (fun moment => (moment.step.extra : Int) + 1) ∧
      (forall token, token ∈ (grammar line before).tokens ->
        exists inner, token.scopes = "source.mana" :: inner) ∧
      ((grammar line before).tokens.map fun token => token.textIn line).flatten = line := by
  have hlexemes := lexLine_fst (before.getD {}) line
  have hflatten := flatten_texts_lexLine (before.getD {}) line
  have hpos : forall lexeme, lexeme ∈ (lexLine (before.getD {}) line).1 ->
      0 < lexeme.text.length := by
    intro lexeme hlexeme
    rw [hlexemes] at hlexeme
    rcases List.mem_map.mp hlexeme with ⟨moment, _hmoment, rfl⟩
    rw [Moment.length_lexeme_text]
    exact Nat.succ_pos _
  have htexts :
      ((grammar line before).tokens.map fun token => token.textIn line).flatten = line := by
    have hentries := congrArg (List.map Prod.fst) (map_entry_tokens line before)
    rw [List.map_map, List.map_map] at hentries
    calc
      ((grammar line before).tokens.map fun token => token.textIn line).flatten =
          ((lexLine (before.getD {}) line).1.map Lexeme.text).flatten :=
        congrArg List.flatten hentries
      _ = line := hflatten
  refine ⟨?_, ?_, ?_, ?_, htexts⟩
  · have htiles := Lexeme.tiles_rawTokens 0 _ hpos
    rw [hflatten, Nat.zero_add] at htiles
    exact htiles
  · constructor
    · intro hnone
      rw [← htexts, hnone]
      rfl
    · rintro rfl
      rw [grammar_tokens, lexLine, scan_nil]
      rfl
  · rw [grammar_tokens, Lexeme.map_width_rawTokens, hlexemes, List.map_map]
    apply List.map_congr_left
    intro moment _hmoment
    show (moment.lexeme.text.length : Int) = moment.step.extra + 1
    rw [Moment.length_lexeme_text]
    omega
  · intro token htoken
    rcases Lexeme.mem_rawTokens_scopes htoken with ⟨lexeme, _hlexeme, hscopes⟩
    exact ⟨lexeme.inner.map Scope.raw, hscopes⟩

/-!
# Tokens in the midst of a line
-/

def Lexeme.width (lexemes : List Lexeme) : Nat :=
  (lexemes.map text).flatten.length

def Lexeme.tokenAt (start : Nat) (lexeme : Lexeme) : RawToken where
  start := start
  stop := (start + lexeme.text.length : Nat)
  scopes := lexeme.scopes.map Scope.raw

theorem rawTokens_append (start : Nat) (front back : List Lexeme) :
    Lexeme.rawTokens start (front ++ back) =
      Lexeme.rawTokens start front ++
        Lexeme.rawTokens (start + (front.map Lexeme.text).flatten.length) back := by
  induction front generalizing start with
  | nil => rfl
  | cons lexeme more ih =>
      rw [List.cons_append, Lexeme.rawTokens, Lexeme.rawTokens, ih, List.map_cons,
        List.flatten_cons, List.length_append, Nat.add_assoc]
      rfl

theorem Lexeme.length_rawTokens (start : Nat) (lexemes : List Lexeme) :
    (rawTokens start lexemes).length = lexemes.length := by
  induction lexemes generalizing start with
  | nil => rfl
  | cons lexeme more ih => rw [rawTokens, List.length_cons, List.length_cons, ih]

theorem Lexeme.rawTokens_split {start : Nat} {lexemes : List Lexeme}
    {front back : List RawToken} (h : rawTokens start lexemes = front ++ back) :
    exists old new, lexemes = old ++ new ∧ front = rawTokens start old ∧
      back = rawTokens (start + width old) new := by
  induction front generalizing start lexemes with
  | nil => exact ⟨[], lexemes, rfl, rfl, h.symm⟩
  | cons first more ih =>
      cases lexemes with
      | nil => cases h
      | cons lexeme others =>
          injection h with hfirst hmore
          rcases ih hmore with ⟨old, new, rfl, rfl, rfl⟩
          refine ⟨lexeme :: old, new, rfl, ?_, ?_⟩
          · rw [← hfirst]
            rfl
          · have hwidth : width (lexeme :: old) = lexeme.text.length + width old :=
              List.length_append
            rw [hwidth, Nat.add_assoc]

theorem moments_of_tokens {before : Option State} {line : Text} {front back : List RawToken}
    {token : RawToken} (h : (grammar line before).tokens = front ++ token :: back) :
    exists (passed coming : List Moment) (moment : Moment),
      lineMoments (before.getD {}) line = passed ++ moment :: coming ∧
        front = Lexeme.rawTokens 0 (passed.map Moment.lexeme) ∧
        token = moment.lexeme.tokenAt (Lexeme.width (passed.map Moment.lexeme)) ∧
        back = Lexeme.rawTokens
          (Lexeme.width (passed.map Moment.lexeme) + moment.lexeme.text.length)
          (coming.map Moment.lexeme) := by
  rw [grammar_tokens, lexLine_fst] at h
  rcases Lexeme.rawTokens_split h with ⟨old, new, hlexemes, hfront, hback⟩
  rcases List.map_eq_append_iff.mp hlexemes with ⟨passed, others, hmoments, rfl, rfl⟩
  rw [Nat.zero_add] at hback
  cases others with
  | nil => cases hback
  | cons moment coming =>
      injection hback with htoken hmore
      exact ⟨passed, coming, moment, hmoments, hfront, htoken, hmore⟩

theorem moment_of_token {before : Option State} {line : Text} {front back : List RawToken}
    {token : RawToken} (htokens : (grammar line before).tokens = front ++ token :: back) :
    exists (passed coming : List Moment) (moment : Moment),
      lineMoments (before.getD {}) line = passed ++ moment :: coming ∧
        front.map (RawToken.entryIn line) = passed.map (fun other => other.lexeme.entry) ∧
        token.entryIn line = moment.lexeme.entry ∧
        line.drop token.stop.toNat = moment.behind := by
  have hentries : (grammar line before).tokens.map (RawToken.entryIn line) =
      (lexLine (before.getD {}) line).1.map Lexeme.entry := map_entry_tokens line before
  rcases moments_of_tokens htokens with ⟨passed, coming, moment, hmoments, rfl, rfl, _hback⟩
  rw [htokens, lexLine_fst, hmoments, List.map_map, List.map_append, List.map_append,
    List.map_cons, List.map_cons] at hentries
  rcases List.append_inj hentries (by simp [Lexeme.length_rawTokens]) with ⟨hfront, hback⟩
  refine ⟨passed, coming, moment, hmoments, hfront, ?_, ?_⟩
  · injection hback
  · have hline := text_of_moments_append hmoments
    rw [← moment.text_append_behind, ← List.append_assoc] at hline
    have hdrop : line.drop ((passed.map fun other => other.lexeme.text).flatten ++
        moment.lexeme.text).length = moment.behind := by
      rw [hline]
      exact List.drop_left
    rw [Lexeme.tokenAt, Int.toNat_natCast, Lexeme.width, ← List.length_append, List.map_map]
    exact hdrop

/-!
# Tilings by moments
-/

theorem length_pos_of_mem_map {moments : List Moment} {lexeme : Lexeme}
    (hlexeme : lexeme ∈ moments.map Moment.lexeme) : 0 < lexeme.text.length := by
  rcases List.mem_map.mp hlexeme with ⟨moment, _hmoment, rfl⟩
  rw [Moment.length_lexeme_text]
  exact Nat.succ_pos _

theorem length_pos_of_mem_scan {state : State} {mode : Mode} {text : Text} {lexeme : Lexeme}
    (hlexeme : lexeme ∈ (scan state mode 0 text).1) : 0 < lexeme.text.length := by
  rw [scan_fst] at hlexeme
  exact length_pos_of_mem_map hlexeme

theorem tiles_scan (start : Nat) (state : State) (mode : Mode) (text : Text) :
    Tiles start (Lexeme.rawTokens start (scan state mode 0 text).1)
      ((start + text.length : Nat) : Int) := by
  have htiles := Lexeme.tiles_rawTokens start (scan state mode 0 text).1
    (fun _lexeme hlexeme => length_pos_of_mem_scan hlexeme)
  rw [flatten_texts_scan] at htiles
  exact htiles

theorem tiles_passed (passed : List Moment) :
    Tiles 0 (Lexeme.rawTokens 0 (passed.map Moment.lexeme))
      (Lexeme.width (passed.map Moment.lexeme)) := by
  have htiles := Lexeme.tiles_rawTokens 0 (passed.map Moment.lexeme)
    (fun _lexeme hlexeme => length_pos_of_mem_map hlexeme)
  rw [Nat.zero_add] at htiles
  exact htiles

end Mana
end ScopeProbe
