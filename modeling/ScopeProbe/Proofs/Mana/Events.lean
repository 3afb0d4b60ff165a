import ScopeProbe.Proofs.Mana.Tiling
import ScopeProbe.Proofs.Vocabulary

/-!
# The state told by the tokens

The state between two lines is no more than what the tokens before it have
told.  A token tells that a block comment opens or closes, that a declaration
waits for its name or has found it, or that a brace opens or closes; most
tokens tell nothing, above all those inside literals, comments and preprocessor
lines.
-/

namespace ScopeProbe
namespace Mana

/-!
# Events
-/

/-- What a token tells about the state behind it. -/
inductive Event where
  | commentOpens
  | commentCloses
  | keyword (kind : Declaration)
  | name (kind : Declaration)
  | braceOpens
  | braceCloses
  | nothing
  deriving DecidableEq, Repr

namespace State

def after (state : State) : Event -> State
  | .commentOpens => { state with inComment := true }
  | .commentCloses => { state with inComment := false }
  | .keyword kind => { state with pending := some kind }
  | .name kind => { state with pending := none, nextBlock := kind.block }
  | .braceOpens =>
      { state with blocks := state.nextBlock :: state.blocks, nextBlock := .plain }
  | .braceCloses => { state with blocks := state.blocks.tail }
  | .nothing => state

end State

namespace Event

def read {α : Type} [DecidableEq α] (name : Scope -> α) (text : Text) (names : List α) : Event :=
  let innermost := names.getLast?
  if names = [.source, .commentBlock, .punctuationDefinitionComment].map name then
    if text = "/*".toList then .commentOpens
    else if text = "*/".toList then .commentCloses
    else .nothing
  else
    match Declaration.all.find? fun kind => innermost = some (name kind.keywordScope) with
    | some kind => .keyword kind
    | none =>
        match Declaration.all.find? fun kind => innermost = some (name kind.nameScope) with
        | some kind => .name kind
        | none =>
            if innermost = some (name .punctuationCurlybraceOpen) then .braceOpens
            else if innermost = some (name .punctuationCurlybraceClose) then .braceCloses
            else .nothing

theorem read_map {α : Type} [DecidableEq α] {name : Scope -> α} (hname : Function.Injective name)
    (text : Text) (scopes : List Scope) :
    read name text (scopes.map name) = read id text scopes := by
  have hstack (stack : List Scope) : scopes.map name = stack.map name <-> scopes = stack :=
    (List.map_injective_iff.mpr hname).eq_iff
  have hinner (scope : Scope) :
      (scopes.map name).getLast? = some (name scope) <-> scopes.getLast? = some scope := by
    rw [List.getLast?_map]
    exact (Option.map_injective hname).eq_iff' rfl
  simp only [read, hstack, hinner, List.map_id, id]

def speaking : List Scope :=
  [.punctuationCurlybraceOpen, .punctuationCurlybraceClose] ++
    Declaration.all.map Declaration.keywordScope ++ Declaration.all.map Declaration.nameScope

/-- The scopes inside the root scope tell nothing whatever the text is. -/
def quiet (inner : List Scope) : Bool :=
  inner != [.commentBlock, .punctuationDefinitionComment] &&
    !speaking.contains (inner.getLast?.getD .source)

theorem read_of_quiet {inner : List Scope} (text : Text) (hquiet : quiet inner = true) :
    read id text (.source :: inner) = .nothing := by
  have hinnermost : (Scope.source :: inner).getLast? = some (inner.getLast?.getD .source) :=
    List.getLast?_cons
  simp [quiet, speaking, Declaration.all, Declaration.keywordScope,
    Declaration.nameScope] at hquiet
  simp [read, hinnermost, Declaration.all, Declaration.keywordScope,
    Declaration.nameScope, hquiet]

theorem read_keyword (text : Text) (kind : Declaration) :
    read id text [.source, kind.keywordScope] = .keyword kind := by
  cases kind <;> rfl

theorem read_name (text : Text) (kind : Declaration) :
    read id text [.source, kind.nameScope] = .name kind := by
  cases kind <;> rfl

/-- A token stands inside a literal, an interpolation, a preprocessor line or a comment, where the
marks of a block comment count as standing outside of it. -/
def Enclosed {α : Type} (name : Scope -> α) (names : List α) : Prop :=
  name .stringQuotedDouble ∈ names ∨ name .metaInterpolation ∈ names ∨
    name .metaPreprocessor ∈ names ∨ name .commentLineDoubleSlash ∈ names ∨
    names = [.source, .commentBlock].map name

theorem enclosed_map {α : Type} {name : Scope -> α} (hname : Function.Injective name)
    (scopes : List Scope) : Enclosed name (scopes.map name) <-> Enclosed id scopes := by
  simp only [Enclosed, List.mem_map_of_injective hname, (List.map_injective_iff.mpr hname).eq_iff,
    List.map_id, id]

end Event

/-!
# What a step tells

The lexeme of a step tells what the step does to the state, and tells nothing
if it is enclosed.
-/

/-- The lexeme of a step with its text tells what the step does. -/
structure Told (state : State) (text : Text) (next : Step) : Prop where
  state_eq : next.state = state.after (Event.read id text (.source :: next.inner))
  enclosed : Event.Enclosed id (.source :: next.inner) ->
    Event.read id text (.source :: next.inner) = .nothing

namespace Told

variable {state : State} {text : Text} {next : Step}

theorem of_quiet (hstate : next.state = state) (hquiet : Event.quiet next.inner = true) :
    Told state text next := by
  have hnothing := Event.read_of_quiet text hquiet
  constructor
  · rw [hnothing]
    exact hstate
  · intro _henclosed
    exact hnothing

theorem of_single {scope : Scope} (hinner : next.inner = [scope])
    (hstate : next.state = state.after (Event.read id text [.source, scope])) :
    Told state text next := by
  constructor
  · rw [hinner]
    exact hstate
  · rw [hinner]
    intro henclosed
    apply Event.read_of_quiet
    simp [Event.Enclosed] at henclosed
    rcases henclosed with rfl | rfl | rfl | rfl | rfl <;> rfl

theorem of_mark (hinner : next.inner = [.commentBlock, .punctuationDefinitionComment])
    (hstate : next.state = state.after (Event.read id text
      [.source, .commentBlock, .punctuationDefinitionComment])) :
    Told state text next := by
  constructor
  · rw [hinner]
    exact hstate
  · rw [hinner]
    intro henclosed
    simp [Event.Enclosed] at henclosed

end Told

/-!
The tables hold no scopes that tell anything but those of declarations and of
braces.
-/

theorem mem_of_lookup {α β : Type} [BEq α] [LawfulBEq α] {table : List (α × β)} {key : α}
    {value : β} (h : table.lookup key = some value) : (key, value) ∈ table := by
  rcases List.lookup_eq_some_iff.mp h with ⟨front, back, rfl, _hfirst⟩
  exact List.mem_append_right front List.mem_cons_self

theorem quiet_operators :
    forall entry, entry ∈ operators -> Event.quiet [entry.2] = true := by
  decide

theorem quiet_keywords :
    forall entry, entry ∈ keywords -> Event.quiet [entry.2] = true := by
  decide

theorem quiet_directives :
    forall entry, entry ∈ directives -> Event.quiet [.metaPreprocessor, entry.2] = true := by
  decide

theorem quiet_of_reserved_keyword {word : Text} {scope : Scope}
    (h : reserved? word = some (.keyword scope)) : Event.quiet [scope] = true := by
  have hmem : (word, Reserved.keyword scope) ∈ reservedWords := mem_of_lookup h
  have hkeyword : (word, scope) ∈ keywords := by
    simpa [reservedWords] using hmem
  exact quiet_keywords _ hkeyword

section Steps

variable (state : State) (c : Char) (rest : Text)

theorem commentEnd?_eq_zero {text : Text} (h : commentEnd? text = some 0) :
    exists more, text = '*' :: '/' :: more := by
  fun_cases commentEnd? text with
  | case1 => cases h
  | case2 more => exact ⟨more, rfl⟩
  | case3 d more hopen =>
      rw [commentEnd?] at h
      · simp at h
      · exact hopen

abbrev taken (c : Char) (rest : Text) (next : Step) : Text :=
  c :: rest.take next.extra

theorem commentStep_told :
    Told state (taken c rest (commentStep state c rest)) (commentStep state c rest) := by
  unfold commentStep
  split
  · exact Told.of_quiet rfl rfl
  · rename_i hend
    rcases commentEnd?_eq_zero hend with ⟨more, hmark⟩
    cases hmark
    exact Told.of_mark rfl rfl
  · exact Told.of_quiet rfl rfl

theorem wordStep_told (afterType : Bool) :
    Told state (taken c rest (wordStep state afterType c rest))
      (wordStep state afterType c rest) := by
  simp only [wordStep]
  split
  · rename_i word hword
    cases word with
    | modifier => exact Told.of_single rfl rfl
    | declaration kind =>
        apply Told.of_single rfl
        show _ = state.after (Event.read id _ [.source, kind.keywordScope])
        rw [Event.read_keyword]
        rfl
    | primitive => exact Told.of_single rfl rfl
    | var => exact Told.of_single rfl rfl
    | keyword scope => exact Told.of_quiet rfl (quiet_of_reserved_keyword hword)
  · split
    · rename_i kind _hkind
      apply Told.of_single rfl
      rw [Event.read_name]
      rfl
    · refine Told.of_quiet rfl ?_
      simp only [identifierScope]
      split_ifs <;> rfl

theorem numberStart_told (text : Text) : Told state text (numberStart state c rest) := by
  unfold numberStart
  split <;> exact Told.of_quiet rfl rfl

theorem symbolStep_told (text : Text) : Told state text (symbolStep state c rest) := by
  unfold symbolStep
  split
  · rename_i operator scope hfound
    exact Told.of_quiet rfl (quiet_operators _ (List.mem_of_find?_eq_some hfound))
  · split
    · rename_i scope hscope
      have hmark : (c, scope) ∈ punctuation := mem_of_lookup hscope
      simp only [punctuation, List.mem_cons, Prod.mk.injEq, List.not_mem_nil, or_false] at hmark
      rcases hmark with ⟨rfl, rfl⟩ | ⟨rfl, rfl⟩ | ⟨rfl, rfl⟩ | ⟨rfl, rfl⟩ | ⟨rfl, rfl⟩ |
        ⟨rfl, rfl⟩ | ⟨rfl, rfl⟩ | ⟨rfl, rfl⟩ | ⟨rfl, rfl⟩ <;>
        exact Told.of_single rfl rfl
    · exact Told.of_quiet rfl rfl

theorem codeStep_told (afterType : Bool) :
    Told state (taken c rest (codeStep state afterType c rest))
      (codeStep state afterType c rest) := by
  unfold codeStep
  split_ifs with _hcomment hline hblock
  · exact commentStep_told state c rest
  · exact Told.of_quiet rfl rfl
  · rcases hblock with ⟨rfl, hstar⟩
    cases rest with
    | nil => cases hstar
    | cons d more =>
        cases hstar
        exact Told.of_mark rfl rfl
  · exact Told.of_quiet rfl rfl
  · exact Told.of_quiet rfl rfl
  · exact numberStart_told state c rest _
  · exact wordStep_told state c rest afterType
  · exact symbolStep_told state c rest _

theorem blankOrCodeStep_told (atStart afterType : Bool) :
    Told state (taken c rest (blankOrCodeStep state atStart afterType c rest))
      (blankOrCodeStep state atStart afterType c rest) := by
  simp only [blankOrCodeStep]
  split
  · refine Told.of_quiet rfl ?_
    simp only [leadingBlanks]
    split_ifs <;> rfl
  · exact codeStep_told state c rest afterType

theorem hexStep_told : Told state (taken c rest (hexStep state c rest)) (hexStep state c rest) := by
  unfold hexStep
  split
  · exact Told.of_quiet rfl rfl
  · exact blankOrCodeStep_told state c rest false false

theorem numberStep_told :
    Told state (taken c rest (numberStep state c rest)) (numberStep state c rest) := by
  unfold numberStep
  split_ifs
  · exact Told.of_quiet rfl rfl
  · exact Told.of_quiet rfl rfl
  · exact Told.of_quiet rfl rfl
  · exact Told.of_quiet rfl rfl
  · exact blankOrCodeStep_told state c rest false false

theorem stringStep_told (text : Text) (interpolated : Bool) :
    Told state text (stringStep state interpolated c rest) := by
  unfold stringStep
  split_ifs <;> exact Told.of_quiet rfl rfl

theorem interpolationStep_told (text : Text) :
    Told state text (interpolationStep state c rest) := by
  unfold interpolationStep
  split_ifs <;> exact Told.of_quiet rfl rfl

theorem hashStep_told (text : Text) : Told state text (hashStep state c rest) := by
  unfold hashStep
  split <;> exact Told.of_quiet rfl rfl

theorem preprocessorStep_told (text : Text) (message : Bool) :
    Told state text (preprocessorStep state message c rest) := by
  unfold preprocessorStep
  split_ifs <;> exact Told.of_quiet rfl rfl

theorem directiveStep_told (text : Text) : Told state text (directiveStep state c rest) := by
  simp only [directiveStep]
  split
  · refine Told.of_quiet rfl ?_
    show Event.quiet (.metaPreprocessor :: (directives.lookup _).toList) = true
    cases hdirective : directives.lookup (c :: rest.take (runLength isWordChar rest)) with
    | none => rfl
    | some scope => exact quiet_directives _ (mem_of_lookup hdirective)
  · exact preprocessorStep_told state c rest text false

theorem step_told (mode : Mode) :
    Told state (taken c rest (step state mode c rest)) (step state mode c rest) := by
  cases mode with
  | lineStart => exact blankOrCodeStep_told state c rest true false
  | code afterType => exact blankOrCodeStep_told state c rest false afterType
  | lineComment => exact Told.of_quiet rfl rfl
  | hexDigits => exact hexStep_told state c rest
  | number => exact numberStep_told state c rest
  | string interpolated => exact stringStep_told state c rest _ interpolated
  | interpolation => exact interpolationStep_told state c rest _
  | hash => exact hashStep_told state c rest _
  | directive => exact directiveStep_told state c rest _
  | preprocessor message => exact preprocessorStep_told state c rest _ message

end Steps

/-!
# What a run tells

By induction over the moments of a line, and then over the lines, the state at
the end is the fold of all that has been told.
-/

def Lexeme.event (lexeme : Lexeme) : Event :=
  Event.read id lexeme.text lexeme.scopes

theorem Moment.told (moment : Moment) :
    Told moment.state moment.lexeme.text moment.step :=
  step_told moment.state moment.head moment.rest moment.mode

theorem Moment.step_state (moment : Moment) :
    moment.step.state = moment.state.after moment.lexeme.event :=
  moment.told.state_eq

theorem scan_state (state : State) (mode : Mode) (text : Text) :
    (scan state mode 0 text).2 =
      ((scan state mode 0 text).1.map Lexeme.event).foldl State.after state := by
  induction state, mode, text using moment_induction with
  | done state mode => rfl
  | next moment ih =>
      rw [scan_moment, List.map_cons, List.foldl_cons, ← moment.step_state]
      exact ih

theorem event_of_enclosed {state : State} {line : Text} {lexeme : Lexeme}
    (hlexeme : lexeme ∈ (lexLine state line).1) (henclosed : Event.Enclosed id lexeme.scopes) :
    lexeme.event = .nothing := by
  rw [lexLine_fst] at hlexeme
  rcases List.mem_map.mp hlexeme with ⟨moment, _hmoment, rfl⟩
  exact moment.told.enclosed henclosed

def Event.ofEntry (entry : Text × List String) : Event :=
  read Scope.raw entry.1 entry.2

theorem Event.ofEntry_entry (lexeme : Lexeme) : ofEntry lexeme.entry = lexeme.event :=
  read_map Scope.raw_injective lexeme.text lexeme.scopes

theorem foldl_events_line (state : State) (line : Text) :
    (((lexLine state line).1.map Lexeme.entry).map Event.ofEntry).foldl State.after state =
      (lexLine state line).2 := by
  have hevents : Event.ofEntry ∘ Lexeme.entry = Lexeme.event :=
    funext Event.ofEntry_entry
  rw [List.map_map, hevents]
  exact (scan_state state (startMode state line) line).symm

/-- The state behind any lines is the fold of what their tokens tell, read from texts and scopes
alone.  Tokens inside literals, interpolations, comments and preprocessor lines tell nothing. -/
theorem state_told_by_tokens (state : State) (lines : List Text) :
    grammar.stateAfter (some state) lines =
        some (((grammar.emitted (some state) lines).map Event.ofEntry).foldl
          State.after state) ∧
      forall entry, entry ∈ grammar.emitted (some state) lines ->
        Event.Enclosed Scope.raw entry.2 -> Event.ofEntry entry = .nothing := by
  induction lines generalizing state with
  | nil =>
      constructor
      · rfl
      · intro entry hentry
        cases hentry
  | cons line more ih =>
      rcases ih (lexLine state line).2 with ⟨hstate, hquiet⟩
      rw [emitted_grammar]
      constructor
      · rw [List.map_append, List.foldl_append, foldl_events_line, ← hstate]
        rfl
      · intro entry hentry henclosed
        rcases List.mem_append.mp hentry with hline | hlater
        · rcases List.mem_map.mp hline with ⟨lexeme, hlexeme, rfl⟩
          rw [Event.ofEntry_entry]
          exact event_of_enclosed hlexeme
            ((Event.enclosed_map Scope.raw_injective lexeme.scopes).mp henclosed)
        · exact hquiet entry hlater henclosed

end Mana
end ScopeProbe
