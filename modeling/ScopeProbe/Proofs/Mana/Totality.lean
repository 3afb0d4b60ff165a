import ScopeProbe.Proofs.Mana.LineLexer
import ScopeProbe.Proofs.Mana.Surroundings

/-!
# No reading fails

The line lexer writes out nothing that is outside of the vocabulary, so the
tokens of any lines in any span can be classified.  From no state it reaches only
states in which a waiting declaration is one of the table and every block has one
of four names, and there it finds whatever it looks up.
-/

namespace ScopeProbe
namespace Mana

/-!
# Names of the vocabulary
-/

theorem texts_visit {index : Nat} {before : Option State} {lines : List Text}
    {visit : Visit State} (hvisit : visit ∈ grammar.visits index before lines) :
    visit.texts =
      (lexLine (visit.call.before.getD {}) visit.call.line).1.map Lexeme.entry := by
  rw [Visit.texts, grammar.tokens_visits hvisit, map_entry_tokens]

theorem moment_of_mem_texts {index : Nat} {before : Option State} {lines : List Text}
    {visit : Visit State} (hvisit : visit ∈ grammar.visits index before lines)
    {entry : Text × List String} (hentry : entry ∈ visit.texts) :
    exists moment : Moment, moment.lexeme.entry = entry := by
  rw [texts_visit hvisit, lexLine_fst] at hentry
  rcases List.mem_map.mp hentry with ⟨lexeme, hlexeme, rfl⟩
  rcases List.mem_map.mp hlexeme with ⟨moment, _hmoment, rfl⟩
  exact ⟨moment, rfl⟩

theorem moment_of_mem_emitted {before : Option State} {lines : List Text}
    {entry : Text × List String} (hentry : entry ∈ grammar.emitted before lines) :
    exists moment : Moment, moment.lexeme.entry = entry := by
  rcases List.mem_flatMap.mp hentry with ⟨visit, hvisit, htext⟩
  exact moment_of_mem_texts hvisit htext

theorem moment_of_mem_keptLexemes {span : Span} {index : Nat} {before : Option State}
    {lines : List Text} {lexeme : Text × String}
    (hlexeme : lexeme ∈ Excerpt.keptLexemes span (grammar.visits index before lines)) :
    exists moment : Moment, heard moment.lexeme.entry = lexeme := by
  rcases List.mem_flatMap.mp hlexeme with ⟨visit, hvisit, hkept⟩
  rcases List.mem_map.mp hkept with ⟨token, htoken, rfl⟩
  have hentry : token.entryIn visit.call.line ∈ visit.texts :=
    List.mem_map_of_mem (List.mem_of_mem_filter htoken)
  rcases moment_of_mem_texts hvisit hentry with ⟨moment, hmoment⟩
  exact ⟨moment, congrArg heard hmoment⟩

theorem known_of_mem_keptLexemes {span : Span} {index : Nat} {before : Option State}
    {lines : List Text} {lexeme : Text × String}
    (hlexeme : lexeme ∈ Excerpt.keptLexemes span (grammar.visits index before lines)) :
    exists scope : Scope, lexeme.2 = scope.raw := by
  rcases moment_of_mem_keptLexemes hlexeme with ⟨moment, rfl⟩
  exact moment.lexeme.heard_entry

theorem classify_grammar (excerpt : Excerpt) (excludeCarriers : Bool) :
    exists tokens, excerpt.classify grammar excludeCarriers = .ok tokens ∧
      tokens.map Token.spelled =
        (Excerpt.keptLexemes excerpt.span (grammar.visits 0 none excerpt.lines)).filter
          fun lexeme => !(excludeCarriers && carrierNames.contains lexeme.2) := by
  have htold := Excerpt.classify_of_known grammar excludeCarriers excerpt
    (fun lexeme hlexeme => known_of_mem_keptLexemes hlexeme)
  cases houtcome : excerpt.classify grammar excludeCarriers with
  | error failure =>
      rw [houtcome] at htold
      cases htold
  | ok tokens =>
      rw [houtcome] at htold
      exact ⟨tokens, rfl, Except.ok.inj htold⟩

namespace LineLexer

/-!
# Reachable states
-/

/-- The states that lines leave behind, with no line in front at first. -/
inductive Reachable : RuleStack -> Prop
  | start : Reachable {}
  | next {stack : RuleStack} {line : Text} {result : LineResult RuleStack} :
      Reachable stack -> lexLine line stack = .ok result -> Reachable result.state

def blockNames : List String := ["type", "enum", "namespace", "block"]

/-- A declaration that waits for its name is in the table, and all blocks have names among the
four. -/
structure RuleStack.Sound (stack : RuleStack) : Prop where
  pending : forall word, stack.pending = some word ->
    exists body, bodies.lookup word = some body ∧ body ∈ blockNames
  nextBlock : stack.nextBlock ∈ blockNames
  blocks : forall block, block ∈ stack.blocks -> block ∈ blockNames

def Settled (state : State) : Prop :=
  state.All fun block => block.name ∈ blockNames

theorem settled_block (declaration : Declaration) : declaration.block.name ∈ blockNames := by
  cases declaration <;> decide

theorem Settled.written {state : State} (h : Settled state) : state.written.Sound where
  pending := by
    intro word hword
    rcases Option.map_eq_some_iff.mp hword with ⟨kind, _hkind, rfl⟩
    exact ⟨kind.block.name, lookup_bodies_keyword kind, settled_block kind⟩
  nextBlock := h.nextBlock
  blocks := by
    intro name hname
    rcases List.mem_map.mp (List.mem_reverse.mp hname) with ⟨block, hblock, rfl⟩
    exact h.blocks block hblock

theorem RuleStack.Sound.exists_state {stack : RuleStack} (h : stack.Sound) :
    exists state : State, state.written = stack ∧ state.Proper ∧ Settled state := by
  rcases stack with ⟨inComment, names, pending, next⟩
  have hpending : exists waiting : Option Declaration,
      waiting.map (fun kind => kind.keyword.toList) = pending := by
    cases pending with
    | none => exact ⟨none, rfl⟩
    | some word =>
        rcases h.pending word rfl with ⟨body, hbody, _hname⟩
        rw [lookup_bodies] at hbody
        rcases Option.map_eq_some_iff.mp hbody with ⟨kind, hkind, _hblock⟩
        exact ⟨some kind, by rw [keyword_of_declared? hkind, Option.map_some]⟩
  rcases hpending with ⟨waiting, rfl⟩
  have hnames : names.map (Block.name ∘ Block.ofName) = names := by
    rw [show Block.name ∘ Block.ofName = id from funext Block.name_ofName, List.map_id]
  refine ⟨⟨inComment, (names.map Block.ofName).reverse, waiting, Block.ofName next⟩, ?_, ?_, ?_⟩
  · simp only [State.written, List.map_reverse, List.map_map, List.reverse_reverse, hnames,
      Block.name_ofName]
  · refine ⟨congrArg Block.ofName (Block.name_ofName next), ?_⟩
    intro block hblock
    rcases List.mem_map.mp (List.mem_reverse.mp hblock) with ⟨name, _hname, rfl⟩
    rw [Block.name_ofName]
  · refine ⟨?_, ?_⟩
    · rw [Block.name_ofName]
      exact h.nextBlock
    · intro block hblock
      rcases List.mem_map.mp (List.mem_reverse.mp hblock) with ⟨name, hname, rfl⟩
      rw [Block.name_ofName]
      exact h.blocks name hname

theorem RuleStack.Sound.lexLine {stack : RuleStack} (h : stack.Sound) (line : Text) :
    exists result, LineLexer.lexLine line stack = .ok result ∧ result.state.Sound ∧
      forall token, token ∈ result.tokens -> token.scopes ≠ [] ∧
        forall name, name ∈ token.scopes -> exists scope, Scope.ofRaw? name = some scope := by
  rcases h.exists_state with ⟨state, rfl, hproper, hsettled⟩
  have hlater : Settled (Mana.lexLine state line).2 :=
    State.All.lexLine hsettled (by decide) settled_block line
  refine ⟨_, lexLine_written hproper line, hlater.written, ?_⟩
  intro token htoken
  rcases Lexeme.mem_rawTokens_scopes htoken with ⟨lexeme, _hlexeme, hscopes⟩
  rw [hscopes]
  refine ⟨List.cons_ne_nil _ _, ?_⟩
  intro name hname
  rcases List.mem_map.mp hname with ⟨scope, _hscope, rfl⟩
  exact ⟨scope, Scope.ofRaw?_raw scope⟩

theorem Reachable.sound {stack : RuleStack} (h : Reachable stack) : stack.Sound := by
  induction h with
  | start =>
      have hstart : Settled {} := ⟨by decide, nofun⟩
      exact hstart.written
  | next _hreach hline ih =>
      rename_i line result
      rcases ih.lexLine line with ⟨found, hfound, hsound, _htokens⟩
      cases hline.symm.trans hfound
      exact hsound

/-!
# Classification
-/

theorem proper_getD {before : Option State}
    (hproper : forall state, before = some state -> state.Proper) : (before.getD {}).Proper := by
  cases before with
  | none => exact ⟨rfl, nofun⟩
  | some state => exact hproper state rfl

theorem classifyFrom_written (span : Span) (excludeCarriers : Bool) (index : Nat)
    (before : Option State) (hproper : forall state, before = some state -> state.Proper)
    (lines : List Text) :
    classifyFrom span excludeCarriers index (before.map State.written) lines =
      (Excerpt.readFrom grammar span excludeCarriers index before lines).outcome.mapError
        .scope := by
  induction lines generalizing index before with
  | nil => rfl
  | cons line more ih =>
      have hstate := proper_getD hproper
      have hwritten : (before.map State.written).getD {} = (before.getD {}).written := by
        cases before <;> rfl
      have hlater (later : State) (hsome : some (grammar line before).state = some later) :
          later.Proper := by
        cases hsome
        exact State.All.lexLine hstate rfl ofName_block line
      have hmore := ih (index + 1) (some (grammar line before).state) hlater
      rw [classifyFrom, hwritten, lexLine_written hstate, Excerpt.readFrom]
      show (classifyLine excludeCarriers index line
        (span.filter index line (grammar line before).tokens)).mapError Crash.scope >>= _ = _
      cases classifyLine excludeCarriers index line
          (span.filter index line (grammar line before).tokens) with
      | error failure => rfl
      | ok tokens =>
          show (classifyFrom span excludeCarriers (index + 1) _ more >>= fun later =>
            pure (tokens ++ later)) = Except.mapError Crash.scope (Except.map (tokens ++ ·) _)
          refine (congrArg (· >>= _) hmore).trans ?_
          cases (Excerpt.readFrom grammar span excludeCarriers (index + 1)
            (some (grammar line before).state) more).outcome <;> rfl

theorem classify_eq (excludeCarriers : Bool) (excerpt : Excerpt) :
    classify excludeCarriers excerpt =
      (excerpt.classify grammar excludeCarriers).mapError .scope :=
  classifyFrom_written excerpt.span excludeCarriers 0 none nofun excerpt.lines

/-- Any lines in any span are classified without failure.  From no state only sound states are
reached, and from these a line is lexed without a lookup that fails, into scopes of which all are in
the vocabulary. -/
theorem no_reading_fails (excerpt : Excerpt) (excludeCarriers : Bool) :
    (exists tokens, classify excludeCarriers excerpt = .ok tokens) ∧
      (forall stack, Reachable stack -> stack.Sound) ∧
      forall stack line, stack.Sound -> exists result, lexLine line stack = .ok result ∧
        result.state.Sound ∧
        forall token, token ∈ result.tokens -> token.scopes ≠ [] ∧
          forall name, name ∈ token.scopes -> exists scope, Scope.ofRaw? name = some scope := by
  refine ⟨?_, fun _stack hreach => hreach.sound, fun _stack line hsound => hsound.lexLine line⟩
  rcases classify_grammar excerpt excludeCarriers with ⟨tokens, htokens, _hspelled⟩
  rw [classify_eq, htokens]
  exact ⟨tokens, rfl⟩

end LineLexer
end Mana
end ScopeProbe
