import ScopeProbe.Proofs.FirstFailure
import ScopeProbe.Proofs.Mana.Totality
import ScopeProbe.Proofs.Sessions.LifeCycle

/-!
# Sessions that are ready to read

Readings share the grammar that a registry remembers, and the grammar keeps a
record of what it is asked to read.  It knows nothing but the line and the state
that it is given, and every reading starts from no state.  So a reading gives
what a new grammar would give, and leaves nothing but the record of its own
requests.
-/

namespace ScopeProbe

/-!
# Readings of the mana grammar
-/

namespace Mana

theorem read_grammar (excerpt : Excerpt) (excludeCarriers : Bool) :
    exists tokens, excerpt.classify grammar excludeCarriers = .ok tokens ∧
      excerpt.read grammar excludeCarriers =
        { calls := excerpt.calls grammar, outcome := .ok tokens } := by
  rcases classify_grammar excerpt excludeCarriers with ⟨tokens, htokens, _hspelled⟩
  refine ⟨tokens, htokens, ?_⟩
  cases hfirst : excerpt.firstUnknown? grammar with
  | some entry =>
      rcases Excerpt.read_of_unknown excludeCarriers hfirst with ⟨line, _hline, hread⟩
      rw [Excerpt.classify, hread] at htokens
      cases htokens
  | none =>
      rcases Excerpt.read_of_known excludeCarriers hfirst with ⟨same, _hsame, hread⟩
      rw [Excerpt.classify, hread] at htokens
      cases htokens
      rw [hread, Excerpt.calls, Excerpt.walk, Excerpt.walkFrom_calls]

end Mana

namespace Session

/-!
# The record of a grammar
-/

/-- What a grammar of a registry's engine has been asked to read. -/
def recorded (number grammar : Nat) (session : Session) : List (Call Mana.State) :=
  ((session.records number)[grammar]?).getD []

variable {host : Host} {session : Session} {method : Method} {number grammar : Nat}
  {scope : String}

theorem records_of_installed {installed : Installed} {engine : Engine}
    (hinstalled : session.registries[number]? = some installed)
    (hengine : session.engines[installed.engine]? = some engine) :
    session.records number = engine.records := by
  rw [records, engineOf?_eq_some hinstalled hengine]
  rfl

theorem Settled.readWith (hsettled : session.Settled number scope grammar) (manner : Manner)
    (excerpt : Excerpt) :
    (exists tokens, excerpt.classify Mana.grammar manner.excludeCarriers = .ok tokens ∧
        (session.readWith manner number grammar excerpt).1 = .ok tokens) ∧
      recorded number grammar (session.readWith manner number grammar excerpt).2 =
        recorded number grammar session ++ excerpt.calls Mana.grammar := by
  rcases Mana.read_grammar excerpt manner.excludeCarriers with ⟨tokens, htokens, hread⟩
  rcases hsettled with ⟨installed, engine, hinstalled, hengine, _hmemory, hgrammar⟩
  constructor
  · refine ⟨tokens, htokens, ?_⟩
    rw [Session.readWith, hread]
    rfl
  · have hlater : (session.readWith manner number grammar excerpt).2.engines[installed.engine]? =
        some (engine.record grammar (excerpt.calls Mana.grammar)) := by
      rw [Session.readWith, hread, hinstalled]
      dsimp only [Option.map_some, Option.getD_some]
      rw [List.getElem?_modify_eq, hengine]
      rfl
    have hrecords : (session.readWith manner number grammar excerpt).2.records number =
        (engine.record grammar (excerpt.calls Mana.grammar)).records :=
      records_of_installed hinstalled hlater
    rw [recorded, recorded, hrecords, records_of_installed hinstalled hengine, Engine.record,
      List.getElem?_modify_eq, List.getElem?_eq_getElem hgrammar]
    rfl

theorem recorded_lookUp
    (hfound : (session.lookUp host method number scope).1 = .ok (some grammar)) :
    recorded number grammar (session.lookUp host method number scope).2 =
      recorded number grammar session := by
  rcases lookUp_cases host session method number scope with
    hlookUp | ⟨installed, engine, hinstalled, hengine, hlookUp⟩
  · rw [hlookUp]
  · rw [hlookUp] at hfound ⊢
    have hrecords : (session.adopt number installed.engine
        ((session.worldOf host installed engine).look Engine.compile method scope)).records number =
          ((session.worldOf host installed engine).look
            Engine.compile method scope).engine.records :=
      records_of_installed (List.getElem?_set_self (List.getElem?_eq_some_iff.mp hinstalled).1)
        (List.getElem?_set_self (List.getElem?_eq_some_iff.mp hengine).1)
    rw [recorded, recorded, hrecords, records_of_installed hinstalled hengine]
    rcases World.look_eq_some hfound with ⟨_hmemory, hlook⟩ | ⟨rfl, _hregistry, hmade⟩
    · rw [hlook]
      rfl
    · rw [hmade]
      simp [worldOf]

/-!
# Sessions that are ready to read
-/

def ownScopes (session : Session) : List String :=
  session.registries.map fun installed => installed.registry.defaultScope

theorem chooseScope_eq (session : Session) (manner : Manner) (number : Nat) :
    session.chooseScope manner number = manner.scope.getD (session.ownScopes[number]?.getD "") := by
  rw [chooseScope, ownScopes, List.getElem?_map]
  cases manner.scope with
  | some scope => rfl
  | none => cases session.registries[number]? <;> rfl

theorem ownScopes_lookUp (host : Host) (session : Session) (method : Method) (number : Nat)
    (scope : String) :
    (session.lookUp host method number scope).2.ownScopes = session.ownScopes := by
  rcases lookUp_cases host session method number scope with
    hlookUp | ⟨installed, engine, hinstalled, _hengine, hlookUp⟩
  · rw [hlookUp]
  · rw [hlookUp]
    have hscope : ((session.worldOf host installed engine).look Engine.compile method
        scope).registry.defaultScope = installed.registry.defaultScope :=
      congrArg (fun world => world.registry.defaultScope)
        (World.anew_after_look Engine.compile (session.worldOf host installed engine) method scope)
    have hsame : session.ownScopes[number]? = some installed.registry.defaultScope := by
      rw [ownScopes, List.getElem?_map, hinstalled]
      rfl
    dsimp only [ownScopes, adopt]
    rw [List.map_set, hscope]
    exact set_eq_self hsame

/-- A registry that is chosen finds a grammar for the scope that is chosen. -/
structure Ready (host : Host) (manner : Manner) (number grammar : Nat) (session : Session) :
    Prop where
  sound : session.Sound
  chosen : manner.registry.or session.default = some number
  found : (session.lookUp host .load number (session.chooseScope manner number)).1 =
    .ok (some grammar)

namespace Ready

variable {manner : Manner}

theorem chooseRegistry (h : session.Ready host manner number grammar) :
    session.chooseRegistry host manner = { outcome := .ok number, session } := by
  have hchosen := h.chosen
  rw [Session.chooseRegistry]
  cases hregistry : manner.registry with
  | some other =>
      rw [hregistry] at hchosen
      cases hchosen
      rfl
  | none =>
      rw [hregistry, Option.none_or] at hchosen
      exact get_of_some hchosen

theorem of_same {later : Session} (h : session.Ready host manner number grammar)
    (hsound : later.Sound) (hdefault : later.default = session.default)
    (hscopes : later.ownScopes = session.ownScopes)
    (hsettled : later.Settled number (session.chooseScope manner number) grammar) :
    later.Ready host manner number grammar ∧
      later.chooseScope manner number = session.chooseScope manner number := by
  have hscope : later.chooseScope manner number = session.chooseScope manner number := by
    rw [chooseScope_eq, chooseScope_eq, hscopes]
  refine ⟨⟨hsound, ?_, ?_⟩, hscope⟩
  · rw [hdefault]
    exact h.chosen
  · rw [hscope, hsettled.lookUp host .load]

theorem settled_of_remembered (h : session.Ready host manner number grammar) {found : Option Nat}
    (hmemory : session.remembered? number (session.chooseScope manner number) = some found) :
    found = some grammar ∧
      session.Settled number (session.chooseScope manner number) grammar := by
  rcases lookUp_of_sound host h.sound .load hmemory with ⟨hlookUp, hsettled⟩
  have hfound := h.found
  rw [hlookUp] at hfound
  cases hfound
  exact ⟨rfl, hsettled grammar rfl⟩

theorem lookUp (h : session.Ready host manner number grammar) (method : Method) :
    exists later,
      session.lookUp host method number (session.chooseScope manner number) =
          (.ok (some grammar), later) ∧
        session.Grows later ∧
        later.Settled number (session.chooseScope manner number) grammar ∧
        later.Ready host manner number grammar ∧
        later.chooseScope manner number = session.chooseScope manner number ∧
        recorded number grammar later = recorded number grammar session := by
  have hload : session.lookUp host method number (session.chooseScope manner number) =
      session.lookUp host .load number (session.chooseScope manner number) := by
    cases method with
    | find => exact (lookUp_load host session number _).symm
    | load => rfl
  rw [hload]
  have hkeeps := Keeps.lookUp host .load number (session.chooseScope manner number) session
  have hsettled := settled_of_lookUp h.sound h.found
  rcases h.of_same (hkeeps.sound h.sound) (unmoved_lookUp host .load number _ session).default
    (ownScopes_lookUp host session .load number _) hsettled with ⟨hready, hscope⟩
  exact ⟨_, Prod.ext h.found rfl, hkeeps.grows, hsettled, hready, hscope, recorded_lookUp h.found⟩

theorem readWith (h : session.Ready host manner number grammar)
    (hsettled : session.Settled number (session.chooseScope manner number) grammar)
    (excerpt : Excerpt) :
    exists tokens later, excerpt.classify Mana.grammar manner.excludeCarriers = .ok tokens ∧
      session.readWith manner number grammar excerpt = (.ok tokens, later) ∧
      session.Grows later ∧
      later.Ready host manner number grammar ∧
      later.chooseScope manner number = session.chooseScope manner number ∧
      recorded number grammar later =
        recorded number grammar session ++ excerpt.calls Mana.grammar := by
  have hkeeps := Keeps.readWith manner number grammar excerpt session
  rcases hsettled.readWith manner excerpt with ⟨⟨tokens, htokens, houtcome⟩, hrecorded⟩
  rcases h.of_same (hkeeps.sound h.sound) rfl rfl (hsettled.mono hkeeps.grows) with
    ⟨hready, hscope⟩
  exact ⟨tokens, _, htokens, Prod.ext houtcome rfl, hkeeps.grows, hready, hscope, hrecorded⟩

end Ready

/-!
# Reading on one's own
-/

variable {manner : Manner}

theorem Ready.tokenize (h : session.Ready host manner number grammar) (excerpt : Excerpt) :
    exists tokens later, excerpt.classify Mana.grammar manner.excludeCarriers = .ok tokens ∧
      session.tokenize host manner excerpt = { outcome := .ok tokens, session := later } ∧
      later.Ready host manner number grammar ∧
      recorded number grammar later =
        recorded number grammar session ++ excerpt.calls Mana.grammar := by
  rcases h.lookUp .load with ⟨opened, hlookUp, _hgrows, hsettled, hready, hscope, hrecorded⟩
  rw [← hscope] at hsettled
  rcases hready.readWith hsettled excerpt with
    ⟨tokens, later, htokens, hread, _hgrows, hlater, _hscope, hgrown⟩
  refine ⟨tokens, later, htokens, ?_, hlater, ?_⟩
  · rw [Session.tokenize, h.chooseRegistry, Service.andThen]
    dsimp only
    rw [tokenizeWith, hlookUp]
    dsimp only
    rw [hread]
    rfl
  · rw [hgrown, hrecorded]

theorem Ready.gather (h : session.Ready host manner number grammar) (excerpts : List Excerpt) :
    exists results later,
      excerpts.map (fun excerpt => excerpt.classify Mana.grammar manner.excludeCarriers) =
          results.map Except.ok ∧
        session.gather host manner excerpts = (.ok results, later) ∧
        recorded number grammar later =
          recorded number grammar session ++
            excerpts.flatMap fun excerpt => excerpt.calls Mana.grammar := by
  induction excerpts generalizing session with
  | nil => exact ⟨[], session, rfl, rfl, (List.append_nil _).symm⟩
  | cons excerpt more ih =>
      rcases h.tokenize excerpt with ⟨tokens, between, htokens, hread, hready, hrecorded⟩
      rcases ih hready with ⟨results, later, hresults, hgather, hgrown⟩
      refine ⟨tokens :: results, later, ?_, ?_, ?_⟩
      · rw [List.map_cons, List.map_cons, htokens, hresults]
      · rw [Session.gather, hread]
        dsimp only
        rw [hgather]
        rfl
      · rw [hgrown, hrecorded, List.flatMap_cons, List.append_assoc]

end Session
end ScopeProbe
