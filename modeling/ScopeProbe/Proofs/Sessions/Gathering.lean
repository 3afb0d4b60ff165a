import ScopeProbe.Proofs.Sessions.Crowds
import ScopeProbe.Proofs.Sessions.Readiness

/-!
# Gathering

In whatever order the readers of a crowd take their steps, the first one that
looks the grammar up settles it for all, and each of them reads its excerpt from
its first line to its last without another one in between.  So all that readers
leave to each other is the record, which grows by whole readings.
-/

namespace ScopeProbe

/-!
# Readers of a grammar that can be found
-/

open Session (Manner)

/-- How far a reader can have come.  Where one has found the grammar it is remembered, and who has
finished has the tokens that a new grammar would have given. -/
def Reader.Fits (manner : Manner) (number grammar : Nat) (session : Session) : Reader -> Prop
  | .fresh _ => True
  | .waiting other scope _ => other = number ∧ scope = session.chooseScope manner number
  | .loaded other scope found _ =>
      other = number ∧ scope = session.chooseScope manner number ∧ found = .ok (some grammar) ∧
        session.Settled number (session.chooseScope manner number) grammar
  | .finished excerpt outcome =>
      exists tokens, excerpt.classify Mana.grammar manner.excludeCarriers = .ok tokens ∧
        outcome = .ok tokens

theorem Reader.Fits.mono {manner : Manner} {number grammar : Nat} {session later : Session}
    {reader : Reader} (h : reader.Fits manner number grammar session)
    (hgrows : session.Grows later)
    (hscope : later.chooseScope manner number = session.chooseScope manner number) :
    reader.Fits manner number grammar later := by
  cases reader with
  | fresh excerpt => trivial
  | waiting other scope excerpt =>
      rw [Fits, hscope]
      exact h
  | loaded other scope found excerpt =>
      rcases h with ⟨hnumber, hplace, hfound, hsettled⟩
      rw [Fits, hscope]
      exact ⟨hnumber, hplace, hfound, hsettled.mono hgrows⟩
  | finished excerpt outcome => exact h

def callsAt (excerpts : List Excerpt) (k : Nat) : List (Call Mana.State) :=
  (excerpts[k]?.map fun excerpt => excerpt.calls Mana.grammar).getD []

namespace Crowd

variable {host : Host} {manner : Manner} {number grammar : Nat} {opening : Session}
    {excerpts : List Excerpt}
  {crowd : Crowd} {k : Nat}

/-- The readers fit, and the record has grown by the requests of those that have read, one after the
other. -/
structure Attuned (host : Host) (manner : Manner) (number grammar : Nat) (opening : Session)
    (excerpts : List Excerpt) (crowd : Crowd) : Prop where
  ready : crowd.session.Ready host manner number grammar
  excerpts_eq : crowd.readers.map Reader.excerpt = excerpts
  fits : forall reader, reader ∈ crowd.readers ->
    reader.Fits manner number grammar crowd.session
  ordered : forall k, k ∈ crowd.order <-> exists outcome, crowd.outcomes[k]? = some (some outcome)
  nodup : crowd.order.Nodup
  recorded : crowd.session.recorded number grammar =
    opening.recorded number grammar ++ crowd.order.flatMap (callsAt excerpts)

theorem attuned_start (hready : opening.Ready host manner number grammar)
    (excerpts : List Excerpt) :
    Attuned host manner number grammar opening excerpts (start opening excerpts) where
  ready := hready
  excerpts_eq := by
    simp [start, Function.comp_def, Reader.excerpt]
  fits := by
    intro reader hreader
    rcases List.mem_map.mp hreader with ⟨excerpt, _hexcerpt, rfl⟩
    trivial
  ordered := by
    intro k
    constructor
    · intro hmember
      cases hmember
    · rintro ⟨outcome, houtcome⟩
      rw [outcomes, start, List.map_map] at houtcome
      rcases List.mem_map.mp (List.mem_of_getElem? houtcome) with ⟨excerpt, _hexcerpt, hnone⟩
      cases hnone
  nodup := List.nodup_nil
  recorded := (List.append_nil _).symm

namespace Attuned

theorem getElem?_excerpts (h : Attuned host manner number grammar opening excerpts crowd)
    {reader : Reader} (hreader : crowd.readers[k]? = some reader) :
    excerpts[k]? = some reader.excerpt := by
  rw [← h.excerpts_eq, List.getElem?_map, hreader]
  rfl

theorem replace (h : Attuned host manner number grammar opening excerpts crowd)
    {reader next : Reader} {later : Session} (hreader : crowd.readers[k]? = some reader)
    (hexcerpt : next.excerpt = reader.excerpt) (hgrows : crowd.session.Grows later)
    (hscope : later.chooseScope manner number = crowd.session.chooseScope manner number)
    (hnext : next.Fits manner number grammar later) :
    (crowd.readers.set k next).map Reader.excerpt = excerpts ∧
      forall other, other ∈ crowd.readers.set k next -> other.Fits manner number grammar later := by
  constructor
  · rw [List.map_set, hexcerpt, h.excerpts_eq]
    exact set_eq_self (h.getElem?_excerpts hreader)
  · intro other hother
    rcases List.mem_or_eq_of_mem_set hother with hbefore | rfl
    · exact (h.fits other hbefore).mono hgrows hscope
    · exact hnext

theorem move (h : Attuned host manner number grammar opening excerpts crowd) {reader next : Reader}
    {later : Session} (hreader : crowd.readers[k]? = some reader)
    (hexcerpt : next.excerpt = reader.excerpt) (hbefore : reader.outcome? = none)
    (hafter : next.outcome? = none) (hgrows : crowd.session.Grows later)
    (hready : later.Ready host manner number grammar)
    (hscope : later.chooseScope manner number = crowd.session.chooseScope manner number)
    (hrecorded : later.recorded number grammar = crowd.session.recorded number grammar)
    (hnext : next.Fits manner number grammar later) :
    Attuned host manner number grammar opening excerpts
      { crowd with session := later, readers := crowd.readers.set k next } := by
  rcases h.replace hreader hexcerpt hgrows hscope hnext with ⟨hexcerpts, hfits⟩
  refine ⟨hready, hexcerpts, hfits, ?_, h.nodup, hrecorded.trans h.recorded⟩
  have houtcome : crowd.outcomes[k]? = some none := by
    rw [outcomes, List.getElem?_map, hreader]
    exact congrArg some hbefore
  intro j
  rw [h.ordered j, outcomes_set, hafter, set_eq_self houtcome]

theorem settle (h : Attuned host manner number grammar opening excerpts crowd) {reader : Reader}
    (hreader : crowd.readers[k]? = some reader) (hbefore : reader.outcome? = none)
    (hsettled : crowd.session.Settled number (crowd.session.chooseScope manner number) grammar)
    (scope : String) :
    Attuned host manner number grammar opening excerpts
      (crowd.settle manner k number scope (.ok (some grammar)) reader.excerpt) := by
  rcases h.ready.readWith hsettled reader.excerpt with
    ⟨tokens, later, htokens, hread, hgrows, hready, hscope, hrecorded⟩
  have hsettle : crowd.settle manner k number scope (.ok (some grammar)) reader.excerpt =
      { session := later
        readers := crowd.readers.set k (.finished reader.excerpt (.ok tokens))
        order := crowd.order ++ [k] } := by
    rw [Crowd.settle, Session.proceed, hread]
  have hfinished : Reader.Fits manner number grammar later
      (.finished reader.excerpt (.ok tokens)) := ⟨tokens, htokens, rfl⟩
  have hexcerpt : (Reader.finished reader.excerpt (.ok tokens)).excerpt = reader.excerpt := rfl
  rcases h.replace hreader hexcerpt hgrows hscope hfinished with ⟨hexcerpts, hfits⟩
  have houtcome : crowd.outcomes[k]? = some none := by
    rw [outcomes, List.getElem?_map, hreader]
    exact congrArg some hbefore
  rw [hsettle]
  refine ⟨hready, hexcerpts, hfits, ?_, ?_, ?_⟩
  · intro j
    rw [List.mem_append, List.mem_singleton, h.ordered j, outcomes_set]
    by_cases hsame : j = k
    · subst hsame
      exact iff_of_true (.inr rfl)
        ⟨_, List.getElem?_set_self (List.getElem?_eq_some_iff.mp houtcome).1⟩
    · rw [List.getElem?_set_ne (Ne.symm hsame), or_iff_left hsame]
  · have hnew : k ∉ crowd.order := by
      rw [h.ordered k, houtcome]
      rintro ⟨outcome, hsome⟩
      cases hsome
    refine List.nodup_append.mpr ⟨h.nodup, List.nodup_singleton k, ?_⟩
    rintro j hj _ hsame rfl
    rw [List.mem_singleton.mp hsame] at hj
    exact hnew hj
  · dsimp only
    rw [hrecorded, h.recorded, List.flatMap_append, List.append_assoc, List.flatMap_singleton,
      callsAt, h.getElem?_excerpts hreader]
    rfl

theorem step (h : Attuned host manner number grammar opening excerpts crowd) (k : Nat) :
    Attuned host manner number grammar opening excerpts (crowd.step host manner k) := by
  rw [Crowd.step]
  cases hreader : crowd.readers[k]? with
  | none => exact h
  | some reader =>
      have hfits := h.fits reader (List.mem_of_getElem? hreader)
      cases reader with
      | fresh excerpt =>
          rw [h.ready.chooseRegistry]
          dsimp only
          cases hmemory : crowd.session.remembered? number
              (crowd.session.chooseScope manner number) with
          | some found =>
              rcases h.ready.settled_of_remembered hmemory with ⟨rfl, hsettled⟩
              exact h.settle hreader rfl hsettled _
          | none => exact h.move hreader rfl rfl rfl (.refl _) h.ready rfl rfl ⟨rfl, rfl⟩
      | waiting other scope excerpt =>
          rcases hfits with ⟨rfl, rfl⟩
          rcases h.ready.lookUp .find with
            ⟨later, hlookUp, hgrows, hsettled, hready, hscope, hrecorded⟩
          dsimp only
          rw [hlookUp]
          rw [← hscope] at hsettled ⊢
          exact h.move hreader rfl rfl rfl hgrows hready hscope hrecorded ⟨rfl, rfl, rfl, hsettled⟩
      | loaded other scope found excerpt =>
          rcases hfits with ⟨rfl, rfl, rfl, hsettled⟩
          exact h.settle hreader rfl hsettled _
      | finished excerpt outcome => exact h

theorem run (h : Attuned host manner number grammar opening excerpts crowd) (schedule : List Nat) :
    Attuned host manner number grammar opening excerpts (crowd.run host manner schedule) := by
  induction schedule generalizing crowd with
  | nil => exact h
  | cons k more ih => exact ih (h.step k)

theorem length_outcomes (h : Attuned host manner number grammar opening excerpts crowd) :
    crowd.outcomes.length = excerpts.length := by
  rw [← h.excerpts_eq, outcomes, List.length_map, List.length_map]

variable {results : List (List Token)}

theorem outcome (h : Attuned host manner number grammar opening excerpts crowd)
    (hresults : excerpts.map (fun excerpt =>
      excerpt.classify Mana.grammar manner.excludeCarriers) = results.map Except.ok)
    {outcome : Except Failure (List Token)}
    (houtcome : crowd.outcomes[k]? = some (some outcome)) :
    exists tokens, results[k]? = some tokens ∧ outcome = .ok tokens := by
  rw [outcomes, List.getElem?_map] at houtcome
  rcases Option.map_eq_some_iff.mp houtcome with ⟨reader, hreader, hfinished⟩
  have hfits := h.fits reader (List.mem_of_getElem? hreader)
  have hexcerpt := h.getElem?_excerpts hreader
  cases reader with
  | finished excerpt result =>
      cases hfinished
      rcases hfits with ⟨tokens, htokens, rfl⟩
      refine ⟨tokens, ?_, rfl⟩
      have hresult := congrArg (fun found => found[k]?) hresults
      simp only [List.getElem?_map, hexcerpt, Option.map_some] at hresult
      rcases Option.map_eq_some_iff.mp hresult.symm with ⟨same, hsame, hok⟩
      rw [hsame, ← Except.ok.inj (hok.trans htokens)]
  | _ => cases hfinished

end Attuned

theorem finished_of_turns (host : Host) (manner : Manner) {schedule : List Nat}
    (hturns : forall k, k < excerpts.length -> 3 <= schedule.count k) (hk : k < excerpts.length) :
    exists outcome, ((start opening excerpts).run host manner schedule).outcomes[k]? =
      some (some outcome) := by
  have hfresh : (start opening excerpts).readers[k]? = some (.fresh excerpts[k]) := by
    rw [start, List.getElem?_map, List.getElem?_eq_getElem hk]
    rfl
  rcases steps_run host manner schedule hfresh with ⟨reader, hreader, hsteps⟩
  have hthree : 3 <= reader.steps := by
    have hcount := hturns k hk
    omega
  rw [outcomes, List.getElem?_map, hreader]
  cases reader with
  | finished excerpt outcome => exact ⟨outcome, rfl⟩
  | fresh excerpt => exact absurd hthree (by simp [Reader.steps])
  | waiting number scope excerpt => exact absurd hthree (by simp [Reader.steps])
  | loaded number scope found excerpt => exact absurd hthree (by simp [Reader.steps])

/-- What a gathering comes to: the readers that have finished have the results of their excerpts,
the record has grown by the requests of each reading as a whole, and once every reader has had three
turns all results are there and every excerpt has been read once. -/
structure Isolated (manner : Manner) (number grammar : Nat) (opening : Session)
    (excerpts : List Excerpt) (results : List (List Token)) (schedule : List Nat) (crowd : Crowd) :
    Prop where
  given : forall (k : Nat) (outcome : Except Failure (List Token)),
    crowd.outcomes[k]? = some (some outcome) ->
      exists tokens, results[k]? = some tokens ∧ outcome = .ok tokens
  nodup : crowd.order.Nodup
  recorded : crowd.session.recorded number grammar =
    opening.recorded number grammar ++ crowd.order.flatMap (callsAt excerpts)
  complete : (forall k, k < excerpts.length -> 3 <= schedule.count k) ->
    crowd.outcomes = results.map (fun tokens => some (Except.ok tokens)) ∧
      crowd.order.Perm (List.range excerpts.length)

theorem isolated_run (hready : opening.Ready host manner number grammar)
    {results : List (List Token)}
    (hresults : excerpts.map (fun excerpt =>
      excerpt.classify Mana.grammar manner.excludeCarriers) = results.map Except.ok)
    (schedule : List Nat) :
    Isolated manner number grammar opening excerpts results schedule
      ((start opening excerpts).run host manner schedule) := by
  have hattuned := (attuned_start hready excerpts).run schedule
  refine ⟨fun k outcome => hattuned.outcome hresults, hattuned.nodup, hattuned.recorded, ?_⟩
  intro hturns
  have hlength : results.length = excerpts.length := by
    have hlengths := congrArg List.length hresults
    rw [List.length_map, List.length_map] at hlengths
    exact hlengths.symm
  constructor
  · apply List.ext_getElem?
    intro k
    rw [List.getElem?_map]
    by_cases hk : k < excerpts.length
    · rcases finished_of_turns host manner hturns hk with ⟨outcome, houtcome⟩
      rcases hattuned.outcome hresults houtcome with ⟨tokens, htokens, rfl⟩
      rw [houtcome, htokens]
      rfl
    · rw [List.getElem?_eq_none (by rw [hattuned.length_outcomes]; omega),
        List.getElem?_eq_none (by omega)]
      rfl
  · rw [List.perm_ext_iff_of_nodup hattuned.nodup List.nodup_range]
    intro k
    rw [hattuned.ordered k, List.mem_range]
    constructor
    · rintro ⟨outcome, houtcome⟩
      rw [← hattuned.length_outcomes]
      exact (List.getElem?_eq_some_iff.mp houtcome).1
    · exact fun hk => finished_of_turns host manner hturns hk

end Crowd

namespace Session

/-- A registry whose scope has been found once keeps its grammar whatever is asked later.  Reading
an excerpt with it gives what classifying with a new grammar gives, on one's own and in a crowd, and
leaves to other readings nothing but the record of its own requests, which start from no state. -/
theorem shared_grammar_isolates (host : Host) (history : List Request) (manner : Manner)
    (number grammar : Nat) (hchosen : manner.registry.or (run {} history).default = some number)
    (hfound : ((run {} history).lookUp host .load number
      ((run {} history).chooseScope manner number)).1 = .ok (some grammar)) :
    let session := run {} history
    let scope := session.chooseScope manner number
    (forall more other,
        let later := (session.after (.lookUp host .load number scope)).run more
        later.lookUp other .load number scope = (.ok (some grammar), later) ∧
          forall excludeCarriers excerpt, exists tokens,
            excerpt.classify Mana.grammar excludeCarriers = .ok tokens ∧
              (later.tokenize other
                { excludeCarriers, registry := some number, scope := some scope }
                excerpt).outcome = .ok tokens) ∧
      (forall excerpt,
        Mana.grammar.Chained excerpt.lines (excerpt.calls Mana.grammar) ∧
          exists tokens later,
            excerpt.classify Mana.grammar manner.excludeCarriers = .ok tokens ∧
              session.tokenize host manner excerpt = { outcome := .ok tokens, session := later } ∧
              later.recorded number grammar =
                session.recorded number grammar ++ excerpt.calls Mana.grammar) ∧
      forall excerpts, exists results later,
        excerpts.map (fun excerpt => excerpt.classify Mana.grammar manner.excludeCarriers) =
            results.map Except.ok ∧
          session.gather host manner excerpts = (.ok results, later) ∧
          later.recorded number grammar = session.recorded number grammar ++
            excerpts.flatMap (fun excerpt => excerpt.calls Mana.grammar) ∧
          forall schedule, Crowd.Isolated manner number grammar session excerpts results schedule
            ((Crowd.start session excerpts).run host manner schedule) := by
  intro session scope
  have hready : session.Ready host manner number grammar := ⟨sound_run history, hchosen, hfound⟩
  refine ⟨?_, ?_, ?_⟩
  · intro more other later
    have hsettled : later.Settled number scope grammar :=
      (settled_of_lookUp hready.sound hfound).mono (Keeps.run _ more).grows
    refine ⟨hsettled.lookUp other .load, ?_⟩
    intro excludeCarriers excerpt
    have hsound : later.Sound :=
      (Keeps.run _ more).sound ((Keeps.after session _).sound hready.sound)
    have hlater : later.Ready other
        { excludeCarriers, registry := some number, scope := some scope }
        number grammar := ⟨hsound, rfl, congrArg Prod.fst (hsettled.lookUp other .load)⟩
    rcases hlater.tokenize excerpt with ⟨tokens, last, htokens, hread, _hready, _hrecorded⟩
    exact ⟨tokens, htokens, congrArg Service.outcome hread⟩
  · intro excerpt
    constructor
    · rw [Excerpt.calls, Excerpt.walk, Excerpt.walkFrom_calls]
      exact Mana.grammar.chained_calls excerpt.lines
    · rcases hready.tokenize excerpt with ⟨tokens, later, htokens, hread, _hready, hrecorded⟩
      exact ⟨tokens, later, htokens, hread, hrecorded⟩
  · intro excerpts
    rcases hready.gather excerpts with ⟨results, later, hresults, hgather, hrecorded⟩
    exact ⟨results, later, hresults, hgather, hrecorded,
      fun schedule => Crowd.isolated_run hready hresults schedule⟩

def commentHistory : List Request :=
  [ .setFiles (definitionFiles "source.mana"),
    .newRegistry .mana [("source.mana", { anchor := .relative, parts := ["mana.json"] })]
      "source.mana",
    .configure (some 0), .tokenize bareHost {} (.ofText "/* open".toList), .setFiles {} ]

theorem open_comment_stays_apart :
    let session := run {} commentHistory
    let excerpts := [Excerpt.ofText "/* open".toList, Excerpt.ofText "x".toList]
    let crowd := (Crowd.start session excerpts).run bareHost {} [0, 1, 1, 0, 0, 1]
    Option.or none session.default = some 0 ∧
      (session.lookUp bareHost .load 0 (session.chooseScope {} 0)).1 = .ok (some 0) ∧
      crowd.order.Perm [0, 1] ∧
      (session.tokenize bareHost {} (.ofText "x".toList)).1 =
        .ok [{ text := ['x'], scope := .variableOtherReadwrite }] := by
  intro session excerpts crowd
  have hchosen : Option.or none session.default = some 0 := by decide +kernel
  have hfound : (session.lookUp bareHost .load 0 (session.chooseScope {} 0)).1 = .ok (some 0) := by
    decide +kernel
  have hname : (Excerpt.ofText "x".toList).classify Mana.grammar true =
      .ok [{ text := ['x'], scope := .variableOtherReadwrite }] := by
    decide +kernel
  rcases shared_grammar_isolates bareHost commentHistory {} 0 0 hchosen hfound with
    ⟨_hlater, halone, hgather⟩
  refine ⟨hchosen, hfound, ?_, ?_⟩
  · rcases hgather excerpts with ⟨results, _last, _hresults, _hgathered, _hrecorded, hcrowd⟩
    exact ((hcrowd [0, 1, 1, 0, 0, 1]).complete (by decide)).right
  · rcases halone (.ofText "x".toList) with ⟨_hchained, tokens, later, htokens, hread, _hrecorded⟩
    cases htokens.symm.trans hname
    rw [hread]

end Session
end ScopeProbe
