import ScopeProbe.Proofs.Sessions.Histories

/-!
# Crowds of readers

Readers of several excerpts share a session and take their steps in any order.
A reader that finds the grammar in memory reads at once.  Otherwise it waits
until the grammar has been looked up under the lock, and then for its turn to
read.  Each step is taken without another one in between.
-/

namespace ScopeProbe
namespace Session

def proceed (manner : Manner) (number : Nat) (scope : String)
    (found : Except Failure (Option Nat)) (excerpt : Excerpt) (session : Session) :
    Except Failure (List Token) × Session :=
  match found with
  | .error failure => (.error failure, session)
  | .ok none => (.error (.missingGrammar scope), session)
  | .ok (some grammar) => session.readWith manner number grammar excerpt

theorem tokenizeWith_eq_proceed (host : Host) (manner : Manner) (number : Nat) (excerpt : Excerpt)
    (session : Session) :
    session.tokenizeWith host manner number excerpt =
      let scope := session.chooseScope manner number
      let found := session.lookUp host .load number scope
      found.2.proceed manner number scope found.1 excerpt := by
  rw [tokenizeWith]
  dsimp only
  generalize session.lookUp host .load number (session.chooseScope manner number) = found
  rcases found with ⟨_ | _ | grammar, later⟩ <;> rfl

end Session

inductive Reader where
  | fresh (excerpt : Excerpt)
  | waiting (number : Nat) (scope : String) (excerpt : Excerpt)
  /-- The scope has been looked up under the lock, and the reader waits for its turn. -/
  | loaded (number : Nat) (scope : String) (found : Except Failure (Option Nat))
    (excerpt : Excerpt)
  | finished (excerpt : Excerpt) (outcome : Except Failure (List Token))

namespace Reader

def excerpt : Reader -> Excerpt
  | fresh excerpt => excerpt
  | waiting _ _ excerpt => excerpt
  | loaded _ _ _ excerpt => excerpt
  | finished excerpt _ => excerpt

def outcome? : Reader -> Option (Except Failure (List Token))
  | finished _ outcome => some outcome
  | _ => none

def steps : Reader -> Nat
  | fresh _ => 0
  | waiting _ _ _ => 1
  | loaded _ _ _ _ => 2
  | finished _ _ => 3

end Reader

/-- Readers that share a session, and the numbers of those that have gone on from their lookup, in
the order in which they did. -/
structure Crowd where
  session : Session
  readers : List Reader
  order : List Nat := []

namespace Crowd

open Session (Manner)

def start (session : Session) (excerpts : List Excerpt) : Crowd where
  session := session
  readers := excerpts.map .fresh

/-- A reader reads with what has been found for it, without anyone in between. -/
def settle (manner : Manner) (reader number : Nat) (scope : String)
    (found : Except Failure (Option Nat)) (excerpt : Excerpt) (crowd : Crowd) : Crowd :=
  let reading := crowd.session.proceed manner number scope found excerpt
  { session := reading.2
    readers := crowd.readers.set reader (.finished excerpt reading.1)
    order := crowd.order ++ [reader] }

def step (host : Host) (manner : Manner) (crowd : Crowd) (reader : Nat) : Crowd :=
  match crowd.readers[reader]? with
  | some (.fresh excerpt) =>
      match crowd.session.chooseRegistry host manner with
      | ⟨.error failure, session, _⟩ =>
          { crowd with
            session
            readers := crowd.readers.set reader (.finished excerpt (.error failure)) }
      | ⟨.ok number, session, _⟩ =>
          let scope := session.chooseScope manner number
          match session.remembered? number scope with
          | some grammar =>
              settle manner reader number scope (.ok grammar) excerpt { crowd with session }
          | none =>
              { crowd with
                session
                readers := crowd.readers.set reader (.waiting number scope excerpt) }
  | some (.waiting number scope excerpt) =>
      let (found, session) := crowd.session.lookUp host .find number scope
      { crowd with
        session
        readers := crowd.readers.set reader (.loaded number scope found excerpt) }
  | some (.loaded number scope found excerpt) =>
      settle manner reader number scope found excerpt crowd
  | _ => crowd

def run (host : Host) (manner : Manner) (crowd : Crowd) (schedule : List Nat) : Crowd :=
  schedule.foldl (step host manner) crowd

def outcomes (crowd : Crowd) : List (Option (Except Failure (List Token))) :=
  crowd.readers.map Reader.outcome?

theorem outcomes_set (crowd : Crowd) (k : Nat) (next : Reader) (session : Session)
    (order : List Nat) :
    outcomes { session, readers := crowd.readers.set k next, order } =
      crowd.outcomes.set k next.outcome? :=
  List.map_set

/-!
# Steps
-/

variable {manner : Manner} {crowd : Crowd} {k : Nat}

theorem step_cases (host : Host) (manner : Manner) (crowd : Crowd) (k : Nat) :
    (crowd.step host manner k = crowd ∧
        forall reader, crowd.readers[k]? = some reader -> 3 <= reader.steps) ∨
      exists reader next, crowd.readers[k]? = some reader ∧ reader.steps < next.steps ∧
        (crowd.step host manner k).readers = crowd.readers.set k next := by
  rw [step]
  cases hreader : crowd.readers[k]? with
  | none =>
      left
      refine ⟨rfl, ?_⟩
      intro reader hnone
      cases hnone
  | some reader =>
      cases reader with
      | fresh excerpt =>
          right
          dsimp only
          split
          · exact ⟨_, .finished _ _, rfl, by simp [Reader.steps], rfl⟩
          · split
            · exact ⟨_, .finished _ _, rfl, by simp [Reader.steps], rfl⟩
            · exact ⟨_, .waiting _ _ _, rfl, by simp [Reader.steps], rfl⟩
      | waiting number scope excerpt =>
          exact .inr ⟨_, .loaded _ _ _ _, rfl, by simp [Reader.steps], rfl⟩
      | loaded number scope found excerpt =>
          exact .inr ⟨_, .finished _ _, rfl, by simp [Reader.steps], rfl⟩
      | finished excerpt outcome =>
          left
          refine ⟨rfl, ?_⟩
          intro reader hsame
          cases hsame
          exact Nat.le_refl 3

theorem steps_step (host : Host) (manner : Manner) {reader : Reader} {other : Nat}
    (hreader : crowd.readers[other]? = some reader) :
    exists next, (crowd.step host manner k).readers[other]? = some next ∧
      min 3 (reader.steps + [k].count other) <= next.steps := by
  rcases step_cases host manner crowd k with
    ⟨hstep, hfinished⟩ | ⟨before, next, hbefore, hless, hstep⟩
  · refine ⟨reader, ?_, ?_⟩
    · rw [hstep]
      exact hreader
    · by_cases hsame : other = k
      · subst hsame
        exact Nat.le_trans (Nat.min_le_left _ _) (hfinished reader hreader)
      · rw [List.count_singleton, if_neg (by simpa using Ne.symm hsame)]
        exact Nat.min_le_right _ _
  · rw [hstep]
    by_cases hsame : other = k
    · subst hsame
      cases hbefore.symm.trans hreader
      refine ⟨next, List.getElem?_set_self (List.getElem?_eq_some_iff.mp hreader).1, ?_⟩
      rw [List.count_singleton_self]
      exact Nat.le_trans (Nat.min_le_right _ _) hless
    · refine ⟨reader, (List.getElem?_set_ne (Ne.symm hsame)).trans hreader, ?_⟩
      rw [List.count_singleton, if_neg (by simpa using Ne.symm hsame)]
      exact Nat.min_le_right _ _

theorem steps_run (host : Host) (manner : Manner) {reader : Reader} {other : Nat}
    (schedule : List Nat) (hreader : crowd.readers[other]? = some reader) :
    exists next, (crowd.run host manner schedule).readers[other]? = some next ∧
      min 3 (reader.steps + schedule.count other) <= next.steps := by
  induction schedule generalizing crowd reader with
  | nil => exact ⟨reader, hreader, Nat.min_le_right _ _⟩
  | cons k more ih =>
      rcases steps_step host manner hreader with ⟨between, hbetween, hfirst⟩
      rcases ih hbetween with ⟨next, hnext, hmore⟩
      refine ⟨next, hnext, ?_⟩
      have hcount : (k :: more).count other = [k].count other + more.count other := by
        rw [← List.count_append, List.singleton_append]
      omega

theorem step_of_unserved (host : Host) (manner : Manner) {excerpt : Excerpt} {failure : Failure}
    {session : Session} {acts : List Act}
    (hreader : crowd.readers[k]? = some (.fresh excerpt))
    (hchoose : crowd.session.chooseRegistry host manner = ⟨.error failure, session, acts⟩) :
    crowd.step host manner k =
      { crowd with
        session
        readers := crowd.readers.set k (.finished excerpt (.error failure)) } := by
  rw [step, hreader]
  dsimp only
  rw [hchoose]

theorem step_of_remembered (host : Host) (manner : Manner) {excerpt : Excerpt}
    {number : Nat} {session : Session} {acts : List Act} {grammar : Option Nat}
    (hreader : crowd.readers[k]? = some (.fresh excerpt))
    (hchoose : crowd.session.chooseRegistry host manner = ⟨.ok number, session, acts⟩)
    (hmemory : session.remembered? number (session.chooseScope manner number) = some grammar) :
    crowd.step host manner k =
      settle manner k number (session.chooseScope manner number) (.ok grammar) excerpt
        { crowd with session } := by
  rw [step, hreader]
  dsimp only
  rw [hchoose]
  dsimp only
  rw [hmemory]

theorem step_of_unknown (host : Host) (manner : Manner) {excerpt : Excerpt}
    {number : Nat} {session : Session} {acts : List Act}
    (hreader : crowd.readers[k]? = some (.fresh excerpt))
    (hchoose : crowd.session.chooseRegistry host manner = ⟨.ok number, session, acts⟩)
    (hmemory : session.remembered? number (session.chooseScope manner number) = none) :
    crowd.step host manner k =
      { crowd with
        session
        readers := crowd.readers.set k
          (.waiting number (session.chooseScope manner number) excerpt) } := by
  rw [step, hreader]
  dsimp only
  rw [hchoose]
  dsimp only
  rw [hmemory]

theorem step_of_finished (host : Host) (manner : Manner) {excerpt : Excerpt}
    {outcome : Except Failure (List Token)}
    (hreader : crowd.readers[k]? = some (.finished excerpt outcome)) :
    crowd.step host manner k = crowd := by
  rw [step, hreader]

theorem step_of_waiting (host : Host) (manner : Manner) {number : Nat} {scope : String}
    {excerpt : Excerpt} (hreader : crowd.readers[k]? = some (.waiting number scope excerpt)) :
    crowd.step host manner k =
      { crowd with
        session := (crowd.session.lookUp host .find number scope).2
        readers := crowd.readers.set k
          (.loaded number scope (crowd.session.lookUp host .find number scope).1 excerpt) } := by
  rw [step, hreader]

theorem step_of_loaded (host : Host) (manner : Manner) {number : Nat} {scope : String}
    {found : Except Failure (Option Nat)} {excerpt : Excerpt}
    (hreader : crowd.readers[k]? = some (.loaded number scope found excerpt)) :
    crowd.step host manner k = crowd.settle manner k number scope found excerpt := by
  rw [step, hreader]

theorem read_alone (host : Host) (manner : Manner) {excerpt : Excerpt}
    (hsound : crowd.session.Sound) (hreader : crowd.readers[k]? = some (.fresh excerpt)) :
    (crowd.run host manner [k, k, k]).session =
      (crowd.session.tokenize host manner excerpt).session ∧
      (crowd.run host manner [k, k, k]).readers =
        crowd.readers.set k
          (.finished excerpt (crowd.session.tokenize host manner excerpt).outcome) := by
  have hbound := (List.getElem?_eq_some_iff.mp hreader).1
  have hkeeps := Session.Keeps.chooseRegistry host manner crowd.session
  show (((crowd.step host manner k).step host manner k).step host manner k).session = _ ∧
    (((crowd.step host manner k).step host manner k).step host manner k).readers = _
  rw [Session.tokenize, Service.andThen]
  rcases hchoose : crowd.session.chooseRegistry host manner with ⟨failure | number, session, acts⟩
  · have hfirst := step_of_unserved host manner hreader hchoose
    have hlast : (crowd.step host manner k).readers[k]? =
        some (.finished excerpt (.error failure)) := by
      rw [hfirst]
      exact List.getElem?_set_self hbound
    rw [step_of_finished host manner hlast, step_of_finished host manner hlast, hfirst]
    exact ⟨rfl, rfl⟩
  · rw [hchoose] at hkeeps
    dsimp only
    rw [Session.tokenizeWith_eq_proceed]
    dsimp only
    cases hmemory : session.remembered? number (session.chooseScope manner number) with
    | some found =>
        have hlookUp := (Session.lookUp_of_sound host (hkeeps.sound hsound) .load hmemory).left
        have hfirst := step_of_remembered host manner hreader hchoose hmemory
        have hlast : (crowd.step host manner k).readers[k]? = some (.finished excerpt
            (session.proceed manner number (session.chooseScope manner number) (.ok found)
              excerpt).1) := by
          rw [hfirst]
          exact List.getElem?_set_self hbound
        rw [step_of_finished host manner hlast, step_of_finished host manner hlast, hfirst, hlookUp]
        exact ⟨rfl, rfl⟩
    | none =>
        have hfirst := step_of_unknown host manner hreader hchoose hmemory
        have hwaiting : (crowd.step host manner k).readers[k]? =
            some (.waiting number (session.chooseScope manner number) excerpt) := by
          rw [hfirst]
          exact List.getElem?_set_self hbound
        have hloaded : ((crowd.step host manner k).step host manner k).readers[k]? =
            some (.loaded number (session.chooseScope manner number)
              (session.lookUp host .find number (session.chooseScope manner number)).1
                excerpt) := by
          rw [step_of_waiting host manner hwaiting, hfirst, List.set_set]
          exact List.getElem?_set_self hbound
        rw [step_of_loaded host manner hloaded, step_of_waiting host manner hwaiting, hfirst,
          settle]
        dsimp only
        rw [List.set_set, List.set_set, Session.lookUp_load]
        exact ⟨rfl, rfl⟩

end Crowd

end ScopeProbe
