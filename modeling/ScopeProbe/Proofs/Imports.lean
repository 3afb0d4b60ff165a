import Mathlib.Data.List.Infix
import ScopeProbe.EngineFactory

/-!
# What importing a module comes to

The modules around a module are imported in front of it, the outermost first.  So
importing stops at the first name on the way that is not the name of a module,
and what stands at that name tells why.  There is no way to a name that begins
with a dot.
-/

namespace ScopeProbe

namespace EngineFactory

/-!
# Names of modules
-/

def Around (outer inner : Text) : Prop :=
  outer ++ ['.'] <+: inner

/-- A module is around another one and there is none between them. -/
def RightAround (outer inner : Text) : Prop :=
  exists last, inner = outer ++ '.' :: last ∧ '.' ∉ last

def Encloses (outer inner : Text) : Prop :=
  outer = inner ∨ Around outer inner

instance {outer inner : Text} : Decidable (Encloses outer inner) :=
  inferInstanceAs (Decidable (outer = inner ∨ outer ++ ['.'] <+: inner))

section

variable {outer other inner whole : Text}

theorem not_around_of_notMem (h : '.' ∉ inner) : ¬ Around outer inner :=
  fun haround => h (haround.subset (by simp))

theorem Around.length_lt (h : Around outer inner) : outer.length < inner.length := by
  have hle := h.length_le
  rw [List.length_append, List.length_singleton] at hle
  exact hle

theorem RightAround.around (h : RightAround outer inner) : Around outer inner := by
  rcases h with ⟨last, rfl, _hlast⟩
  exact ⟨last, by simp⟩

theorem Encloses.linear (houter : Encloses outer whole) (hother : Encloses other whole) :
    outer = other ∨ Around outer other ∨ Around other outer := by
  rcases houter with rfl | houter
  · rcases hother with rfl | hother
    · exact .inl rfl
    · exact .inr (.inr hother)
  · rcases hother with rfl | hother
    · exact .inr (.inl houter)
    · rcases List.prefix_or_prefix_of_prefix houter hother with hbegins | hbegins
      · rcases List.prefix_concat_iff.mp hbegins with hsame | haround
        · exact .inl (List.append_cancel_right hsame)
        · exact .inr (.inl haround)
      · rcases List.prefix_concat_iff.mp hbegins with hsame | haround
        · exact .inl (List.append_cancel_right hsame).symm
        · exact .inr (.inr haround)

theorem RightAround.encloses (h : RightAround outer inner) (hother : Around other inner) :
    Encloses other outer := by
  rcases Encloses.linear (.inr hother) (.inr h.around) with rfl | haround | haround
  · exact .inl rfl
  · exact .inr haround
  · -- A module between the two would put a dot into the last part of the name.
    rcases h with ⟨last, rfl, hlast⟩
    rcases haround with ⟨middle, rfl⟩
    have hbegins : middle ++ ['.'] <+: last := by
      simpa [Around, List.prefix_append_right_inj] using hother
    exact absurd (hbegins.subset (by simp)) hlast

theorem RightAround.unique (h : RightAround outer inner) (hother : RightAround other inner) :
    outer = other := by
  rcases hother.encloses h.around with rfl | haround
  · rfl
  · rcases h.encloses hother.around with rfl | hback
    · rfl
    · exact absurd haround.length_lt hback.length_lt.asymm

end

/-!
# Importing
-/

variable {ε : Type}

def Reaches (installation : Installation ε) (name : Text) : Prop :=
  forall outer, Around outer name -> exists found, installation outer = some (.module found)

/-- What becomes of importing a module at a name, without a module of that name. -/
inductive Stops (installation : Installation ε) (whole stop : Text) : Failure -> Prop
  | missing (hnone : installation stop = none)
      (hpackage : forall outer found, RightAround outer stop ->
        installation outer = some (.module found) -> found.isPackage = true) :
      Stops installation whole stop (.load (.notImported whole (.missing stop)))
  | insideModule {outer : Text} {found : Module ε} (hnone : installation stop = none)
      (haround : RightAround outer stop) (hfound : installation outer = some (.module found))
      (hpackage : found.isPackage = false) :
      Stops installation whole stop (.load (.notImported whole (.insideModule stop outer)))
  | broken {reason : String} (hbroken : installation stop = some (.broken reason)) :
      Stops installation whole stop (.load (.notImported whole (.broken reason)))
  | failing {reason : String} (hfailing : installation stop = some (.failing reason)) :
      Stops installation whole stop (.breakdown (.moduleFailed reason))

/-- What importing a module comes to: the module if there are modules of all names on the way to it,
or a failure at the first name on the way that has none. -/
inductive Imports (installation : Installation ε) (name : Text) : Except Failure (Module ε) -> Prop
  | relative (hdot : name.head? = some '.') :
      Imports installation name (.error (.breakdown (.relativeModule name)))
  | found {found : Module ε} (hdot : name.head? ≠ some '.') (hreaches : Reaches installation name)
      (hfound : installation name = some (.module found)) : Imports installation name (.ok found)
  | stopped {stop : Text} {failure : Failure} (hdot : name.head? ≠ some '.')
      (hencloses : Encloses stop name) (hreaches : Reaches installation stop)
      (hstops : Stops installation name stop failure) : Imports installation name (.error failure)

inductive Entered (installation : Installation ε) (front : Text) : Option (Text × Module ε) -> Prop
  | outside (hfront : '.' ∉ front) : Entered installation front none
  | inside {outer : Text} {found : Module ε} (haround : RightAround outer front)
      (hreaches : Reaches installation outer) (hfound : installation outer = some (.module found)) :
      Entered installation front (some (outer, found))

section

variable {installation : Installation ε} {whole front name stop : Text}
  {outer : Option (Text × Module ε)}

namespace Entered

theorem reaches (h : Entered installation front outer) : Reaches installation front := by
  intro other hother
  cases h with
  | outside hfront => exact absurd hother (not_around_of_notMem hfront)
  | inside haround hreaches hfound =>
      rcases haround.encloses hother with rfl | hother
      · exact ⟨_, hfound⟩
      · exact hreaches other hother

theorem more (h : Entered installation front outer) {c : Char} (hc : c ≠ '.') :
    Entered installation (front ++ [c]) outer := by
  cases h with
  | outside hfront => exact .outside (by simp [hfront, Ne.symm hc])
  | inside haround hreaches hfound =>
      rcases haround with ⟨last, rfl, hlast⟩
      exact .inside ⟨last ++ [c], by simp, by simp [hlast, Ne.symm hc]⟩ hreaches hfound

theorem enter (h : Entered installation front outer) {found : Module ε}
    (hfound : installation front = some (.module found)) :
    Entered installation (front ++ ['.']) (some (front, found)) :=
  .inside ⟨[], rfl, nofun⟩ h.reaches hfound

theorem stops (h : Entered installation front outer) (hnone : installation front = none) :
    Stops installation whole front (.load (.notImported whole (missing front outer))) := by
  cases h with
  | outside hfront =>
      exact .missing hnone fun _ _ haround => absurd haround.around (not_around_of_notMem hfront)
  | inside haround _hreaches hfound =>
      rename_i outer found
      cases hpackage : found.isPackage with
      | true =>
          rw [missing, if_pos hpackage]
          refine .missing hnone fun other otherFound hother hotherFound => ?_
          rw [hother.unique haround, hfound] at hotherFound
          cases hotherFound
          exact hpackage
      | false =>
          rw [missing, if_neg (by simp [hpackage])]
          exact .insideModule hnone haround hfound hpackage

end Entered

theorem importEach_cases (h : Entered installation front outer) (more : List Text) :
    (exists found, installation front = some (.module found) ∧
        importEach installation whole outer (front :: more) =
          importEach installation whole (some (front, found)) more) ∨
      exists failure, Stops installation whole front failure ∧
        importEach installation whole outer (front :: more) = .error failure := by
  rw [importEach]
  cases hfront : installation front with
  | none => exact .inr ⟨_, h.stops hfront, rfl⟩
  | some found =>
      cases found with
      | module found => exact .inl ⟨found, rfl, rfl⟩
      | broken reason => exact .inr ⟨_, .broken hfront, rfl⟩
      | failing reason => exact .inr ⟨_, .failing hfront, rfl⟩

theorem enclosing_parts_dot (front rest : Text) :
    enclosing front (Text.parts '.' ('.' :: rest)) =
      front :: enclosing (front ++ ['.']) (Text.parts '.' rest) := by
  simp [Text.parts, enclosing]

theorem enclosing_parts_cons (front rest : Text) {c : Char} (hc : c ≠ '.') :
    enclosing front (Text.parts '.' (c :: rest)) =
      enclosing (front ++ [c]) (Text.parts '.' rest) := by
  rw [Text.parts, if_neg hc]
  cases hparts : Text.parts '.' rest with
  | nil => exact absurd hparts (Text.parts_ne_nil '.' rest)
  | cons part more => simp [Text.consFirst, enclosing]

/-- The induction is on what is left of the name, behind the front that has been gone through. -/
theorem importEach_imports (hdot : name.head? ≠ some '.') (rest : Text)
    (h : Entered installation front outer) (hname : name = front ++ rest) :
    Imports installation name
      (importEach installation name outer (enclosing front (Text.parts '.' rest))) := by
  induction rest generalizing front outer with
  | nil =>
      rw [List.append_nil] at hname
      subst hname
      rw [Text.parts, enclosing, List.append_nil, enclosing]
      rcases importEach_cases h [] with ⟨found, hfound, heach⟩ | ⟨failure, hstops, heach⟩
      · rw [heach]
        exact .found hdot h.reaches hfound
      · rw [heach]
        exact .stopped hdot (.inl rfl) h.reaches hstops
  | cons c rest ih =>
      by_cases hc : c = '.'
      · subst hc
        rw [enclosing_parts_dot]
        have hbehind : name = (front ++ ['.']) ++ rest := by
          rw [hname, List.append_assoc, List.singleton_append]
        rcases importEach_cases h (enclosing (front ++ ['.']) (Text.parts '.' rest)) with
          ⟨found, hfound, heach⟩ | ⟨failure, hstops, heach⟩
        · rw [heach]
          exact ih (h.enter hfound) hbehind
        · rw [heach]
          exact .stopped hdot (.inr ⟨rest, hbehind.symm⟩) h.reaches hstops
      · rw [enclosing_parts_cons front rest hc]
        exact ih (h.more hc) (by rw [hname, List.append_assoc, List.singleton_append])

theorem importModule_imports (installation : Installation ε) (name : Text) :
    Imports installation name (importModule installation name) := by
  unfold importModule
  split
  · rename_i hdot
    exact .relative hdot
  · rename_i hdot
    exact importEach_imports hdot name (.outside nofun) rfl

/-!
# What importing comes to is one outcome
-/

theorem Stops.no_module {failure : Failure} (h : Stops installation whole stop failure) :
    ¬ exists found, installation stop = some (.module found) := by
  intro hmodule
  rcases hmodule with ⟨found, hfound⟩
  cases h with
  | missing hnone => cases hnone.symm.trans hfound
  | insideModule hnone => cases hnone.symm.trans hfound
  | broken hbroken => cases hbroken.symm.trans hfound
  | failing hfailing => cases hfailing.symm.trans hfound

theorem Stops.unique {failure other : Failure} (h : Stops installation whole stop failure)
    (hother : Stops installation whole stop other) : failure = other := by
  -- What stands at the name tells all failures apart but the first two, and the module right
  -- around the name tells those.
  cases h with
  | missing hnone hpackage =>
      cases hother with
      | missing => rfl
      | insideModule _ haround hfound hno =>
          cases (hpackage _ _ haround hfound).symm.trans hno
      | broken hbroken => cases hnone.symm.trans hbroken
      | failing hfailing => cases hnone.symm.trans hfailing
  | insideModule hnone haround hfound hno =>
      cases hother with
      | missing _ hpackage => cases (hpackage _ _ haround hfound).symm.trans hno
      | insideModule _ hotherAround => rw [haround.unique hotherAround]
      | broken hbroken => cases hnone.symm.trans hbroken
      | failing hfailing => cases hnone.symm.trans hfailing
  | broken hbroken =>
      cases hother with
      | missing hnone => cases hnone.symm.trans hbroken
      | insideModule hnone => cases hnone.symm.trans hbroken
      | broken hother =>
          cases hbroken.symm.trans hother
          rfl
      | failing hfailing => cases hbroken.symm.trans hfailing
  | failing hfailing =>
      cases hother with
      | missing hnone => cases hnone.symm.trans hfailing
      | insideModule hnone => cases hnone.symm.trans hfailing
      | broken hbroken => cases hbroken.symm.trans hfailing
      | failing hother =>
          cases hfailing.symm.trans hother
          rfl

theorem Stops.same_stop {other : Text} {failure otherFailure : Failure}
    (h : Stops installation whole stop failure)
    (hother : Stops installation whole other otherFailure)
    (hencloses : Encloses stop name) (hotherEncloses : Encloses other name)
    (hreaches : Reaches installation stop) (hotherReaches : Reaches installation other) :
    stop = other := by
  rcases hencloses.linear hotherEncloses with hsame | haround | haround
  · exact hsame
  · exact absurd (hotherReaches stop haround) h.no_module
  · exact absurd (hreaches other haround) hother.no_module

theorem Stops.not_found {failure : Failure} {found : Module ε}
    (h : Stops installation whole stop failure) (hencloses : Encloses stop name)
    (hreaches : Reaches installation name) : installation name ≠ some (.module found) := by
  intro hfound
  rcases hencloses with rfl | haround
  · exact h.no_module ⟨found, hfound⟩
  · exact h.no_module (hreaches stop haround)

theorem Imports.unique {outcome other : Except Failure (Module ε)}
    (h : Imports installation name outcome) (hother : Imports installation name other) :
    outcome = other := by
  cases h with
  | relative hdot =>
      cases hother with
      | relative => rfl
      | found hno => exact absurd hdot hno
      | stopped hno => exact absurd hdot hno
  | found hno hreaches hfound =>
      cases hother with
      | relative hdot => exact absurd hdot hno
      | found _ _ hother =>
          cases hfound.symm.trans hother
          rfl
      | stopped _ hencloses _ hstops => exact absurd hfound (hstops.not_found hencloses hreaches)
  | stopped hno hencloses hreaches hstops =>
      cases hother with
      | relative hdot => exact absurd hdot hno
      | found _ hotherReaches hfound =>
          exact absurd hfound (hstops.not_found hencloses hotherReaches)
      | stopped _ hotherEncloses hotherReaches hotherStops =>
          have hsame := hstops.same_stop hotherStops hencloses hotherEncloses hreaches hotherReaches
          subst hsame
          rw [hstops.unique hotherStops]

theorem importModule_eq_iff {outcome : Except Failure (Module ε)} :
    importModule installation name = outcome <-> Imports installation name outcome := by
  constructor
  · intro houtcome
    rw [← houtcome]
    exact importModule_imports installation name
  · exact (importModule_imports installation name).unique

end

end EngineFactory
end ScopeProbe
