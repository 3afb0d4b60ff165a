import Mathlib.Logic.Basic
import ScopeProbe.Proofs.Outcomes
import ScopeProbe.Proofs.Vocabulary
import ScopeProbe.Session

/-!
# Settings follow their order of precedence

A configuration is checked in a fixed order, whether its values are used or not,
and the first fault that is found is told.  If there is none, each setting is
the one given directly, else the one of the configuration, else the usual one.
-/

namespace ScopeProbe

/-!
# Names of levels
-/

theorem LogLevel.name_injective : Function.Injective LogLevel.name :=
  injective_of_read LogLevel.ofName?_name

namespace Settings

/-!
# Checks
-/

def tableOf (config : Table) (part : ConfigSection) : Table :=
  match config.get? part.name with
  | some (.table table) => table
  | _ => []

def valueOf? (config : Table) (part : ConfigSection) (key : String) : Option Value :=
  (tableOf config part).get? key

def textOf? (config : Table) (part : ConfigSection) (key : String) : Option String :=
  match valueOf? config part key with
  | some (.text text) => some text
  | _ => none

/-- How a setting is chosen: one given directly as it is, one read from a text of the configuration
unless the text is empty, or the usual one. -/
inductive Chosen {α : Type} (read : String -> α) (usual : α) :
    (direct : Option α) -> (configured : Option String) -> α -> Prop
  | direct (value : α) (configured : Option String) :
      Chosen read usual (some value) configured value
  | configured {text : String} (hsome : text ≠ "") :
      Chosen read usual none (some text) (read text)
  | usual {configured : Option String} (hnone : configured = none ∨ configured = some "") :
      Chosen read usual none configured usual

def ChosenLevel (config : Table) (overrides : Overrides) (name : String) : Prop :=
  Chosen id "WARNING" overrides.level (textOf? config .logging "level") name

structure Follows (config : Table) (folder : Path) (overrides : Overrides) (settings : Settings) :
    Prop where
  scope : Chosen id "source.mana" overrides.scope (textOf? config .grammar "scope") settings.scope
  grammarPath :
    Chosen (fun text => folder.join (Path.ofString text))
      (folder.join (Path.ofString "grammars/mana.tmLanguage"))
      overrides.grammarPath (textOf? config .grammar "path") settings.grammarPath
  factory : settings.factory = overrides.factory.or (textOf? config .engine "factory")
  level : exists name, ChosenLevel config overrides name ∧
    settings.level.name.toList = Unicode.upperText name.toList

inductive Check where
  | table (part : ConfigSection)
  | text (part : ConfigSection) (key : String)
  | level

def checks : List Check :=
  [.table .grammar, .table .engine, .table .logging, .text .grammar "scope",
    .text .grammar "path", .text .engine "factory", .text .logging "level", .level]

/-- What a check finds: a part that is there and no table, a value that is there and neither null
nor a text, or a level whose name in capitals is no name of a level. -/
inductive Finds (config : Table) (overrides : Overrides) : Check -> ConfigFault -> Prop
  | notTable {part : ConfigSection} {value : Value} (hvalue : config.get? part.name = some value)
      (hother : forall table, value ≠ .table table) :
      Finds config overrides (.table part) (.notTable part)
  | notText {part : ConfigSection} {key : String} {value : Value}
      (hvalue : valueOf? config part key = some value) (hnull : value ≠ .null)
      (hother : forall text, value ≠ .text text) :
      Finds config overrides (.text part key) (.notText part key)
  | unknownLevel {name : String} (hname : ChosenLevel config overrides name)
      (hunknown : forall level : LogLevel, level.name.toList ≠ Unicode.upperText name.toList) :
      Finds config overrides .level (.unknownLevel (Unicode.upperText name.toList))

def Passes (config : Table) (overrides : Overrides) (list : List Check) : Prop :=
  forall check, check ∈ list -> forall fault, ¬ Finds config overrides check fault

/-- The first check that finds anything finds a fault. -/
inductive FirstFault (config : Table) (overrides : Overrides) : List Check -> ConfigFault -> Prop
  | here {check : Check} {fault : ConfigFault} (later : List Check)
      (hfinds : Finds config overrides check fault) :
      FirstFault config overrides (check :: later) fault
  | later {check : Check} {later : List Check} {fault : ConfigFault}
      (hnone : forall fault, ¬ Finds config overrides check fault)
      (hfirst : FirstFault config overrides later fault) :
      FirstFault config overrides (check :: later) fault

inductive Checked {α : Type} (config : Table) (overrides : Overrides) (list : List Check)
    (Good : α -> Prop) : Except Failure α -> Prop
  | fault {fault : ConfigFault} (hfirst : FirstFault config overrides list fault) :
      Checked config overrides list Good (.error (.config fault))
  | value {value : α} (hpasses : Passes config overrides list) (hgood : Good value) :
      Checked config overrides list Good (.ok value)

/-!
# What is chosen is one value
-/

theorem Chosen.unique {α : Type} {read : String -> α} {usual value other : α} {direct : Option α}
    {configured : Option String} (hvalue : Chosen read usual direct configured value)
    (hother : Chosen read usual direct configured other) : value = other := by
  cases hvalue with
  | direct => cases hother with
    | direct => rfl
  | configured hsome => cases hother with
    | configured => rfl
    | usual hnone => exact absurd (by simpa using hnone) hsome
  | usual hnone => cases hother with
    | configured hsome => exact absurd (by simpa using hnone) hsome
    | usual => rfl

theorem chosen_getD {α : Type} (read : String -> α) (usual : α) (direct : Option α)
    (configured : Option String) :
    Chosen read usual direct configured
      ((direct <|> (nonempty configured).map read).getD usual) := by
  cases direct with
  | some value => exact .direct value configured
  | none =>
      cases configured with
      | none => exact .usual (.inl rfl)
      | some text =>
          by_cases hempty : text = ""
          · subst hempty
            exact .usual (.inr rfl)
          · have hnonempty : nonempty (some text) = some text := by simp [nonempty, hempty]
            rw [hnonempty]
            exact .configured hempty

theorem chosen_text (usual : String) (direct configured : Option String) :
    Chosen id usual direct configured ((direct <|> nonempty configured).getD usual) := by
  have hchosen := chosen_getD id usual direct configured
  rwa [Option.map_id_fun, id] at hchosen

theorem chosen_grammarPath (folder : Path) (direct : Option Path) (configured : Option String) :
    Chosen (fun text => folder.join (Path.ofString text)) (folder.join usualGrammarPath) direct
      configured (chooseGrammarPath direct configured folder) := by
  have hchosen := chosen_getD (fun text => folder.join (Path.ofString text))
    (folder.join usualGrammarPath) direct configured
  have hpath : chooseGrammarPath direct configured folder =
      (direct <|> (nonempty configured).map fun text => folder.join (Path.ofString text)).getD
        (folder.join usualGrammarPath) := by
    unfold chooseGrammarPath
    cases direct with
    | some path => rfl
    | none => cases nonempty configured <;> rfl
  rwa [hpath]

theorem Follows.unique {config : Table} {folder : Path} {overrides : Overrides}
    {settings other : Settings} (hsettings : Follows config folder overrides settings)
    (hother : Follows config folder overrides other) : settings = other := by
  rcases hsettings with ⟨hscope, hpath, hfactory, name, hname, hlevel⟩
  rcases hother with ⟨hscope', hpath', hfactory', name', hname', hlevel'⟩
  have hlevels : settings.level = other.level := by
    apply LogLevel.name_injective
    rw [← String.toList_inj, hlevel, hlevel', hname.unique hname']
  cases settings
  cases other
  simp only [Settings.mk.injEq]
  exact ⟨hscope.unique hscope', hpath.unique hpath', hfactory.trans hfactory'.symm, hlevels⟩

/-!
# The first fault
-/

section

variable {config : Table} {overrides : Overrides}

theorem Finds.unique {check : Check} {fault other : ConfigFault}
    (hfault : Finds config overrides check fault) (hother : Finds config overrides check other) :
    fault = other := by
  cases hfault with
  | notTable => cases hother with
    | notTable => rfl
  | notText => cases hother with
    | notText => rfl
  | unknownLevel hname => cases hother with
    | unknownLevel hname' => rw [hname.unique hname']

theorem FirstFault.unique {list : List Check} {fault other : ConfigFault}
    (hfault : FirstFault config overrides list fault)
    (hother : FirstFault config overrides list other) : fault = other := by
  induction hfault with
  | here later hfinds => cases hother with
    | here _ hfinds' => exact hfinds.unique hfinds'
    | later hnone _ => exact absurd hfinds (hnone _)
  | later hnone _ ih => cases hother with
    | here _ hfinds => exact absurd hfinds (hnone _)
    | later _ hfirst => exact ih hfirst

theorem Passes.append {front back : List Check} (hfront : Passes config overrides front)
    (hback : Passes config overrides back) : Passes config overrides (front ++ back) :=
  List.forall_mem_append.mpr ⟨hfront, hback⟩

theorem FirstFault.not_passes {list : List Check} {fault : ConfigFault}
    (hfirst : FirstFault config overrides list fault) : ¬ Passes config overrides list := by
  intro hpasses
  induction hfirst with
  | here later hfinds => exact hpasses _ List.mem_cons_self _ hfinds
  | later _ _ ih => exact ih (List.forall_mem_cons.mp hpasses).right

theorem FirstFault.append {front : List Check} {fault : ConfigFault}
    (hfirst : FirstFault config overrides front fault) (back : List Check) :
    FirstFault config overrides (front ++ back) fault := by
  induction hfirst with
  | here later hfinds => exact .here (later ++ back) hfinds
  | later hnone _ ih => exact .later hnone ih

theorem FirstFault.behind {front back : List Check} {fault : ConfigFault}
    (hpasses : Passes config overrides front) (hfirst : FirstFault config overrides back fault) :
    FirstFault config overrides (front ++ back) fault := by
  induction front with
  | nil => exact hfirst
  | cons check more ih =>
      rcases List.forall_mem_cons.mp hpasses with ⟨hcheck, hmore⟩
      exact .later hcheck (ih hmore)

/-!
# Checks that follow one another
-/

theorem Checked.bind {α β : Type} {front back : List Check} {Good : α -> Prop} {Better : β -> Prop}
    {outcome : Except Failure α} {next : α -> Except Failure β}
    (hfront : Checked config overrides front Good outcome)
    (hback : forall value, Good value -> Checked config overrides back Better (next value)) :
    Checked config overrides (front ++ back) Better (outcome >>= next) := by
  cases hfront with
  | fault hfirst => exact .fault (hfirst.append back)
  | @value value hpasses hgood =>
      -- Nothing is found in front, so the first fault of the others is the first one of all.
      show Checked config overrides (front ++ back) Better (next value)
      generalize hnext : next value = found
      have hfound := hback value hgood
      rw [hnext] at hfound
      cases hfound with
      | fault hfirst => exact .fault (hfirst.behind hpasses)
      | value hmore hbetter => exact .value (hpasses.append hmore) hbetter

theorem Checked.cons {α β : Type} {check : Check} {later : List Check} {Good : α -> Prop}
    {Better : β -> Prop} {outcome : Except Failure α} {next : α -> Except Failure β}
    (hcheck : Checked config overrides [check] Good outcome)
    (hlater : forall value, Good value -> Checked config overrides later Better (next value)) :
    Checked config overrides (check :: later) Better (outcome >>= next) :=
  hcheck.bind hlater

theorem checked_of_none {α : Type} {check : Check} {Good : α -> Prop} {value : α}
    (hnone : forall fault, ¬ Finds config overrides check fault) (hgood : Good value) :
    Checked config overrides [check] Good (.ok value) := by
  refine .value ?_ hgood
  intro other hother
  rw [List.mem_singleton.mp hother]
  exact hnone

theorem tableAt_checked (config : Table) (overrides : Overrides) (part : ConfigSection) :
    Checked config overrides [.table part] (fun table => table = tableOf config part)
      (tableAt config part) := by
  unfold tableAt
  split
  · rename_i habsent
    apply checked_of_none
    · intro fault hfinds
      cases hfinds with
      | notTable hvalue => cases habsent.symm.trans hvalue
    · rw [tableOf, habsent]
  · rename_i table htable
    apply checked_of_none
    · intro fault hfinds
      cases hfinds with
      | notTable hvalue hother =>
          cases htable.symm.trans hvalue
          exact hother table rfl
    · rw [tableOf, htable]
  · rename_i value hother hvalue
    exact .fault (.here [] (.notTable hvalue hother))

theorem textAt_checked (config : Table) (overrides : Overrides) (part : ConfigSection)
    (key : String) :
    Checked config overrides [.text part key] (fun text => text = textOf? config part key)
      (textAt (tableOf config part) part key) := by
  unfold textAt
  split
  · rename_i habsent
    apply checked_of_none
    · intro fault hfinds
      cases hfinds with
      | notText hvalue => cases habsent.symm.trans hvalue
    · rw [textOf?, valueOf?, habsent]
  · rename_i hnull
    apply checked_of_none
    · intro fault hfinds
      cases hfinds with
      | notText hvalue hnotNull =>
          cases hnull.symm.trans hvalue
          exact hnotNull rfl
    · rw [textOf?, valueOf?, hnull]
  · rename_i text htext
    apply checked_of_none
    · intro fault hfinds
      cases hfinds with
      | notText hvalue _ hother =>
          cases htext.symm.trans hvalue
          exact hother text rfl
    · rw [textOf?, valueOf?, htext]
  · rename_i value hnull hother hvalue
    exact .fault (.here [] (.notText hvalue hnull hother))

theorem levelNamed_checked {name : String} (hname : ChosenLevel config overrides name) :
    Checked config overrides [.level]
      (fun level => level.name.toList = Unicode.upperText name.toList) (levelNamed name) := by
  simp only [levelNamed]
  split
  · rename_i level hlevel
    have hspelled : level.name.toList = Unicode.upperText name.toList := by
      have hfound := List.find?_some hlevel
      rw [of_decide_eq_true hfound, String.toList_ofList]
    apply checked_of_none
    · intro fault hfinds
      cases hfinds with
      | unknownLevel hname' hunknown =>
          rw [hname'.unique hname] at hunknown
          exact hunknown level hspelled
    · exact hspelled
  · rename_i hnone
    refine .fault (.here [] (.unknownLevel hname ?_))
    intro level hspelled
    have hother := List.find?_eq_none.mp hnone level level.mem_all
    apply hother
    rw [← hspelled, String.ofList_toList]
    exact decide_eq_true rfl

def textsOf (config : Table) : Configured where
  scope := textOf? config .grammar "scope"
  path := textOf? config .grammar "path"
  factory := textOf? config .engine "factory"
  level := textOf? config .logging "level"

theorem configured_checked (config : Table) (overrides : Overrides) :
    Checked config overrides
      [.table .grammar, .table .engine, .table .logging, .text .grammar "scope",
        .text .grammar "path", .text .engine "factory", .text .logging "level"]
      (fun given => given = textsOf config) (configured config) := by
  unfold configured
  refine (tableAt_checked config overrides .grammar).cons ?_
  rintro _ rfl
  refine (tableAt_checked config overrides .engine).cons ?_
  rintro _ rfl
  refine (tableAt_checked config overrides .logging).cons ?_
  rintro _ rfl
  refine (textAt_checked config overrides .grammar "scope").cons ?_
  rintro _ rfl
  refine (textAt_checked config overrides .grammar "path").cons ?_
  rintro _ rfl
  refine (textAt_checked config overrides .engine "factory").cons ?_
  rintro _ rfl
  refine (textAt_checked config overrides .logging "level").cons ?_
  rintro _ rfl
  exact .value nofun rfl

theorem resolve_checked (config : Table) (folder : Path) (overrides : Overrides) :
    Checked config overrides checks (Follows config folder overrides)
      (resolve config folder overrides) := by
  unfold resolve
  refine (configured_checked config overrides).bind ?_
  rintro _ rfl
  have hname : ChosenLevel config overrides _ :=
    chosen_text LogLevel.warning.name overrides.level (textOf? config .logging "level")
  refine (levelNamed_checked hname).bind ?_
  intro level hlevel
  -- No check is left behind the one of the level.
  refine .value nofun ?_
  exact {
    scope := chosen_text usualScope overrides.scope (textOf? config .grammar "scope")
    grammarPath :=
      chosen_grammarPath folder overrides.grammarPath (textOf? config .grammar "path")
    factory := Option.orElse_eq_or
    level := ⟨_, hname, hlevel⟩ }

/-!
# Outcomes
-/

theorem Checked.eq_error_iff {α : Type} {list : List Check} {Good : α -> Prop}
    {outcome : Except Failure α} (hchecked : Checked config overrides list Good outcome)
    (failure : Failure) :
    outcome = .error failure <->
      exists fault, failure = .config fault ∧ FirstFault config overrides list fault := by
  cases hchecked with
  | @fault fault hfirst =>
      constructor
      · intro heq
        cases heq
        exact ⟨fault, rfl, hfirst⟩
      · rintro ⟨other, rfl, hother⟩
        rw [hfirst.unique hother]
  | value hpasses =>
      constructor
      · nofun
      · rintro ⟨fault, _hfailure, hfirst⟩
        exact absurd hpasses hfirst.not_passes

theorem Checked.passes {α : Type} {list : List Check} {Good : α -> Prop} {value : α}
    (hchecked : Checked config overrides list Good (.ok value)) :
    Passes config overrides list := by
  cases hchecked with
  | value hpasses => exact hpasses

theorem Checked.eq_ok_iff {α : Type} {list : List Check} {Good : α -> Prop}
    {outcome : Except Failure α} (hchecked : Checked config overrides list Good outcome)
    (hunique : forall value other, Good value -> Good other -> value = other) (value : α) :
    outcome = .ok value <-> Passes config overrides list ∧ Good value := by
  cases hchecked with
  | fault hfirst =>
      constructor
      · nofun
      · rintro ⟨hpasses, _hgood⟩
        exact absurd hpasses hfirst.not_passes
  | @value found hpasses hgood =>
      constructor
      · intro heq
        cases heq
        exact ⟨hpasses, hgood⟩
      · rintro ⟨_hpasses, hvalue⟩
        rw [hunique found value hgood hvalue]

theorem resolve_eq_error_iff (config : Table) (folder : Path) (overrides : Overrides)
    (failure : Failure) :
    resolve config folder overrides = .error failure <->
      exists fault, failure = .config fault ∧ FirstFault config overrides checks fault :=
  (resolve_checked config folder overrides).eq_error_iff failure

theorem resolve_eq_ok_iff (config : Table) (folder : Path) (overrides : Overrides)
    (settings : Settings) :
    resolve config folder overrides = .ok settings <->
      Passes config overrides checks ∧ Follows config folder overrides settings :=
  (resolve_checked config folder overrides).eq_ok_iff (fun _ _ => Follows.unique) settings

/-!
# A level given directly

The level of a configuration is then checked to be a text, and nothing else depends on it.
-/

/-- Configurations that differ in their logging alone, where no fault is found in either. -/
structure DifferInLogging (overrides : Overrides) (config other : Table) : Prop where
  given : overrides.level ≠ none
  same (part : ConfigSection) : part ≠ .logging -> other.get? part.name = config.get? part.name
  passes : Passes config overrides [.table .logging, .text .logging "level"]
  otherPasses : Passes other overrides [.table .logging, .text .logging "level"]

namespace DifferInLogging

variable {other : Table}

theorem symm (h : DifferInLogging overrides config other) :
    DifferInLogging overrides other config where
  given := h.given
  same part hpart := (h.same part hpart).symm
  passes := h.otherPasses
  otherPasses := h.passes

theorem valueOf? (h : DifferInLogging overrides config other) {part : ConfigSection}
    (hpart : part ≠ .logging) (key : String) :
    valueOf? other part key = valueOf? config part key := by
  rw [Settings.valueOf?, Settings.valueOf?, tableOf, tableOf, h.same part hpart]

theorem textOf? (h : DifferInLogging overrides config other) {part : ConfigSection}
    (hpart : part ≠ .logging) (key : String) :
    textOf? other part key = textOf? config part key := by
  rw [Settings.textOf?, Settings.textOf?, h.valueOf? hpart]

theorem chosenLevel (h : DifferInLogging overrides config other) {name : String}
    (hname : ChosenLevel config overrides name) : ChosenLevel other overrides name := by
  have hgiven := h.given
  unfold ChosenLevel at hname ⊢
  cases hlevel : overrides.level with
  | none => exact absurd hlevel hgiven
  | some level =>
      rw [hlevel] at hname
      cases hname
      exact .direct name _

theorem finds (h : DifferInLogging overrides config other) {check : Check} {fault : ConfigFault}
    (hcheck : check ∈ checks) (hfinds : Finds config overrides check fault) :
    Finds other overrides check fault := by
  cases hfinds with
  | @notTable part value hvalue hother =>
      by_cases hpart : part = .logging
      · subst hpart
        exact absurd (.notTable hvalue hother) (h.passes _ List.mem_cons_self _)
      · exact .notTable ((h.same part hpart).trans hvalue) hother
  | @notText part key value hvalue hnull hother =>
      by_cases hpart : part = .logging
      · subst hpart
        have hkey : key = "level" := by simpa [checks] using hcheck
        subst hkey
        exact absurd (.notText hvalue hnull hother)
          (h.passes _ (List.mem_cons_of_mem _ List.mem_cons_self) _)
      · exact .notText ((h.valueOf? hpart key).trans hvalue) hnull hother
  | unknownLevel hname hunknown => exact .unknownLevel (h.chosenLevel hname) hunknown

theorem passesAll (h : DifferInLogging overrides config other)
    (hpasses : Passes config overrides checks) : Passes other overrides checks := by
  intro check hcheck fault hfinds
  exact hpasses check hcheck fault (h.symm.finds hcheck hfinds)

theorem firstFault (h : DifferInLogging overrides config other) {list : List Check}
    {fault : ConfigFault} (hlist : list ⊆ checks)
    (hfirst : FirstFault config overrides list fault) : FirstFault other overrides list fault := by
  induction hfirst with
  | here later hfinds => exact .here later (h.finds (hlist List.mem_cons_self) hfinds)
  | later hnone _ ih =>
      refine .later ?_ (ih (List.subset_of_cons_subset hlist))
      intro fault hfinds
      exact hnone fault (h.symm.finds (hlist List.mem_cons_self) hfinds)

theorem follows (h : DifferInLogging overrides config other) {folder : Path} {settings : Settings}
    (hfollows : Follows config folder overrides settings) :
    Follows other folder overrides settings := by
  rcases hfollows with ⟨hscope, hpath, hfactory, name, hname, hlevel⟩
  refine ⟨?_, ?_, ?_, name, h.chosenLevel hname, hlevel⟩
  · rwa [h.textOf? (by decide)]
  · rwa [h.textOf? (by decide)]
  · rwa [h.textOf? (by decide)]

theorem resolve_eq (h : DifferInLogging overrides config other) (folder : Path) :
    resolve other folder overrides = resolve config folder overrides := by
  cases houtcome : resolve config folder overrides with
  | error failure =>
      rcases (resolve_eq_error_iff config folder overrides failure).mp houtcome with
        ⟨fault, hfailure, hfirst⟩
      exact (resolve_eq_error_iff other folder overrides failure).mpr
        ⟨fault, hfailure, h.firstFault (List.Subset.refl checks) hfirst⟩
  | ok settings =>
      rcases (resolve_eq_ok_iff config folder overrides settings).mp houtcome with
        ⟨hpasses, hfollows⟩
      exact (resolve_eq_ok_iff other folder overrides settings).mpr
        ⟨h.passesAll hpasses, h.follows hfollows⟩

end DifferInLogging

/-!
# Absolute paths
-/

theorem anchor_of_slash {text : String} (hslash : text.toList.head? = some '/') :
    (Path.ofString text).anchor ≠ .relative := by
  unfold Path.ofString Path.ofText Path.anchorOf
  cases hchars : text.toList with
  | nil => simp [hchars] at hslash
  | cons char more =>
      rw [hchars, List.head?_cons, Option.some.injEq] at hslash
      subst hslash
      simp only [List.takeWhile_cons, beq_self_eq_true, if_true, List.length_cons]
      split
      · contradiction
      · split <;> nofun

theorem Follows.absolute {folder : Path} {settings : Settings} {text : String}
    (hfollows : Follows config folder overrides settings) (hnone : overrides.grammarPath = none)
    (htext : textOf? config .grammar "path" = some text)
    (hslash : text.toList.head? = some '/') : settings.grammarPath = Path.ofString text := by
  have hpath := hfollows.grammarPath
  have hnonempty : text ≠ "" := by
    rintro rfl
    cases hslash
  rw [hnone, htext] at hpath
  rw [hpath.unique (.configured hnonempty), Path.join_absolute folder (anchor_of_slash hslash)]

/-- A configuration is refused exactly for the first fault that its checks find.  If they find
none, every setting is chosen in the order of precedence, and the level can be set. -/
theorem settings_by_precedence (config : Table) (folder : Path) (overrides : Overrides) :
    (forall failure, resolve config folder overrides = .error failure <->
      exists fault, failure = .config fault ∧ FirstFault config overrides checks fault) ∧
    (forall settings, resolve config folder overrides = .ok settings <->
      Passes config overrides checks ∧ Follows config folder overrides settings) ∧
    (forall settings text, resolve config folder overrides = .ok settings ->
      overrides.grammarPath = none -> textOf? config .grammar "path" = some text ->
      text.toList.head? = some '/' -> settings.grammarPath = Path.ofString text) ∧
    (forall other, DifferInLogging overrides config other ->
      resolve other folder overrides = resolve config folder overrides) ∧
    (forall settings session, resolve config folder overrides = .ok settings ->
      Session.setLevel settings.level.name session =
        { outcome := .ok settings.level
          session := { session with level := settings.level }
          acts := [.setLevel settings.level] }) := by
  refine ⟨resolve_eq_error_iff config folder overrides, resolve_eq_ok_iff config folder overrides,
    ?_, ?_, ?_⟩
  · intro settings text hok hnone htext hslash
    have hfollows := ((resolve_eq_ok_iff config folder overrides settings).mp hok).2
    exact hfollows.absolute hnone htext hslash
  · intro other h
    exact h.resolve_eq folder
  · intro settings session _hok
    rw [Session.setLevel, LogLevel.ofName?_name]
    rfl

end

def loud : Table :=
  [("logging", .table [("level", .text "loud")])]

theorem loud_overridden :
    DifferInLogging { level := some "debug" } loud [] ∧
      resolve loud Path.workingDirectory {} = .error (.config (.unknownLevel "LOUD".toList)) ∧
      resolve loud Path.workingDirectory { level := some "debug" } =
        .ok {
          scope := "source.mana"
          grammarPath := Path.workingDirectory.join (Path.ofString "grammars/mana.tmLanguage")
          factory := none
          level := .debug } ∧
      resolve [] Path.workingDirectory { level := some "debug" } =
        resolve loud Path.workingDirectory { level := some "debug" } := by
  have hdiffer : DifferInLogging { level := some "debug" } loud [] := {
    given := nofun
    same := by
      intro part hpart
      cases part with
      | logging => contradiction
      | grammar => rfl
      | engine => rfl
    passes :=
      (tableAt_checked loud _ .logging).passes.append
        (textAt_checked loud _ .logging "level").passes
    otherPasses :=
      (tableAt_checked [] _ .logging).passes.append
        (textAt_checked [] _ .logging "level").passes }
  exact ⟨hdiffer, rfl, rfl, (settings_by_precedence _ _ _).2.2.2.1 [] hdiffer⟩

end Settings
end ScopeProbe
