import ScopeProbe.GrammarFile
import ScopeProbe.Proofs.Format.Json
import ScopeProbe.Proofs.Format.PropertyLists

/-!
# What becomes of a grammar file

A file that can be read gives a definition or is told to be at fault, unless what
is in it breaks the reader of its format.  Where there is room for everything
that is nested in it, only a property list in markup can do that.
-/

namespace ScopeProbe
namespace GrammarFile

open Encoding (Octets)

def Told (path : Path) (outcome : Except Failure Definition) : Prop :=
  (exists definition, outcome = .ok definition) ∨
    exists fault, outcome = .error (.load fault) ∧ fault.path? = some path

/-- What is in a file breaks the reader of its format. -/
inductive Breaks (room : Room) (path : Path) (octets : Octets) : Breakdown -> Prop
  | json {text : WideText} {occasion : String} (hsuffix : path.suffix = jsonSuffix)
      (htext : Format.Json.decode? octets = some text)
      (hout : Format.Json.RunsOut room.json {} (Format.Json.lexemes text) occasion) :
      Breaks room path octets (.tooDeep occasion)
  | list {fault : Format.PropertyList.Fault} {cause : Breakdown}
      (hsuffix : path.suffix ≠ jsonSuffix)
      (hbreaks : Format.PropertyList.Breaks room.archive octets fault)
      (hcause : propertyListFailure path fault = .breakdown cause) :
      Breaks room path octets cause

section

variable {room : Room} {path : Path} {octets : Octets} {cause : Breakdown}

theorem jsonFailure_cases (path : Path) (fault : Format.Json.Fault) :
    (fault = .malformed ∧ jsonFailure path fault = .load (.malformed path)) ∨
      exists occasion, fault = .tooDeep occasion ∧
        jsonFailure path fault = .breakdown (.tooDeep occasion) := by
  cases fault with
  | malformed => exact .inl ⟨rfl, rfl⟩
  | tooDeep occasion => exact .inr ⟨occasion, rfl, rfl⟩

theorem propertyListFailure_cases (path : Path) (fault : Format.PropertyList.Fault) :
    (fault = .malformed ∧ propertyListFailure path fault = .load (.malformed path)) ∨
      exists cause, fault ≠ .malformed ∧ propertyListFailure path fault = .breakdown cause := by
  cases fault with
  | malformed => exact .inl ⟨rfl, rfl⟩
  | tooDeep occasion => exact .inr ⟨_, nofun, rfl⟩
  | unknownEncoding name => exact .inr ⟨_, nofun, rfl⟩
  | textlessEncoding name => exact .inr ⟨_, nofun, rfl⟩
  | noDate => exact .inr ⟨_, nofun, rfl⟩
  | incompleteDate missing => exact .inr ⟨_, nofun, rfl⟩
  | outsideContainer => exact .inr ⟨_, nofun, rfl⟩

theorem value_error {failure : Failure} (h : value room path octets = .error failure) :
    failure = .load (.malformed path) ∨
      exists cause, failure = .breakdown cause ∧ Breaks room path octets cause := by
  unfold value at h
  split at h
  · rename_i hsuffix
    rcases mapError_eq_error.mp h with ⟨fault, hfault, rfl⟩
    rcases jsonFailure_cases path fault with ⟨_hfault, hmalformed⟩ | ⟨occasion, rfl, hcause⟩
    · exact .inl hmalformed
    · rcases Format.Json.read_eq_tooDeep.mp hfault with ⟨text, htext, hout⟩
      exact .inr ⟨_, hcause, .json hsuffix htext hout⟩
  · rename_i hsuffix
    rcases mapError_eq_error.mp h with ⟨fault, hfault, rfl⟩
    rcases propertyListFailure_cases path fault with
      ⟨_hfault, hmalformed⟩ | ⟨cause, hother, hcause⟩
    · exact .inl hmalformed
    · exact .inr ⟨cause, hcause,
        .list hsuffix ((Format.PropertyList.read_eq_error hother).mp hfault) hcause⟩

theorem value_of_breaks (h : Breaks room path octets cause) :
    value room path octets = .error (.breakdown cause) := by
  unfold value
  cases h with
  | json hsuffix htext hout =>
      rw [if_pos hsuffix, Format.Json.read_eq_tooDeep.mpr ⟨_, htext, hout⟩]
      rfl
  | list hsuffix hbreaks hcause =>
      rename_i fault
      have hother : fault ≠ .malformed := by
        rintro rfl
        cases hcause
      rw [if_neg hsuffix, (Format.PropertyList.read_eq_error hother).mpr hbreaks]
      exact congrArg Except.error hcause

theorem definition_of_value_error {failure : Failure}
    (h : value room path octets = .error failure) :
    definition room path octets = .error failure := by
  rw [definition, h]
  rfl

theorem definition_cases (room : Room) (path : Path) (octets : Octets) :
    Told path (definition room path octets) ∨
      exists cause, definition room path octets = .error (.breakdown cause) ∧
        Breaks room path octets cause := by
  cases hvalue : value room path octets with
  | error failure =>
      rw [definition_of_value_error hvalue]
      rcases value_error hvalue with rfl | ⟨cause, rfl, hbreaks⟩
      · exact .inl (.inr ⟨.malformed path, rfl, rfl⟩)
      · exact .inr ⟨cause, rfl, hbreaks⟩
  | ok found =>
      rw [definition, hvalue]
      cases found with
      | table table => exact .inl (.inl ⟨table, rfl⟩)
      | _ => exact .inl (.inr ⟨.notTable path, rfl, rfl⟩)

theorem not_told_breakdown : ¬ Told path (.error (.breakdown cause)) := by
  rintro (⟨table, h⟩ | ⟨fault, h, _hpath⟩)
  · cases h
  · cases h

end

/-- A file that can be read gives a definition or is told to be at fault exactly if what is in it
does not break the reader of its format, and what escapes otherwise is what breaks it. -/
theorem grammar_told_iff {room : Room} {files : FileSystem} {path : Path} {octets : Octets}
    (hread : files.read path = .ok octets) :
    (Told path (read room files path) <-> ¬ exists cause, Breaks room path octets cause) ∧
      forall cause, read room files path = .error (.breakdown cause) <->
        Breaks room path octets cause := by
  have hdefinition : read room files path = definition room path octets := by
    rw [read, hread]
    rfl
  have hbroken {cause : Breakdown} (hbreaks : Breaks room path octets cause) :
      definition room path octets = .error (.breakdown cause) :=
    definition_of_value_error (value_of_breaks hbreaks)
  rw [hdefinition]
  rcases definition_cases room path octets with htold | ⟨cause, houtcome, hbreaks⟩
  · have hnone (cause : Breakdown) : definition room path octets ≠ .error (.breakdown cause) := by
      intro houtcome
      rw [houtcome] at htold
      exact not_told_breakdown htold
    refine ⟨iff_of_true htold ?_, ?_⟩
    · rintro ⟨cause, hbreaks⟩
      exact hnone cause (hbroken hbreaks)
    · intro cause
      exact iff_of_false (hnone cause) fun hbreaks => hnone cause (hbroken hbreaks)
  · refine ⟨iff_of_false ?_ ?_, ?_⟩
    · rw [houtcome]
      exact not_told_breakdown
    · intro hnone
      exact hnone ⟨cause, hbreaks⟩
    · intro other
      constructor
      · intro h
        rw [houtcome] at h
        cases h
        exact hbreaks
      · exact hbroken

def listPath : Path where
  anchor := .relative
  parts := ["g.plist"]

def octetsOf (content : String) : Octets :=
  content.toUTF8.toList

def listFiles (content : String) : FileSystem where
  files := [(["g.plist"], octetsOf content)]

theorem lone_name_not_told :
    (listFiles "<plist><key>a</key></plist>").read listPath =
        .ok (octetsOf "<plist><key>a</key></plist>") ∧
      ¬ Told listPath (read .ample (listFiles "<plist><key>a</key></plist>") listPath) := by
  have hread : (listFiles "<plist><key>a</key></plist>").read listPath =
      .ok (octetsOf "<plist><key>a</key></plist>") := rfl
  have hevents : (Format.Markup.read (octetsOf "<plist><key>a</key></plist>")).events =
      [.start "plist", .start "key", .text ['a']] ++ .stop "key" :: [.stop "plist"] := by
    decide +kernel
  have hdocument : Format.PropertyList.BreaksDocument (octetsOf "<plist><key>a</key></plist>")
      .outsideContainer := .event hevents rfl (.name rfl rfl rfl)
  have hbreaks : Breaks .ample listPath (octetsOf "<plist><key>a</key></plist>")
      .outsideContainer := .list (by decide) (.document (by decide +kernel) hdocument) rfl
  refine ⟨hread, ?_⟩
  intro htold
  exact (grammar_told_iff hread).left.mp htold ⟨_, hbreaks⟩

theorem date_in_words_not_told :
    ¬ Told listPath (read .ample
      (listFiles "<plist><dict><key>d</key><date>today</date></dict></plist>") listPath) := by
  have hfailure : (match read .ample
      (listFiles "<plist><dict><key>d</key><date>today</date></dict></plist>") listPath with
      | .error (.breakdown cause) => some cause
      | _ => none) = some .noDate := by
    decide +kernel
  rintro (⟨table, h⟩ | ⟨fault, h, _hpath⟩)
  · rw [h] at hfailure
    cases hfailure
  · rw [h] at hfailure
    cases hfailure

end GrammarFile
end ScopeProbe
