import ScopeProbe.ConfigFile
import ScopeProbe.Proofs.Format.Toml.Breaks

/-!
# What becomes of a configuration file

A file that can be read gives the table that is in it or is told to be at fault,
unless its octets break the reader of TOML: they are no text, or the reader comes
to an integer with too many digits or to a value for which there is no room.
-/

namespace ScopeProbe
namespace ConfigFile

open Encoding (Octets)

def Told (room : Room) (path : Path) (octets : Octets) (outcome : Except Failure Table) : Prop :=
  (exists table, Format.Toml.read room.toml octets = .ok table ∧ outcome = .ok table) ∨
    exists fault, outcome = .error (.config fault) ∧ fault.path? = some path

/-- What is in a file breaks the reader of TOML. -/
inductive Breaks (room : Room) (octets : Octets) : Breakdown -> Prop
  | notText (hbreaks : Format.Toml.Breaks room.toml octets .notText) :
      Breaks room octets .notText
  | integer {digits : Nat}
      (hbreaks : Format.Toml.Breaks room.toml octets (.integerTooLong digits)) :
      Breaks room octets (.integerTooLong digits)
  | deep {occasion : String}
      (hbreaks : Format.Toml.Breaks room.toml octets (.tooDeep occasion)) :
      Breaks room octets (.tooDeep occasion)

section

variable {room : Room} {path : Path} {octets : Octets} {cause : Breakdown}

theorem not_told_breakdown : ¬ Told room path octets (.error (.breakdown cause)) := by
  rintro (⟨_table, _hread, h⟩ | ⟨_fault, h, _hpath⟩)
  · cases h
  · cases h

theorem table_cases (room : Room) (path : Path) (octets : Octets) :
    Told room path octets (table room path octets) ∨
      exists cause, Breaks room octets cause ∧
        table room path octets = .error (.breakdown cause) := by
  rw [table]
  cases hread : Format.Toml.read room.toml octets with
  | ok found => exact .inl (.inl ⟨found, hread, rfl⟩)
  | error fault =>
      have hbreaks : fault ≠ .malformed -> Format.Toml.Breaks room.toml octets fault :=
        fun hother => (Format.Toml.read_eq_error hother).mp hread
      cases fault with
      | malformed => exact .inl (.inr ⟨.malformed path, rfl, rfl⟩)
      | notText => exact .inr ⟨_, .notText (hbreaks nofun), rfl⟩
      | integerTooLong digits => exact .inr ⟨_, .integer (hbreaks nofun), rfl⟩
      | tooDeep occasion => exact .inr ⟨_, .deep (hbreaks nofun), rfl⟩

theorem table_of_breaks (h : Breaks room octets cause) :
    table room path octets = .error (.breakdown cause) := by
  rw [table]
  cases h with
  | notText hbreaks | integer hbreaks | deep hbreaks =>
      rw [Format.Toml.read_of_breaks hbreaks]
      rfl

end

/-- A configuration that can be read gives its table or is told to be at fault exactly if what is in
it does not break the reader.  What breaks the reader is passed on as it is. -/
theorem read_told_iff {room : Room} {files : FileSystem} {path : Option Path} {folder : Path}
    {octets : Octets} (hread : files.read (location path folder) = .ok octets) :
    (Told room (location path folder) octets (read room files path folder) <->
        ¬ exists cause, Breaks room octets cause) ∧
      forall cause, Breaks room octets cause ->
        read room files path folder = .error (.breakdown cause) := by
  have htable : read room files path folder = table room (location path folder) octets := by
    rw [read, hread]
  rw [htable]
  refine ⟨⟨?_, ?_⟩, fun cause => table_of_breaks⟩
  · rintro htold ⟨cause, hbreaks⟩
    rw [table_of_breaks hbreaks] at htold
    exact not_told_breakdown htold
  · intro hwhole
    rcases table_cases room (location path folder) octets with htold | ⟨cause, hbreaks, _htable⟩
    · exact htold
    · exact absurd ⟨cause, hbreaks⟩ hwhole

def workingFolder : Path where
  anchor := .relative
  parts := []

def usualFiles (octets : Octets) : FileSystem where
  files := [(["manascope.toml"], octets)]

theorem open_array_told :
    (usualFiles "a = [".toUTF8.toList).read (location none workingFolder) =
        .ok "a = [".toUTF8.toList ∧
      Told .ample (location none workingFolder) "a = [".toUTF8.toList
        (read .ample (usualFiles "a = [".toUTF8.toList) none workingFolder) ∧
      ¬ exists cause, Breaks .ample "a = [".toUTF8.toList cause := by
  have hread : (usualFiles "a = [".toUTF8.toList).read (location none workingFolder) =
      .ok "a = [".toUTF8.toList := by
    rfl
  have hfault : (match read .ample (usualFiles "a = [".toUTF8.toList) none workingFolder with
      | .error failure => some failure
      | .ok _ => none) = some (.config (.malformed (location none workingFolder))) := by
    decide +kernel
  have htold : Told .ample (location none workingFolder) "a = [".toUTF8.toList
      (read .ample (usualFiles "a = [".toUTF8.toList) none workingFolder) := by
    split at hfault
    · rename_i failure houtcome
      cases hfault
      rw [houtcome]
      exact .inr ⟨_, rfl, rfl⟩
    · cases hfault
  exact ⟨hread, htold, (read_told_iff hread).left.mp htold⟩

theorem stray_octet_not_told :
    ¬ Told .ample (location none workingFolder) [0xFF]
      (read .ample (usualFiles [0xFF]) none workingFolder) := by
  have hfailure : read .ample (usualFiles [0xFF]) none workingFolder =
      .error (.breakdown .notText) := by
    rfl
  rw [hfailure]
  exact not_told_breakdown

end ConfigFile
end ScopeProbe
