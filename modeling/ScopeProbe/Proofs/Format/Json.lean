import ScopeProbe.Format.Json
import ScopeProbe.Proofs.Outcomes

/-!
# When a JSON document is too deep

All that a lexeme can be refused for is that it is malformed.  So a document is
too deep exactly if its lexemes are taken up to a place at which there is no
room to go on.
-/

namespace ScopeProbe

namespace Format
namespace Json

/-!
# Lexemes that are refused
-/

namespace Progress

variable {progress next : Progress} {lexeme : Lexeme} {fault : Fault}

theorem leave_eq_error {container : Container} (h : progress.leave container = .error fault) :
    fault = .malformed := by
  unfold leave at h
  split at h
  · cases h
  · cases h
  · exact (Except.error.inj h).symm

theorem name_eq_error {text : WideText} (h : progress.name text = .error fault) :
    fault = .malformed := by
  unfold name at h
  split at h
  · cases h
  · exact (Except.error.inj h).symm

theorem separate_eq_error (h : progress.separate = .error fault) : fault = .malformed := by
  unfold separate at h
  split at h
  · cases h
  · cases h
  · exact (Except.error.inj h).symm

theorem take_eq_error (h : progress.take lexeme = .error fault) : fault = .malformed := by
  unfold take at h
  split at h
  · cases h
  · cases h
  · cases h
  · cases h
  · cases h
  · cases h
  · exact leave_eq_error h
  · exact name_eq_error h
  · exact name_eq_error h
  · exact leave_eq_error h
  · cases h
  · exact separate_eq_error h
  · exact leave_eq_error h
  · exact (Except.error.inj h).symm

end Progress

/-!
# Places without room
-/

theorem Room.check_eq_error {room : Room} {progress : Progress} {ahead : List Lexeme}
    {fault : Fault} :
    room.check progress ahead = .error fault <->
      exists occasion, room progress ahead = some occasion ∧ fault = .tooDeep occasion := by
  rw [check]
  cases room progress ahead with
  | none =>
      constructor
      · intro h
        cases h
      · rintro ⟨occasion, h, _hfault⟩
        cases h
  | some occasion =>
      constructor
      · intro h
        exact ⟨occasion, rfl, (Except.error.inj h).symm⟩
      · rintro ⟨other, h, rfl⟩
        cases h
        rfl

/-- Taking lexemes comes to a place at which there is no room to go on, with room at all places in
front of it. -/
inductive RunsOut (room : Room) : Progress -> List Lexeme -> String -> Prop
  | here {progress : Progress} {ahead : List Lexeme} {occasion : String}
      (hfull : room progress ahead = some occasion) : RunsOut room progress ahead occasion
  | later {progress next : Progress} {lexeme : Lexeme} {more : List Lexeme} {occasion : String}
      (hroom : room progress (lexeme :: more) = none) (htake : progress.take lexeme = .ok next)
      (hmore : RunsOut room next more occasion) :
      RunsOut room progress (lexeme :: more) occasion

variable {room : Room} {occasion : String}

theorem takeAll_eq_tooDeep {progress : Progress} {ahead : List Lexeme} :
    progress.takeAll room ahead = .error (.tooDeep occasion) <->
      RunsOut room progress ahead occasion := by
  constructor
  · intro h
    induction ahead generalizing progress with
    | nil =>
        rcases bind_eq_error.mp h with hcheck | ⟨_done, _hcheck, hdone⟩
        · rcases Room.check_eq_error.mp hcheck with ⟨other, hfull, hfault⟩
          cases hfault
          exact .here hfull
        · cases hdone
    | cons lexeme more ih =>
        rcases bind_eq_error.mp h with hcheck | ⟨_done, hcheck, h⟩
        · rcases Room.check_eq_error.mp hcheck with ⟨other, hfull, hfault⟩
          cases hfault
          exact .here hfull
        · rcases bind_eq_error.mp h with htake | ⟨next, htake, hmore⟩
          · cases Progress.take_eq_error htake
          · cases hroom : room progress (lexeme :: more) with
            | none => exact .later hroom htake (ih hmore)
            | some other =>
                rw [Room.check, hroom] at hcheck
                cases hcheck
  · intro h
    induction h with
    | here hfull =>
        rename_i progress ahead occasion
        have hcheck := Room.check_eq_error.mpr ⟨occasion, hfull, rfl⟩
        cases ahead with
        | nil => exact bind_eq_error.mpr (.inl hcheck)
        | cons lexeme more => exact bind_eq_error.mpr (.inl hcheck)
    | later hroom htake _hmore ih =>
        rw [Progress.takeAll, Room.check, hroom, htake]
        exact ih

/-!
# Whole documents
-/

theorem ofText_eq_tooDeep {text : WideText} :
    ofText room text = .error (.tooDeep occasion) <->
      RunsOut room {} (lexemes text) occasion := by
  rw [ofText, bind_eq_error, takeAll_eq_tooDeep]
  constructor
  · rintro (h | ⟨progress, _htaken, hlast⟩)
    · exact h
    · split at hlast <;> cases hlast
  · exact .inl

theorem read_eq_tooDeep {octets : Encoding.Octets} :
    read room octets = .error (.tooDeep occasion) <->
      exists text, decode? octets = some text ∧ RunsOut room {} (lexemes text) occasion := by
  rw [read]
  cases decode? octets with
  | none =>
      constructor
      · intro h
        cases h
      · rintro ⟨text, htext, _hdeep⟩
        cases htext
  | some text =>
      dsimp only
      rw [ofText_eq_tooDeep]
      constructor
      · intro hdeep
        exact ⟨text, rfl, hdeep⟩
      · rintro ⟨text, htext, hdeep⟩
        cases htext
        exact hdeep

end Json
end Format
end ScopeProbe
