import ScopeProbe.Format.PropertyList
import ScopeProbe.Proofs.Format.Archives

/-!
# How property lists break a reader

Besides being malformed, a property list breaks its reader in few ways.  In markup
it names an encoding that makes no text, or holds a text in place of a date, or
has a part of a dictionary outside of every container.  An archive breaks it where
there is no room for an object.
-/

namespace ScopeProbe
namespace Format

/-!
# Encodings
-/

namespace Markup

open Encoding (Octets)

def Unreadable (octets : Octets) (fault : Fault) : Prop :=
  exists prologue rest name,
    prologue? (decode (detect octets).fst (detect octets).snd) = some (prologue, rest) ∧
      prologue.encoding = some name ∧ charset (detect octets).fst name = .error fault

namespace Progress

theorem fault_follow (progress : Progress) (standalone : Bool) (lexemes : List Lexeme) :
    (progress.follow standalone lexemes).fault = none ∨
      (progress.follow standalone lexemes).fault = some .malformed := by
  induction lexemes generalizing progress with
  | nil =>
      rw [follow]
      split
      · exact .inl rfl
      · exact .inr rfl
  | cons lexeme more ih =>
      rw [follow]
      split
      · rename_i next _events _htake
        exact ih next
      · exact .inr rfl

end Progress

theorem read_of_unreadable {octets : Octets} {fault : Fault} (h : Unreadable octets fault) :
    read octets = { events := [], fault := some fault } := by
  rcases h with ⟨prologue, rest, name, hprologue, hname, hcharset⟩
  unfold read
  simp only [hprologue, hname, Option.map_some, Option.getD_some, hcharset]

theorem read_cases (octets : Octets) :
    (exists fault, Unreadable octets fault) ∨
      (exists standalone lexemes, read octets = ({} : Progress).follow standalone lexemes) ∨
      read octets = { events := [], fault := some .malformed } := by
  unfold read Unreadable
  dsimp only
  split
  · exact .inr (.inr rfl)
  · rename_i prologue rest hprologue
    cases hname : prologue.encoding with
    | none => exact .inr (.inl ⟨_, _, rfl⟩)
    | some name =>
        cases hcharset : charset (detect octets).fst name with
        | error fault => exact .inl ⟨fault, prologue, rest, name, hprologue, hname, hcharset⟩
        | ok charset =>
            simp only [Option.map_some, Option.getD_some, hcharset]
            exact .inr (.inl ⟨_, _, rfl⟩)

theorem fault_read {octets : Octets} {fault : Fault} (hfault : fault ≠ .malformed) :
    (read octets).fault = some fault <-> Unreadable octets fault := by
  constructor
  · intro h
    rcases read_cases octets with ⟨other, hother⟩ | ⟨standalone, lexemes, hread⟩ | hread
    · rw [read_of_unreadable hother] at h
      cases h
      exact hother
    · rw [hread] at h
      rcases Progress.fault_follow {} standalone lexemes with hnone | hmalformed
      · rw [hnone] at h
        cases h
      · rw [hmalformed] at h
        exact absurd (Option.some.inj h).symm hfault
    · rw [hread] at h
      exact absurd (Option.some.inj h).symm hfault
  · intro h
    rw [read_of_unreadable h]

end Markup

namespace PropertyList

open Encoding (Octets)

/-!
# Parts that break
-/

namespace Progress

variable {progress next : Progress} {event : Markup.Event} {fault : Fault}

def text (progress : Progress) : Text :=
  progress.pieces.reverse.flatten

/-- An event brings a value, which needs a place. -/
inductive Brings (progress : Progress) : Markup.Event -> Prop
  | container {name : String} (hname : name = "dict" ∨ name = "array") :
      Brings progress (.start name)
  | boolean {name : String} (hname : name = "true" ∨ name = "false") :
      Brings progress (.stop name)
  | scalar {name : String} {value : Datum}
      (hvalue : scalar? name progress.text = some (.ok value)) :
      Brings progress (.stop name)

inductive Breaks (progress : Progress) : Markup.Event -> Fault -> Prop
  | date {name : String} {fault : Fault} (hname : name = "date")
      (hmoment : moment progress.text = .error fault) :
      Breaks progress (.stop name) fault
  | name {name : String} (hname : name = "key") (houtside : progress.frames = [])
      (hwaits : progress.waits = false) :
      Breaks progress (.stop name) .outsideContainer
  /-- The value of a field stands outside, whose name is left from a dictionary. -/
  | value {event : Markup.Event} (houtside : progress.frames = [])
      (hname : progress.name.isSome = true) (hbrings : progress.Brings event) :
      Breaks progress event .outsideContainer
  | stop {name : String} (houtside : progress.frames = [])
      (hname : name = "dict" ∨ name = "array") :
      Breaks progress (.stop name) .outsideContainer

theorem claim_eq_error (hfault : fault ≠ .malformed) :
    progress.claim = .error fault <->
      fault = .outsideContainer ∧ progress.frames = [] ∧ progress.name.isSome = true := by
  unfold claim
  split
  · rename_i hframes
    constructor
    · intro h
      cases h
    · rintro ⟨_hfault, houtside, _hname⟩
      rw [hframes] at houtside
      cases houtside
  · rename_i hname hframes
    constructor
    · intro h
      cases h
      exact ⟨rfl, hframes, by rw [hname]; rfl⟩
    · rintro ⟨rfl, _houtside, _hname⟩
      rfl
  · rename_i hnone _hframes
    constructor
    · intro h
      cases h
    · rintro ⟨_hfault, _houtside, hname⟩
      rw [hnone] at hname
      cases hname
  · rename_i hnone _hframes
    constructor
    · intro h
      cases h
    · rintro ⟨_hfault, _houtside, hname⟩
      rw [hnone] at hname
      cases hname
  · rename_i _hfield hrefused _hwhole _hitem
    constructor
    · intro h
      cases h
      exact absurd rfl hfault
    · rintro ⟨_hfault, houtside, hname⟩
      rcases Option.isSome_iff_exists.mp hname with ⟨name, hname⟩
      exact (hrefused name hname houtside).elim

theorem claim_without_text (hfault : fault ≠ .malformed) :
    ({ progress with pieces := [] } : Progress).claim = .error fault <->
      progress.claim = .error fault := by
  rw [claim_eq_error hfault, claim_eq_error hfault]

theorem enter_eq_error (frame : Frame) :
    progress.enter frame = .error fault <-> progress.claim = .error fault := by
  rw [enter, bind_eq_error]
  constructor
  · rintro (h | ⟨_found, _hclaim, hput⟩)
    · exact h
    · cases hput
  · exact .inl

theorem add_eq_error (value : Datum) :
    progress.add value = .error fault <-> progress.claim = .error fault := by
  rw [add, bind_eq_error]
  constructor
  · rintro (h | ⟨_found, _hclaim, hput⟩)
    · exact h
    · cases hput
  · exact .inl

theorem leave_eq_error (hfault : fault ≠ .malformed) :
    progress.leave = .error fault <-> fault = .outsideContainer ∧ progress.frames = [] := by
  unfold leave
  split
  · rename_i hframes
    constructor
    · intro h
      cases h
      exact ⟨rfl, hframes⟩
    · rintro ⟨rfl, _houtside⟩
      rfl
  · rename_i hframes
    constructor
    · intro h
      cases h
    · rintro ⟨_hfault, houtside⟩
      rw [hframes] at houtside
      cases houtside
  · rename_i hframes
    constructor
    · intro h
      split at h
      · cases h
        exact absurd rfl hfault
      · cases h
    · rintro ⟨_hfault, houtside⟩
      rw [hframes] at houtside
      cases houtside

theorem nameField_eq_error (hfault : fault ≠ .malformed) :
    progress.nameField = .error fault <->
      fault = .outsideContainer ∧ progress.frames = [] ∧ progress.waits = false := by
  unfold nameField
  split
  · rename_i hwaits
    constructor
    · intro h
      cases h
      exact absurd rfl hfault
    · rintro ⟨_hfault, _houtside, hnone⟩
      rw [hwaits] at hnone
      cases hnone
  · rename_i hwaits
    split
    · rename_i hframes
      constructor
      · intro h
        cases h
        exact ⟨rfl, hframes, Bool.eq_false_iff.mpr hwaits⟩
      · rintro ⟨rfl, _houtside, _hnone⟩
        rfl
    · rename_i hframes
      constructor
      · intro h
        cases h
        exact absurd rfl hfault
      · rintro ⟨_hfault, houtside, _hnone⟩
        rw [hframes] at houtside
        cases houtside
    · rename_i hframes
      constructor
      · intro h
        cases h
      · rintro ⟨_hfault, houtside, _hnone⟩
        rw [hframes] at houtside
        cases houtside

theorem scalar_eq_error {name : String} {text : Text} (hfault : fault ≠ .malformed) :
    scalar? name text = some (.error fault) <->
      name = "date" ∧ moment text = .error fault := by
  have hread {α : Type} (write : α -> Datum) (found : Option α) :
      some (orMalformed write found) ≠ some (.error fault) := by
    intro h
    cases found with
    | some found => cases h
    | none =>
        cases h
        exact absurd rfl hfault
  have hother {found : Option (Except Fault Datum)} (hname : name ≠ "date")
      (hfound : found ≠ some (.error fault)) :
      found = some (.error fault) <-> name = "date" ∧ moment text = .error fault :=
    ⟨fun h => absurd h hfound, fun h => absurd h.left hname⟩
  unfold scalar?
  split
  · exact hother (by decide) (hread _ _)
  · exact hother (by decide) (hread _ _)
  · exact hother (by decide) nofun
  · exact hother (by decide) (hread _ _)
  · constructor
    · intro h
      exact ⟨rfl, Option.some.inj h⟩
    · rintro ⟨_hname, hmoment⟩
      exact congrArg some hmoment
  · rename_i hdate
    exact hother hdate nofun

theorem enter_breaks {name : String} (frame : Frame) (hfault : fault ≠ .malformed)
    (hname : name = "dict" ∨ name = "array") :
    ({ progress with pieces := [] } : Progress).enter frame = .error fault <->
      progress.Breaks (.start name) fault := by
  rw [enter_eq_error, claim_without_text hfault, claim_eq_error hfault]
  constructor
  · rintro ⟨rfl, houtside, hfield⟩
    exact .value houtside hfield (.container hname)
  · intro h
    cases h with
    | value houtside hfield _hbrings => exact ⟨rfl, houtside, hfield⟩

theorem start_eq_error {name : String} (hfault : fault ≠ .malformed) :
    progress.start name = .error fault <-> progress.Breaks (.start name) fault := by
  unfold start
  split
  · exact enter_breaks _ hfault (.inl rfl)
  · exact enter_breaks _ hfault (.inr rfl)
  · rename_i hdict harray
    constructor
    · intro h
      cases h
    · intro h
      cases h with
      | value _houtside _hname hbrings =>
          cases hbrings with
          | container hname => exact (hname.elim hdict harray).elim

theorem leave_breaks {name : String} (hfault : fault ≠ .malformed)
    (hname : name = "dict" ∨ name = "array") :
    progress.leave = .error fault <-> progress.Breaks (.stop name) fault := by
  rw [leave_eq_error hfault]
  constructor
  · rintro ⟨rfl, houtside⟩
    exact .stop houtside hname
  · intro h
    cases h with
    | date hdate _hmoment =>
        rw [hdate] at hname
        exact absurd hname (by decide)
    | name hkey _houtside _hwaits =>
        rw [hkey] at hname
        exact absurd hname (by decide)
    | value houtside _hname _hbrings => exact ⟨rfl, houtside⟩
    | stop houtside _hname => exact ⟨rfl, houtside⟩

theorem add_breaks {name : String} (value : Datum) (hfault : fault ≠ .malformed)
    (hname : name = "true" ∨ name = "false") :
    progress.add value = .error fault <-> progress.Breaks (.stop name) fault := by
  rw [add_eq_error, claim_eq_error hfault]
  constructor
  · rintro ⟨rfl, houtside, hfield⟩
    exact .value houtside hfield (.boolean hname)
  · intro h
    cases h with
    | date hdate _hmoment =>
        rw [hdate] at hname
        exact absurd hname (by decide)
    | name hkey _houtside _hwaits =>
        rw [hkey] at hname
        exact absurd hname (by decide)
    | value houtside hfield _hbrings => exact ⟨rfl, houtside, hfield⟩
    | stop _houtside hcontainer =>
        rcases hname with rfl | rfl
        · exact absurd hcontainer (by decide)
        · exact absurd hcontainer (by decide)

theorem nameField_breaks (hfault : fault ≠ .malformed) :
    progress.nameField = .error fault <-> progress.Breaks (.stop "key") fault := by
  rw [nameField_eq_error hfault]
  constructor
  · rintro ⟨rfl, houtside, hwaits⟩
    exact .name rfl houtside hwaits
  · intro h
    cases h with
    | date hname _hmoment => exact absurd hname (by decide)
    | name _hname houtside hwaits => exact ⟨rfl, houtside, hwaits⟩
    | value _houtside _hname hbrings =>
        cases hbrings with
        | boolean hname => exact absurd hname (by decide)
        | scalar hvalue => cases hvalue
    | stop _houtside hname => exact absurd hname (by decide)

theorem breaks_scalar {name : String} (hfault : fault ≠ .malformed)
    (hcontainer : ¬(name = "dict" ∨ name = "array")) (hkey : name ≠ "key")
    (hboolean : ¬(name = "true" ∨ name = "false")) :
    progress.Breaks (.stop name) fault <->
      scalar? name progress.text = some (.error fault) ∨
        (exists value, scalar? name progress.text = some (.ok value)) ∧
          progress.claim = .error fault := by
  rw [scalar_eq_error hfault, claim_eq_error hfault]
  constructor
  · intro h
    cases h with
    | date hdate hmoment => exact .inl ⟨hdate, hmoment⟩
    | name hname _houtside _hwaits => exact absurd hname hkey
    | value houtside hname hbrings =>
        cases hbrings with
        | boolean h => exact absurd h hboolean
        | scalar hvalue => exact .inr ⟨⟨_, hvalue⟩, rfl, houtside, hname⟩
    | stop _houtside hname => exact absurd hname hcontainer
  · rintro (⟨hdate, hmoment⟩ | ⟨⟨value, hvalue⟩, rfl, houtside, hname⟩)
    · exact .date hdate hmoment
    · exact .value houtside hname (.scalar hvalue)

theorem stop_eq_error {name : String} (hfault : fault ≠ .malformed) :
    progress.stop name = .error fault <-> progress.Breaks (.stop name) fault := by
  unfold stop
  split
  · exact leave_breaks hfault (.inl rfl)
  · exact leave_breaks hfault (.inr rfl)
  · exact nameField_breaks hfault
  · exact add_breaks _ hfault (.inl rfl)
  · exact add_breaks _ hfault (.inr rfl)
  · rename_i hdict harray hkey htrue hfalse
    have htext : progress.takeText = (progress.text, { progress with pieces := [] }) := rfl
    rw [htext, breaks_scalar hfault (fun h => h.elim hdict harray) hkey
      (fun h => h.elim htrue hfalse)]
    dsimp only
    split
    · rename_i outcome houtcome
      rw [bind_eq_error, houtcome]
      constructor
      · rintro (rfl | ⟨value, rfl, hadd⟩)
        · exact .inl rfl
        · exact .inr ⟨⟨value, rfl⟩, (claim_without_text hfault).mp ((add_eq_error value).mp hadd)⟩
      · rintro (h | ⟨⟨value, h⟩, hclaim⟩)
        · exact .inl (Option.some.inj h)
        · exact .inr ⟨value, Option.some.inj h,
            (add_eq_error value).mpr ((claim_without_text hfault).mpr hclaim)⟩
    · rename_i hnone
      rw [hnone]
      constructor
      · intro h
        cases h
      · rintro (h | ⟨⟨value, h⟩, _hclaim⟩)
        · cases h
        · cases h

theorem take_eq_error (hfault : fault ≠ .malformed) :
    progress.take event = .error fault <-> progress.Breaks event fault := by
  cases event with
  | start name => exact start_eq_error hfault
  | stop name => exact stop_eq_error hfault
  | text text =>
      constructor
      · intro h
        cases h
      · intro h
        cases h with
        | value _houtside _hname hbrings => cases hbrings

end Progress

/-!
# Documents that break
-/

/-- A document breaks its reader with the encoding that it names or where one of its events is
taken. -/
inductive BreaksDocument (document : Octets) : Fault -> Prop
  | encoding {fault : Markup.Fault} (hfault : fault ≠ .malformed)
      (hencoding : Markup.Unreadable document fault) : BreaksDocument document (.ofMarkup fault)
  | event {front back : List Markup.Event} {event : Markup.Event} {progress : Progress}
      {fault : Fault} (hevents : (Markup.read document).events = front ++ event :: back)
      (hfront : front.foldlM Progress.take {} = .ok progress)
      (hbreaks : progress.Breaks event fault) : BreaksDocument document fault

theorem Fault.ofMarkup_eq_malformed {fault : Markup.Fault} :
    Fault.ofMarkup fault = .malformed <-> fault = .malformed := by
  cases fault with
  | malformed => exact iff_of_true rfl rfl
  | unknownEncoding name => exact iff_of_false nofun nofun
  | textlessEncoding name => exact iff_of_false nofun nofun

theorem ofDocument_eq_error {octets : Octets} {fault : Fault} (hfault : fault ≠ .malformed) :
    ofDocument (Markup.read octets) = .error fault <-> BreaksDocument octets fault := by
  rw [ofDocument, bind_eq_error, foldlM_eq_error]
  constructor
  · rintro (⟨front, event, back, progress, hevents, hfront, htake⟩ | ⟨last, _hevents, hlast⟩)
    · exact .event hevents hfront ((Progress.take_eq_error hfault).mp htake)
    · split at hlast
      · rename_i markupFault hmarkup
        cases hlast
        have hother : markupFault ≠ .malformed :=
          fun h => hfault (Fault.ofMarkup_eq_malformed.mpr h)
        exact .encoding hother ((Markup.fault_read hother).mp hmarkup)
      · cases hlast
  · intro h
    cases h with
    | encoding hother hencoding =>
        refine .inr ⟨{}, ?_, ?_⟩
        · rw [Markup.read_of_unreadable hencoding]
          rfl
        · rw [Markup.read_of_unreadable hencoding]
    | event hevents hfront hbreaks =>
        exact .inl ⟨_, _, _, _, hevents, hfront, (Progress.take_eq_error hfault).mpr hbreaks⟩

/-!
# Whole lists
-/

inductive Breaks (room : Archive.Room) (octets : Octets) : Fault -> Prop
  | document {fault : Fault} (hmarkup : isMarkup octets = true)
      (hbreaks : BreaksDocument octets fault) : Breaks room octets fault
  | archive {occasion : String} (hmarkup : isMarkup octets = false)
      (harchive : isArchive octets = true) (hout : RunsOut room octets occasion) :
      Breaks room octets (.tooDeep occasion)

theorem read_eq_error {room : Archive.Room} {octets : Octets} {fault : Fault}
    (hfault : fault ≠ .malformed) :
    read room octets = .error fault <-> Breaks room octets fault := by
  unfold read
  split
  · rename_i hmarkup
    rw [ofDocument_eq_error hfault]
    constructor
    · exact .document hmarkup
    · intro h
      cases h with
      | document _hmarkup hbreaks => exact hbreaks
      | archive hother _harchive _hout =>
          rw [hmarkup] at hother
          cases hother
  · rename_i hmarkup
    split
    · rename_i harchive
      rw [ofArchive_eq_error hfault]
      constructor
      · rintro ⟨occasion, rfl, hout⟩
        exact .archive (Bool.eq_false_iff.mpr hmarkup) harchive hout
      · intro h
        cases h with
        | document hother _hbreaks => exact absurd hother hmarkup
        | archive _hmarkup _harchive hout => exact ⟨_, rfl, hout⟩
    · rename_i harchive
      constructor
      · intro h
        exact absurd (Except.error.inj h).symm hfault
      · intro h
        cases h with
        | document hother _hbreaks => exact absurd hother hmarkup
        | archive _hmarkup hother _hout => exact absurd hother harchive

end PropertyList
end Format
end ScopeProbe
