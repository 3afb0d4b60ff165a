import ScopeProbe.Format.PropertyList.Archive
import ScopeProbe.Proofs.Outcomes

/-!
# How archives break a reader

Besides being malformed, an archive breaks its reader only where there is no
room for an object.  Which objects are come to is settled by those that are read
well before them.
-/

namespace ScopeProbe
namespace Format
namespace PropertyList

open Encoding (Octets)

/-!
# Objects one after the other
-/

section

variable {read : Nat -> Array Standing -> Except Fault (Datum × Array Standing)} {fault : Fault}

theorem readAll_cons_eq_ok {number : Nat} {more : List Nat} {found later : Array Standing}
    {values : List Datum} :
    readAll read (number :: more) found = .ok (values, later) <->
      exists value between rest, read number found = .ok (value, between) ∧
        readAll read more between = .ok (rest, later) ∧ values = value :: rest := by
  rw [readAll, bind_eq_ok]
  constructor
  · rintro ⟨⟨value, between⟩, hread, h⟩
    rcases bind_eq_ok.mp h with ⟨⟨rest, last⟩, hmore, hdone⟩
    cases hdone
    exact ⟨value, between, rest, hread, hmore, rfl⟩
  · rintro ⟨value, between, rest, hread, hmore, rfl⟩
    exact ⟨(value, between), hread, bind_eq_ok.mpr ⟨(rest, later), hmore, rfl⟩⟩

theorem readAll_cons_eq_error {number : Nat} {more : List Nat} {found : Array Standing} :
    readAll read (number :: more) found = .error fault <->
      read number found = .error fault ∨
        exists value between, read number found = .ok (value, between) ∧
          readAll read more between = .error fault := by
  rw [readAll, bind_eq_error]
  constructor
  · rintro (hread | ⟨⟨value, between⟩, hread, h⟩)
    · exact .inl hread
    · rcases bind_eq_error.mp h with hmore | ⟨_rest, _hmore, hdone⟩
      · exact .inr ⟨value, between, hread, hmore⟩
      · cases hdone
  · rintro (hread | ⟨value, between, hread, hmore⟩)
    · exact .inl hread
    · exact .inr ⟨(value, between), hread, bind_eq_error.mpr (.inl hmore)⟩

theorem readAll_eq_error {numbers : List Nat} {found : Array Standing} :
    readAll read numbers found = .error fault <->
      exists front number back values between, numbers = front ++ number :: back ∧
        readAll read front found = .ok (values, between) ∧
        read number between = .error fault := by
  induction numbers generalizing found with
  | nil =>
      constructor
      · intro h
        cases h
      · rintro ⟨front, number, back, _values, _between, hnumbers, _hfront, _hread⟩
        exact absurd hnumbers.symm (by simp)
  | cons first more ih =>
      rw [readAll_cons_eq_error]
      constructor
      · rintro (hfirst | ⟨value, next, hfirst, hmore⟩)
        · exact ⟨[], first, more, [], found, rfl, rfl, hfirst⟩
        · rcases ih.mp hmore with ⟨front, number, back, values, between, rfl, hfront, hread⟩
          exact ⟨first :: front, number, back, value :: values, between, rfl,
            readAll_cons_eq_ok.mpr ⟨value, next, values, hfirst, hfront, rfl⟩, hread⟩
      · rintro ⟨_ | ⟨_head, front⟩, number, back, values, between, hnumbers, hfront, hread⟩
        · cases hnumbers
          cases hfront
          exact .inl hread
        · cases hnumbers
          rcases readAll_cons_eq_ok.mp hfront with ⟨value, next, rest, hfirst, hrest, _hvalues⟩
          exact .inr ⟨value, next, hfirst,
            ih.mpr ⟨front, number, back, rest, between, rfl, hrest, hread⟩⟩

theorem readFields_cons_eq_ok {name value : Nat} {more : List (Nat × Nat)}
    {found later : Array Standing} {fields : Definition} :
    readFields read ((name, value) :: more) found = .ok (fields, later) <->
      exists datum middle label between key rest, read value found = .ok (datum, middle) ∧
        read name middle = .ok (label, between) ∧ label.name? = some key ∧
        readFields read more between = .ok (rest, later) ∧ fields = (key, datum) :: rest := by
  rw [readFields, bind_eq_ok]
  constructor
  · rintro ⟨⟨datum, middle⟩, hvalue, h⟩
    rcases bind_eq_ok.mp h with ⟨⟨label, between⟩, hname, h⟩
    rcases bind_eq_ok.mp h with ⟨key, hkey, h⟩
    rcases bind_eq_ok.mp h with ⟨⟨rest, last⟩, hmore, hdone⟩
    cases hdone
    refine ⟨datum, middle, label, between, key, rest, hvalue, hname, ?_, hmore, rfl⟩
    cases hlabel : label.name? with
    | none =>
        rw [hlabel] at hkey
        cases hkey
    | some other =>
        rw [hlabel] at hkey
        cases hkey
        rfl
  · rintro ⟨datum, middle, label, between, key, rest, hvalue, hname, hkey, hmore, rfl⟩
    refine ⟨(datum, middle), hvalue, bind_eq_ok.mpr ⟨(label, between), hname, ?_⟩⟩
    dsimp only
    rw [hkey]
    exact bind_eq_ok.mpr ⟨key, rfl, bind_eq_ok.mpr ⟨(rest, later), hmore, rfl⟩⟩

theorem readFields_cons_eq_error {name value : Nat} {more : List (Nat × Nat)}
    {found : Array Standing} (hfault : fault ≠ .malformed) :
    readFields read ((name, value) :: more) found = .error fault <->
      (read value found = .error fault ∨ exists datum next,
        read value found = .ok (datum, next) ∧ read name next = .error fault) ∨
        exists datum middle label between key, read value found = .ok (datum, middle) ∧
          read name middle = .ok (label, between) ∧ label.name? = some key ∧
          readFields read more between = .error fault := by
  rw [readFields, bind_eq_error]
  constructor
  · rintro (hvalue | ⟨⟨datum, middle⟩, hvalue, h⟩)
    · exact .inl (.inl hvalue)
    · rcases bind_eq_error.mp h with hname | ⟨⟨label, between⟩, hname, h⟩
      · exact .inl (.inr ⟨datum, middle, hvalue, hname⟩)
      · dsimp only at h
        cases hkey : label.name? with
        | none =>
            rw [hkey] at h
            cases h
            exact absurd rfl hfault
        | some key =>
            rw [hkey] at h
            change (readFields read more between >>= _) = _ at h
            rcases bind_eq_error.mp h with hmore | ⟨_rest, _hmore, hdone⟩
            · exact .inr ⟨datum, middle, label, between, key, hvalue, hname, hkey, hmore⟩
            · cases hdone
  · rintro ((hvalue | ⟨datum, next, hvalue, hname⟩) |
      ⟨datum, middle, label, between, key, hvalue, hname, hkey, hmore⟩)
    · exact .inl hvalue
    · exact .inr ⟨(datum, next), hvalue, bind_eq_error.mpr (.inl hname)⟩
    · refine .inr ⟨(datum, middle), hvalue, bind_eq_error.mpr (.inr ⟨(label, between), hname, ?_⟩)⟩
      dsimp only
      rw [hkey]
      exact bind_eq_error.mpr (.inr ⟨key, rfl, bind_eq_error.mpr (.inl hmore)⟩)

theorem readFields_eq_error {numbers : List (Nat × Nat)} {found : Array Standing}
    (hfault : fault ≠ .malformed) :
    readFields read numbers found = .error fault <->
      exists front name value back fields between, numbers = front ++ (name, value) :: back ∧
        readFields read front found = .ok (fields, between) ∧
        (read value between = .error fault ∨ exists datum next,
          read value between = .ok (datum, next) ∧ read name next = .error fault) := by
  induction numbers generalizing found with
  | nil =>
      constructor
      · intro h
        cases h
      · rintro ⟨front, name, value, back, _fields, _between, hnumbers, _hfront, _hread⟩
        exact absurd hnumbers.symm (by simp)
  | cons first more ih =>
      rcases first with ⟨name, value⟩
      rw [readFields_cons_eq_error hfault]
      constructor
      · rintro (hhere | ⟨datum, middle, label, between, key, hvalue, hname, hkey, hmore⟩)
        · exact ⟨[], name, value, more, [], found, rfl, rfl, hhere⟩
        · rcases ih.mp hmore with ⟨front, name', value', back, fields, last, rfl, hfront, hread⟩
          exact ⟨(name, value) :: front, name', value', back, (key, datum) :: fields, last, rfl,
            readFields_cons_eq_ok.mpr
              ⟨datum, middle, label, between, key, fields, hvalue, hname, hkey, hfront, rfl⟩,
            hread⟩
      · rintro ⟨_ | ⟨_head, front⟩, name', value', back, fields, last, hnumbers, hfront, hread⟩
        · cases hnumbers
          cases hfront
          exact .inl hread
        · cases hnumbers
          rcases readFields_cons_eq_ok.mp hfront with
            ⟨datum, middle, label, between, key, rest, hvalue, hname, hkey, hrest, _hfields⟩
          exact .inr ⟨datum, middle, label, between, key, hvalue, hname, hkey,
            ih.mpr ⟨front, name', value', back, rest, last, rfl, hrest, hread⟩⟩

end

/-!
# Objects that are left

Every container that is opened has not been read before, and no object becomes
unread again.  So a reader whose bound is more than the number of the objects
that are not read yet never comes to its bound.
-/

namespace Standing

def isUnread : Standing -> Bool
  | unread => true
  | _ => false

end Standing

def left (found : Array Standing) : Nat :=
  found.countP Standing.isUnread

theorem left_set_le (found : Array Standing) (number : Nat) {standing : Standing}
    (h : standing.isUnread = false) : left (found.setIfInBounds number standing) <= left found := by
  unfold left
  rw [Array.setIfInBounds]
  split
  · rename_i hbound
    rw [Array.countP_set hbound, if_neg (Bool.eq_false_iff.mp h), Nat.add_zero]
    exact Nat.sub_le _ _
  · exact Nat.le_refl _

theorem left_open_lt {found : Array Standing} {number : Nat}
    (h : found[number]? = some .unread) :
    left (found.setIfInBounds number .opened) < left found := by
  rcases Array.getElem?_eq_some_iff.mp h with ⟨hbound, hunread⟩
  have hsome : 0 < left found :=
    Array.countP_pos_iff.mpr ⟨found[number], Array.getElem_mem hbound, by rw [hunread]; rfl⟩
  unfold left at hsome ⊢
  rw [Array.setIfInBounds, dif_pos hbound, Array.countP_set hbound, hunread]
  exact Nat.sub_lt hsome Nat.one_pos

section

variable {read other : Nat -> Array Standing -> Except Fault (Datum × Array Standing)}

/-- Reading an object leaves no more objects than there were. -/
def Settles (read : Nat -> Array Standing -> Except Fault (Datum × Array Standing)) : Prop :=
  forall number found value later, read number found = .ok (value, later) ->
    left later <= left found

theorem left_readAll (hread : Settles read) {numbers : List Nat} {found later : Array Standing}
    {values : List Datum} (h : readAll read numbers found = .ok (values, later)) :
    left later <= left found := by
  induction numbers generalizing found values with
  | nil =>
      cases h
      exact Nat.le_refl _
  | cons number more ih =>
      rcases readAll_cons_eq_ok.mp h with ⟨value, between, rest, hfirst, hmore, _hvalues⟩
      exact Nat.le_trans (ih hmore) (hread number found value between hfirst)

theorem left_readFields (hread : Settles read) {numbers : List (Nat × Nat)}
    {found later : Array Standing} {fields : Definition}
    (h : readFields read numbers found = .ok (fields, later)) : left later <= left found := by
  induction numbers generalizing found fields with
  | nil =>
      cases h
      exact Nat.le_refl _
  | cons first more ih =>
      rcases first with ⟨name, value⟩
      rcases readFields_cons_eq_ok.mp h with
        ⟨datum, middle, label, between, key, rest, hvalue, hname, _hkey, hmore, _hfields⟩
      calc
        left later <= left between := ih hmore
        _ <= left middle := hread name middle label between hname
        _ <= left found := hread value found datum middle hvalue

theorem readAll_congr (hread : Settles read) {limit : Nat}
    (hsame : forall number found, left found <= limit -> read number found = other number found)
    {numbers : List Nat} {found : Array Standing} (hfound : left found <= limit) :
    readAll read numbers found = readAll other numbers found := by
  induction numbers generalizing found with
  | nil => rfl
  | cons number more ih =>
      rw [readAll, readAll, ← hsame number found hfound]
      cases hfirst : read number found with
      | error fault => rfl
      | ok pair =>
          rcases pair with ⟨value, next⟩
          show (readAll read more next >>= _) = (readAll other more next >>= _)
          rw [ih (Nat.le_trans (hread number found value next hfirst) hfound)]

theorem readFields_congr (hread : Settles read) {limit : Nat}
    (hsame : forall number found, left found <= limit -> read number found = other number found)
    {numbers : List (Nat × Nat)} {found : Array Standing} (hfound : left found <= limit) :
    readFields read numbers found = readFields other numbers found := by
  induction numbers generalizing found with
  | nil => rfl
  | cons first more ih =>
      rcases first with ⟨name, value⟩
      rw [readFields, readFields, ← hsame value found hfound]
      cases hvalue : read value found with
      | error fault => rfl
      | ok pair =>
          rcases pair with ⟨datum, middle⟩
          have hmiddle : left middle <= limit :=
            Nat.le_trans (hread value found datum middle hvalue) hfound
          show (read name middle >>= _) = (other name middle >>= _)
          rw [← hsame name middle hmiddle]
          cases hname : read name middle with
          | error fault => rfl
          | ok pair =>
              rcases pair with ⟨label, between⟩
              dsimp only
              show (_ >>= fun key => readFields read more between >>= _) =
                (_ >>= fun key => readFields other more between >>= _)
              rw [ih (Nat.le_trans (hread name middle label between hname) hmiddle)]

end

namespace Archive

variable {room : Room} {archive : Archive}

theorem settles_readObject (bound : Nat) (around : List Nat) :
    Settles (archive.readObject room bound around) := by
  induction bound generalizing around with
  | zero =>
      intro number found value later h
      cases h
  | succ bound ih =>
      intro number found value later h
      unfold readObject at h
      split at h
      · cases h
      · cases h
        exact Nat.le_refl _
      · cases h
        exact Nat.le_refl _
      · rcases bind_eq_ok.mp h with ⟨_done, _hcheck, h⟩
        split at h
        · cases h
        · cases h
          exact left_set_le _ _ rfl
        · rcases bind_eq_ok.mp h with ⟨⟨items, last⟩, hitems, hdone⟩
          cases hdone
          calc
            left (last.setIfInBounds number _) <= left last := left_set_le _ _ rfl
            _ <= left (found.setIfInBounds number .opened) :=
              left_readAll (ih (number :: around)) hitems
            _ <= left found := left_set_le _ _ rfl
        · rcases bind_eq_ok.mp h with ⟨⟨fields, last⟩, hfields, hdone⟩
          cases hdone
          calc
            left (last.setIfInBounds number _) <= left last := left_set_le _ _ rfl
            _ <= left (found.setIfInBounds number .opened) :=
              left_readFields (ih (number :: around)) hfields
            _ <= left found := left_set_le _ _ rfl

theorem readObject_succ {bound number : Nat} {around : List Nat} {found : Array Standing}
    (h : left found < bound) :
    archive.readObject room (bound + 1) around number found =
      archive.readObject room bound around number found := by
  induction bound generalizing around number found with
  | zero => exact absurd h (Nat.not_lt_zero _)
  | succ bound ih =>
      rw [readObject, readObject]
      cases hstanding : found[number]? with
      | none => rfl
      | some standing =>
          cases standing with
          | opened => rfl
          | done value => rfl
          | unread =>
              dsimp only
              have hopen : left (found.setIfInBounds number .opened) < bound :=
                Nat.lt_of_lt_of_le (left_open_lt hstanding) (Nat.le_of_lt_succ h)
              have hsame (part : Nat) (there : Array Standing)
                  (hthere : left there <= left (found.setIfInBounds number .opened)) :
                  archive.readObject room (bound + 1) (number :: around) part there =
                    archive.readObject room bound (number :: around) part there :=
                ih (Nat.lt_of_le_of_lt hthere hopen)
              have hsettles : Settles (archive.readObject room (bound + 1) (number :: around)) :=
                settles_readObject _ _
              cases hshape : archive.shape? number with
              | none => rfl
              | some shape =>
                  cases shape with
                  | scalar value => rfl
                  | array items =>
                      dsimp only
                      rw [readAll_congr hsettles hsame (Nat.le_refl _)]
                  | dictionary names values =>
                      dsimp only
                      rw [readFields_congr hsettles hsame (Nat.le_refl _)]

theorem readObject_of_le {bound larger number : Nat} {around : List Nat}
    {found : Array Standing} (h : left found < bound) (hle : bound <= larger) :
    archive.readObject room larger around number found =
      archive.readObject room bound around number found := by
  induction hle with
  | refl => rfl
  | step hle ih => rw [readObject_succ (Nat.lt_of_lt_of_le h hle), ih]

end Archive

theorem ofArchive_of_le {room : Archive.Room} {octets : Octets} {archive : Archive}
    {top bound : Nat} (harchive : Archive.ofOctets? octets = some (archive, top))
    (hbound : archive.places.length < bound) :
    ofArchive room octets =
      (archive.readObject room bound [] top
        (Array.replicate archive.places.length .unread)).map Prod.fst := by
  have hleft : left (Array.replicate archive.places.length .unread) <
      archive.places.length + 1 := by
    rw [left, Array.countP_replicate]
    exact Nat.lt_succ_self _
  unfold ofArchive
  rw [harchive]
  dsimp only
  rw [Archive.readObject_of_le hleft hbound]
  cases archive.readObject room (archive.places.length + 1) [] top
    (Array.replicate archive.places.length .unread) <;> rfl

/-!
# Objects for which there is no room
-/

namespace Archive

variable {room : Room} {archive : Archive} {fault : Fault}

theorem Room.check_eq_error {around : List Nat} {number : Nat} :
    room.check archive around number = .error fault <->
      exists occasion, room archive around number = some occasion ∧
        fault = .tooDeep occasion := by
  rw [check]
  cases room archive around number with
  | none =>
      constructor
      · intro h
        cases h
      · rintro ⟨occasion, h, _hfault⟩
        cases h
  | some occasion =>
      constructor
      · intro h
        exact ⟨occasion, rfl, (Except.error.inj h).symm⟩
      · rintro ⟨other, h, rfl⟩
        cases h
        rfl

/-- Reading an object comes to one that is not read yet and for which there is no room: the object
itself, an item of it, or the value or the name of one of its fields. -/
inductive RunsOut (room : Room) (archive : Archive) :
    Nat -> List Nat -> Nat -> Array Standing -> String -> Prop
  | here {bound : Nat} {around : List Nat} {number : Nat} {found : Array Standing}
      {occasion : String} (hunread : found[number]? = some .unread)
      (hfull : room archive around number = some occasion) :
      RunsOut room archive (bound + 1) around number found occasion
  | item {bound : Nat} {around front back : List Nat} {number item : Nat}
      {found between : Array Standing} {values : List Datum} {occasion : String}
      (hunread : found[number]? = some .unread) (hroom : room archive around number = none)
      (hshape : archive.shape? number = some (.array (front ++ item :: back)))
      (hfront : readAll (archive.readObject room bound (number :: around)) front
        (found.setIfInBounds number .opened) = .ok (values, between))
      (hitem : RunsOut room archive bound (number :: around) item between occasion) :
      RunsOut room archive (bound + 1) around number found occasion
  | value {bound : Nat} {around names values : List Nat} {number name value : Nat}
      {front back : List (Nat × Nat)} {found between : Array Standing} {fields : Definition}
      {occasion : String} (hunread : found[number]? = some .unread)
      (hroom : room archive around number = none)
      (hshape : archive.shape? number = some (.dictionary names values))
      (hfields : names.zip values = front ++ (name, value) :: back)
      (hfront : readFields (archive.readObject room bound (number :: around)) front
        (found.setIfInBounds number .opened) = .ok (fields, between))
      (hvalue : RunsOut room archive bound (number :: around) value between occasion) :
      RunsOut room archive (bound + 1) around number found occasion
  | name {bound : Nat} {around names values : List Nat} {number name value : Nat}
      {front back : List (Nat × Nat)} {found between next : Array Standing} {fields : Definition}
      {datum : Datum} {occasion : String} (hunread : found[number]? = some .unread)
      (hroom : room archive around number = none)
      (hshape : archive.shape? number = some (.dictionary names values))
      (hfields : names.zip values = front ++ (name, value) :: back)
      (hfront : readFields (archive.readObject room bound (number :: around)) front
        (found.setIfInBounds number .opened) = .ok (fields, between))
      (hvalue : archive.readObject room bound (number :: around) value between = .ok (datum, next))
      (hname : RunsOut room archive bound (number :: around) name next occasion) :
      RunsOut room archive (bound + 1) around number found occasion

theorem readObject_of_runsOut {bound number : Nat} {around : List Nat} {found : Array Standing}
    {occasion : String} (h : archive.RunsOut room bound around number found occasion) :
    archive.readObject room bound around number found = .error (.tooDeep occasion) := by
  have hfault (other : String) : Fault.tooDeep other ≠ .malformed := nofun
  induction h with
  | here hunread hfull =>
      rw [readObject, hunread]
      exact bind_eq_error.mpr (.inl (Room.check_eq_error.mpr ⟨_, hfull, rfl⟩))
  | item hunread hroom hshape hfront _hitem ih =>
      rw [readObject, hunread]
      dsimp only
      rw [Room.check, hroom, hshape]
      exact bind_eq_error.mpr (.inr ⟨(), rfl, bind_eq_error.mpr (.inl
        (readAll_eq_error.mpr ⟨_, _, _, _, _, rfl, hfront, ih⟩))⟩)
  | value hunread hroom hshape hfields hfront _hvalue ih =>
      rw [readObject, hunread]
      dsimp only
      rw [Room.check, hroom, hshape]
      exact bind_eq_error.mpr (.inr ⟨(), rfl, bind_eq_error.mpr (.inl
        ((readFields_eq_error (hfault _)).mpr ⟨_, _, _, _, _, _, hfields, hfront, .inl ih⟩))⟩)
  | name hunread hroom hshape hfields hfront hvalue _hname ih =>
      rw [readObject, hunread]
      dsimp only
      rw [Room.check, hroom, hshape]
      exact bind_eq_error.mpr (.inr ⟨(), rfl, bind_eq_error.mpr (.inl
        ((readFields_eq_error (hfault _)).mpr
          ⟨_, _, _, _, _, _, hfields, hfront, .inr ⟨_, _, hvalue, ih⟩⟩))⟩)

theorem runsOut_of_readObject (hfault : fault ≠ .malformed) {bound number : Nat}
    {around : List Nat} {found : Array Standing}
    (h : archive.readObject room bound around number found = .error fault) :
    exists occasion, fault = .tooDeep occasion ∧
      archive.RunsOut room bound around number found occasion := by
  induction bound generalizing around number found with
  | zero => exact absurd (Except.error.inj h).symm hfault
  | succ bound ih =>
      unfold readObject at h
      split at h
      · exact absurd (Except.error.inj h).symm hfault
      · cases h
      · cases h
      · rename_i hunread
        rcases bind_eq_error.mp h with hcheck | ⟨_done, hcheck, h⟩
        · rcases Room.check_eq_error.mp hcheck with ⟨occasion, hfull, hoccasion⟩
          exact ⟨occasion, hoccasion, .here hunread hfull⟩
        · have hroom : room archive around number = none := by
            cases hasked : room archive around number with
            | none => rfl
            | some occasion =>
                rw [Room.check, hasked] at hcheck
                cases hcheck
          split at h
          · exact absurd (Except.error.inj h).symm hfault
          · cases h
          · rename_i items hshape
            rcases bind_eq_error.mp h with hall | ⟨_read, _hall, hdone⟩
            · rcases readAll_eq_error.mp hall with
                ⟨front, item, back, values, between, rfl, hfront, hitem⟩
              rcases ih hitem with ⟨occasion, hoccasion, hout⟩
              exact ⟨occasion, hoccasion, .item hunread hroom hshape hfront hout⟩
            · cases hdone
          · rename_i names values hshape
            rcases bind_eq_error.mp h with hall | ⟨_read, _hall, hdone⟩
            · rcases (readFields_eq_error hfault).mp hall with
                ⟨front, name, value, back, fields, between, hfields, hfront, hvalue | hname⟩
              · rcases ih hvalue with ⟨occasion, hoccasion, hout⟩
                exact ⟨occasion, hoccasion, .value hunread hroom hshape hfields hfront hout⟩
              · rcases hname with ⟨datum, next, hvalue, hname⟩
                rcases ih hname with ⟨occasion, hoccasion, hout⟩
                exact ⟨occasion, hoccasion, .name hunread hroom hshape hfields hfront hvalue hout⟩
            · cases hdone

theorem readObject_eq_error (hfault : fault ≠ .malformed) {bound number : Nat}
    {around : List Nat} {found : Array Standing} :
    archive.readObject room bound around number found = .error fault <->
      exists occasion, fault = .tooDeep occasion ∧
        archive.RunsOut room bound around number found occasion := by
  constructor
  · exact runsOut_of_readObject hfault
  · rintro ⟨occasion, rfl, hout⟩
    exact readObject_of_runsOut hout

end Archive

/-!
# Whole archives
-/

/-- Reading the whole of an archive comes to an object for which there is no room. -/
def RunsOut (room : Archive.Room) (octets : Octets) (occasion : String) : Prop :=
  exists archive top, Archive.ofOctets? octets = some (archive, top) ∧
    archive.RunsOut room (archive.places.length + 1) [] top
      (Array.replicate archive.places.length .unread) occasion

theorem ofArchive_eq_error {room : Archive.Room} {octets : Octets} {fault : Fault}
    (hfault : fault ≠ .malformed) :
    ofArchive room octets = .error fault <->
      exists occasion, fault = .tooDeep occasion ∧ RunsOut room octets occasion := by
  unfold ofArchive
  split
  · rename_i hnone
    constructor
    · intro h
      exact absurd (Except.error.inj h).symm hfault
    · rintro ⟨occasion, _hfault, archive, top, harchive, _hout⟩
      rw [hnone] at harchive
      cases harchive
  · rename_i archive top harchive
    rw [bind_eq_error, Archive.readObject_eq_error hfault]
    constructor
    · rintro (⟨occasion, hoccasion, hout⟩ | ⟨_found, _hread, hdone⟩)
      · exact ⟨occasion, hoccasion, archive, top, harchive, hout⟩
      · cases hdone
    · rintro ⟨occasion, hoccasion, other, whole, hother, hout⟩
      rw [harchive] at hother
      cases hother
      exact .inl ⟨occasion, hoccasion, hout⟩

end PropertyList
end Format
end ScopeProbe
