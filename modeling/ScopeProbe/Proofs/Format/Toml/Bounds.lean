import ScopeProbe.Proofs.Format.Toml.Rests
import ScopeProbe.Proofs.Outcomes

/-!
# Reading values without a bound

A value is read with a bound on the containers in it.  As what is left to be
read gets shorter, the bound does not matter once it is large enough, so that a
value is read as if there were none.
-/

namespace ScopeProbe

theorem bind_congr_ok {ε α β : Type} {outcome : Except ε α} {first second : α -> Except ε β}
    (h : forall found, outcome = .ok found -> first found = second found) :
    outcome >>= first = outcome >>= second := by
  cases outcome with
  | error fault => rfl
  | ok found => exact h found rfl

namespace Format
namespace Toml

/-!
# Steps of reading a value

What is read at a text is settled there, or a shorter text is read.
-/

variable {room : Room}

/-- A value is refused where it starts: there is no room for it, or it is an integer with too many
digits. -/
inductive Refused (room : Room) (around : List Container) (text : Text) : Fault -> Prop
  | full {occasion : String} (hfull : room around text = some occasion) :
      Refused room around text (.tooDeep occasion)
  | integer {count : Nat} (hroom : room around text = none) (hlong : LongInteger text count) :
      Refused room around text (.integerTooLong count)

/-- All that reading a value can do: it is settled whatever the bound, or the items of an array or
the fields of a table are read. -/
inductive ValueStep (room : Room) (around : List Container) : Text -> Prop
  | settled {text : Text} {outcome : Except Fault (Value × Text)}
      (hread : forall bound, valueWithin room (bound + 1) around text = outcome)
      (hleaves : Leaves (fun fault => fault = .malformed ∨ Refused room around text fault) text
        outcome) :
      ValueStep room around text
  | array {rest start : Text} (hroom : room around ('[' :: rest) = none)
      (hspace : skipSpace false rest = .ok start) : ValueStep room around ('[' :: rest)
  | table {rest : Text} (hroom : room around ('\x7b' :: rest) = none)
      (hopen : (skipBlanks rest).head? ≠ some '\x7d') : ValueStep room around ('\x7b' :: rest)

section

variable {bound : Nat} {around : List Container} {text rest : Text}

theorem suffix_of_skipSpace {inComment : Bool} (h : skipSpace inComment text = .ok rest) :
    rest <:+ text := by
  rcases skipSpace_cases inComment text with ⟨behind, hskip, hbehind⟩ | hskip
  · rw [hskip] at h
    cases h
    exact hbehind
  · rw [hskip] at h
    cases h

theorem suffix_of_key {name : Key} (h : key text = .ok (name, rest)) : rest <:+ text := by
  have hleaves := leaves_key text
  rw [h] at hleaves
  exact hleaves.suffix_of_ok

theorem valueWithin_full {occasion : String} (hfull : room around text = some occasion) :
    valueWithin room (bound + 1) around text = .error (.tooDeep occasion) := by
  unfold valueWithin
  rw [Room.check, hfull]
  rfl

theorem valueWithin_array {start : Text} (hroom : room around ('[' :: rest) = none)
    (hspace : skipSpace false rest = .ok start) :
    valueWithin room (bound + 1) around ('[' :: rest) =
      itemsWithin room bound (.array :: around) start >>= fun (items, behind) =>
        .ok (.list items, behind) := by
  rw [valueWithin, Room.check, hroom]
  show skipSpace false rest >>= _ = _
  rw [hspace]
  rfl

def tableBehind (next : Text -> Except Fault (Table × Text)) (rest : Text) :
    Except Fault (Value × Text) :=
  match skipBlanks rest with
  | '\x7d' :: behind => .ok (.table [], behind)
  | rest => do
      let (fields, rest) ← next rest
      .ok (.table fields, rest)

theorem tableBehind_close {next : Text -> Except Fault (Table × Text)} {behind : Text}
    (hclose : skipBlanks rest = '\x7d' :: behind) :
    tableBehind next rest = .ok (.table [], behind) := by
  rw [tableBehind, hclose]
  rfl

theorem tableBehind_open {next : Text -> Except Fault (Table × Text)}
    (hopen : (skipBlanks rest).head? ≠ some '\x7d') :
    tableBehind next rest = next (skipBlanks rest) >>= fun (fields, behind) =>
      .ok (.table fields, behind) := by
  unfold tableBehind
  split
  · rename_i hclose
    rw [hclose] at hopen
    exact absurd rfl hopen
  · rfl

theorem valueWithin_brace (hroom : room around ('\x7b' :: rest) = none) :
    valueWithin room (bound + 1) around ('\x7b' :: rest) =
      tableBehind (fieldsWithin room bound (.table :: around) [] []) rest := by
  rw [valueWithin, Room.check, hroom]
  rfl

theorem valueWithin_table (hroom : room around ('\x7b' :: rest) = none)
    (hopen : (skipBlanks rest).head? ≠ some '\x7d') :
    valueWithin room (bound + 1) around ('\x7b' :: rest) =
      fieldsWithin room bound (.table :: around) [] [] (skipBlanks rest) >>=
        fun (fields, behind) => .ok (.table fields, behind) := by
  rw [valueWithin_brace hroom]
  exact tableBehind_open hopen

theorem valueWithin_scalar (hroom : room around text = none) (harray : text.head? ≠ some '[')
    (htable : text.head? ≠ some '\x7b') :
    valueWithin room (bound + 1) around text = scalar text := by
  rw [valueWithin, Room.check, hroom]
  · rfl
  · rintro rest rfl
    exact harray rfl
  · rintro rest rfl
    exact htable rfl

theorem valueStep_array (hroom : room around ('[' :: rest) = none) :
    ValueStep room around ('[' :: rest) := by
  rcases skipSpace_cases false rest with ⟨start, hspace, _hstart⟩ | hspace
  · exact .array hroom hspace
  · refine .settled (fun bound => ?_) (.error (.inl rfl))
    rw [valueWithin, Room.check, hroom]
    show skipSpace false rest >>= _ = _
    rw [hspace]
    rfl

theorem valueStep_table (hroom : room around ('\x7b' :: rest) = none) :
    ValueStep room around ('\x7b' :: rest) := by
  by_cases hopen : (skipBlanks rest).head? = some '\x7d'
  · rcases List.head?_eq_some_iff.mp hopen with ⟨behind, hclose⟩
    have hbehind : behind <:+ '\x7b' :: rest :=
      suffix_of_cons (hclose ▸ (skipBlanks_suffix rest).trans (List.suffix_cons _ _))
    have hleaves : Leaves
        (fun fault => fault = .malformed ∨ Refused room around ('\x7b' :: rest) fault)
        ('\x7b' :: rest) (.ok (Value.table [], behind)) := .ok hbehind
    refine .settled (fun bound => ?_) hleaves
    rw [valueWithin_brace hroom]
    exact tableBehind_close hclose
  · exact .table hroom hopen

theorem valueStep (room : Room) (around : List Container) (text : Text) :
    ValueStep room around text := by
  cases hroom : room around text with
  | some occasion =>
      exact .settled (fun bound => valueWithin_full hroom) (.error (.inr (.full hroom)))
  | none =>
      by_cases harray : text.head? = some '['
      · rcases List.head?_eq_some_iff.mp harray with ⟨rest, rfl⟩
        exact valueStep_array hroom
      · by_cases htable : text.head? = some '\x7b'
        · rcases List.head?_eq_some_iff.mp htable with ⟨rest, rfl⟩
          exact valueStep_table hroom
        · refine .settled (fun bound => valueWithin_scalar hroom harray htable)
            ((leaves_scalar text).weaken ?_)
          rintro fault (hmalformed | ⟨count, rfl, hlong⟩)
          · exact .inl hmalformed
          · exact .inr (.integer hroom hlong)

end

/-!
# Steps of reading items and fields
-/

def itemsBehind (next : Text -> Except Fault (List Value × Text)) (item : Value) (rest : Text) :
    Except Fault (List Value × Text) := do
  match ← skipSpace false rest with
  | ']' :: rest => .ok ([item], rest)
  | ',' :: rest => do
      let rest ← skipSpace false rest
      let (items, rest) ← next rest
      .ok (item :: items, rest)
  | _ => .error .malformed

def fieldsBehind (next : List Key -> Table -> Text -> Except Fault (Table × Text))
    (closed : List Key) (fields : Table) (name : Key) (value : Value) (rest : Text) :
    Except Fault (Table × Text) :=
  if isWithin closed name then .error .malformed
  else do
    let fields ← assign false [] name value fields
    match skipBlanks rest with
    | '\x7d' :: rest => .ok (fields, rest)
    | ',' :: rest =>
        next (if isClosed value then name :: closed else closed) fields (skipBlanks rest)
    | _ => .error .malformed

section

variable {bound : Nat} {around : List Container} {text : Text}

theorem itemsWithin_close {rest : Text} :
    itemsWithin room (bound + 1) around (']' :: rest) = .ok ([], rest) := by
  rw [itemsWithin]
  rintro ⟨⟩

theorem itemsWithin_open (hopen : text.head? ≠ some ']') :
    itemsWithin room (bound + 1) around text =
      valueWithin room bound around text >>= fun (item, rest) =>
        itemsBehind (itemsWithin room bound around) item rest := by
  rw [itemsWithin]
  · rfl
  · rintro rest rfl
    exact hopen rfl

theorem fieldsWithin_succ {closed : List Key} {fields : Table} :
    fieldsWithin room (bound + 1) around closed fields text =
      fieldWithin room bound around text >>= fun (name, value, rest) =>
        fieldsBehind (fieldsWithin room bound around) closed fields name value rest := by
  rw [fieldsWithin]
  rfl

end

inductive ItemsStep (item : Value) (rest : Text) : Prop
  | settled {outcome : Except Fault (List Value × Text)}
      (hread : forall next, itemsBehind next item rest = outcome) (hleaves : Plain rest outcome)
  | next {behind start : Text} (hcomma : skipSpace false rest = .ok (',' :: behind))
      (hspace : skipSpace false behind = .ok start)

theorem itemsBehind_next {next : Text -> Except Fault (List Value × Text)} {item : Value}
    {rest behind start : Text} (hcomma : skipSpace false rest = .ok (',' :: behind))
    (hspace : skipSpace false behind = .ok start) :
    itemsBehind next item rest = next start >>= fun (items, more) => .ok (item :: items, more) := by
  rw [itemsBehind, hcomma]
  show skipSpace false behind >>= _ = _
  rw [hspace]
  rfl

theorem itemsStep (item : Value) (rest : Text) : ItemsStep item rest := by
  rcases skipSpace_cases false rest with ⟨behind, hskip, hbehind⟩ | hskip
  · by_cases hclose : behind.head? = some ']'
    · rcases List.head?_eq_some_iff.mp hclose with ⟨more, rfl⟩
      have hleaves : Plain rest (.ok ([item], more)) := .ok (suffix_of_cons hbehind)
      refine .settled (fun next => ?_) hleaves
      rw [itemsBehind, hskip]
      rfl
    · by_cases hcomma : behind.head? = some ','
      · rcases List.head?_eq_some_iff.mp hcomma with ⟨more, rfl⟩
        rcases skipSpace_cases false more with ⟨start, hspace, _hstart⟩ | hspace
        · exact .next hskip hspace
        · refine .settled (fun next => ?_) .malformed
          rw [itemsBehind, hskip]
          show skipSpace false more >>= _ = _
          rw [hspace]
          rfl
      · refine .settled (fun next => ?_) .malformed
        rw [itemsBehind, hskip]
        dsimp only [bind, Except.bind]
        split
        · exact absurd rfl hclose
        · exact absurd rfl hcomma
        · rfl
  · refine .settled (fun next => ?_) .malformed
    rw [itemsBehind, hskip]
    rfl

theorem length_of_itemsBehind {rest behind start : Text}
    (hcomma : skipSpace false rest = .ok (',' :: behind))
    (hspace : skipSpace false behind = .ok start) : start.length < rest.length := by
  have hbehind := (suffix_of_skipSpace hcomma).length_le
  have hstart := (suffix_of_skipSpace hspace).length_le
  rw [List.length_cons] at hbehind
  omega

theorem itemsBehind_congr {first second : Text -> Except Fault (List Value × Text)} {item : Value}
    {rest : Text} (h : forall start, start.length < rest.length -> first start = second start) :
    itemsBehind first item rest = itemsBehind second item rest := by
  cases itemsStep item rest with
  | settled hsettled _hleaves => rw [hsettled, hsettled]
  | next hcomma hspace =>
      rw [itemsBehind_next hcomma hspace, itemsBehind_next hcomma hspace,
        h _ (length_of_itemsBehind hcomma hspace)]

theorem assign_cases (throughLists : Bool) (above key : Key) (value : Value) (table : Table) :
    (exists more, assign throughLists above key value table = .ok more) ∨
      assign throughLists above key value table = .error .malformed := by
  unfold assign
  split
  · exact .inr rfl
  · split
    · exact .inl ⟨_, rfl⟩
    · exact .inr rfl

inductive FieldsStep (closed : List Key) (fields : Table) (name : Key) (value : Value)
    (rest : Text) : Prop
  | settled {outcome : Except Fault (Table × Text)}
      (hread : forall next, fieldsBehind next closed fields name value rest = outcome)
      (hleaves : Plain rest outcome)
  | next {more : Table} {behind : Text} (hfree : isWithin closed name = false)
      (hassign : assign false [] name value fields = .ok more)
      (hcomma : skipBlanks rest = ',' :: behind)

section

variable {closed : List Key} {fields more : Table} {name : Key} {value : Value} {rest : Text}

theorem fieldsBehind_assigned {next : List Key -> Table -> Text -> Except Fault (Table × Text)}
    (hfree : isWithin closed name = false)
    (hassign : assign false [] name value fields = .ok more) :
    fieldsBehind next closed fields name value rest =
      match skipBlanks rest with
      | '\x7d' :: rest => .ok (more, rest)
      | ',' :: rest => next (if isClosed value then name :: closed else closed) more
          (skipBlanks rest)
      | _ => .error .malformed := by
  rw [fieldsBehind, hfree, hassign]
  rfl

theorem fieldsBehind_next {next : List Key -> Table -> Text -> Except Fault (Table × Text)}
    {behind : Text} (hfree : isWithin closed name = false)
    (hassign : assign false [] name value fields = .ok more)
    (hcomma : skipBlanks rest = ',' :: behind) :
    fieldsBehind next closed fields name value rest =
      next (if isClosed value then name :: closed else closed) more (skipBlanks behind) := by
  rw [fieldsBehind_assigned hfree hassign, hcomma]
  rfl

theorem fieldsStep_assigned (hfree : isWithin closed name = false)
    (hassign : assign false [] name value fields = .ok more) :
    FieldsStep closed fields name value rest := by
  by_cases hclose : (skipBlanks rest).head? = some '\x7d'
  · rcases List.head?_eq_some_iff.mp hclose with ⟨behind, hbehind⟩
    have hleaves : Plain rest (.ok (more, behind)) :=
      .ok (suffix_of_cons (hbehind ▸ skipBlanks_suffix rest))
    refine .settled (fun next => ?_) hleaves
    rw [fieldsBehind_assigned hfree hassign, hbehind]
    rfl
  · by_cases hcomma : (skipBlanks rest).head? = some ','
    · rcases List.head?_eq_some_iff.mp hcomma with ⟨behind, hbehind⟩
      exact .next hfree hassign hbehind
    · refine .settled (fun next => ?_) .malformed
      rw [fieldsBehind_assigned hfree hassign]
      split
      · rename_i hbehind
        exact absurd (congrArg List.head? hbehind) hclose
      · rename_i hbehind
        exact absurd (congrArg List.head? hbehind) hcomma
      · rfl

end

theorem fieldsStep (closed : List Key) (fields : Table) (name : Key) (value : Value)
    (rest : Text) : FieldsStep closed fields name value rest := by
  cases hwithin : isWithin closed name with
  | true =>
      refine .settled (fun next => ?_) .malformed
      rw [fieldsBehind, hwithin]
      rfl
  | false =>
      rcases assign_cases false [] name value fields with ⟨more, hassign⟩ | hassign
      · exact fieldsStep_assigned hwithin hassign
      · refine .settled (fun next => ?_) .malformed
        rw [fieldsBehind, hwithin, hassign]
        rfl

theorem length_of_fieldsBehind {rest behind : Text} (hcomma : skipBlanks rest = ',' :: behind) :
    (skipBlanks behind).length < rest.length := by
  have hbehind := (skipBlanks_suffix rest).length_le
  have hstart := (skipBlanks_suffix behind).length_le
  rw [hcomma, List.length_cons] at hbehind
  omega

theorem fieldsBehind_congr {first second : List Key -> Table -> Text -> Except Fault (Table × Text)}
    {closed : List Key} {fields : Table} {name : Key} {value : Value} {rest : Text}
    (h : forall closed fields start, start.length < rest.length ->
      first closed fields start = second closed fields start) :
    fieldsBehind first closed fields name value rest =
      fieldsBehind second closed fields name value rest := by
  cases fieldsStep closed fields name value rest with
  | settled hsettled _hleaves => rw [hsettled, hsettled]
  | next hfree hassign hcomma =>
      rw [fieldsBehind_next hfree hassign hcomma, fieldsBehind_next hfree hassign hcomma,
        h _ _ _ (length_of_fieldsBehind hcomma)]

inductive FieldStep (room : Room) (around : List Container) (text : Text) : Prop
  | malformed (hread : forall bound, fieldWithin room (bound + 1) around text = .error .malformed)
  | value {name : Key} {behind : Text} (hkey : key text = .ok (name, '=' :: behind))

theorem fieldWithin_value {bound : Nat} {around : List Container} {name : Key} {text behind : Text}
    (hkey : key text = .ok (name, '=' :: behind)) :
    fieldWithin room (bound + 1) around text =
      valueWithin room bound around (skipBlanks behind) >>= fun (value, rest) =>
        .ok (name, value, rest) := by
  rw [fieldWithin, hkey]
  rfl

theorem fieldStep (room : Room) (around : List Container) (text : Text) :
    FieldStep room around text := by
  have hleaves := leaves_key text
  cases hkey : key text with
  | error fault =>
      rw [hkey] at hleaves
      cases hleaves with
      | error hfault =>
          cases hfault
          refine .malformed fun bound => ?_
          rw [fieldWithin, hkey]
          rfl
  | ok found =>
      rcases found with ⟨name, rest⟩
      by_cases hmark : rest.head? = some '='
      · rcases List.head?_eq_some_iff.mp hmark with ⟨behind, rfl⟩
        exact .value hkey
      · refine .malformed fun bound => ?_
        rw [fieldWithin, hkey]
        dsimp only [bind, Except.bind]
        split
        · exact absurd rfl hmark
        · rfl

/-!
# What is left behind values
-/

structure Ends (room : Room) (bound : Nat) : Prop where
  value : forall {around text found rest}, valueWithin room bound around text = .ok (found, rest) ->
    rest <:+ text
  items : forall {around text found rest}, itemsWithin room bound around text = .ok (found, rest) ->
    rest <:+ text
  fields : forall {around closed fields text found rest},
    fieldsWithin room bound around closed fields text = .ok (found, rest) -> rest <:+ text
  field : forall {around text name found rest},
    fieldWithin room bound around text = .ok (name, found, rest) -> rest <:+ text

namespace Ends

variable {bound : Nat} {around : List Container} {text rest : Text}

theorem value_succ (h : Ends room bound) {found : Value}
    (hread : valueWithin room (bound + 1) around text = .ok (found, rest)) : rest <:+ text := by
  cases valueStep room around text with
  | settled hsettled hleaves =>
      rw [hsettled] at hread
      rw [hread] at hleaves
      exact hleaves.suffix_of_ok
  | array hroom hspace =>
      rw [valueWithin_array hroom hspace] at hread
      rcases bind_eq_ok.mp hread with ⟨⟨items, behind⟩, hitems, hfound⟩
      cases hfound
      exact (h.items hitems).trans ((suffix_of_skipSpace hspace).trans (List.suffix_cons _ _))
  | table hroom hopen =>
      rw [valueWithin_table hroom hopen] at hread
      rcases bind_eq_ok.mp hread with ⟨⟨fields, behind⟩, hfields, hfound⟩
      cases hfound
      exact (h.fields hfields).trans ((skipBlanks_suffix _).trans (List.suffix_cons _ _))

theorem items_succ (h : Ends room bound) {found : List Value}
    (hread : itemsWithin room (bound + 1) around text = .ok (found, rest)) : rest <:+ text := by
  by_cases hclose : text.head? = some ']'
  · rcases List.head?_eq_some_iff.mp hclose with ⟨behind, rfl⟩
    rw [itemsWithin_close] at hread
    cases hread
    exact List.suffix_cons _ _
  · rw [itemsWithin_open hclose] at hread
    rcases bind_eq_ok.mp hread with ⟨⟨item, behind⟩, hitem, hbehind⟩
    change itemsBehind _ item behind = _ at hbehind
    refine List.IsSuffix.trans ?_ (h.value hitem)
    cases itemsStep item behind with
    | settled hsettled hleaves =>
        rw [hsettled] at hbehind
        rw [hbehind] at hleaves
        exact hleaves.suffix_of_ok
    | next hcomma hspace =>
        rw [itemsBehind_next hcomma hspace] at hbehind
        rcases bind_eq_ok.mp hbehind with ⟨⟨items, more⟩, hitems, hfound⟩
        cases hfound
        exact (h.items hitems).trans ((suffix_of_skipSpace hspace).trans
          (suffix_of_cons (suffix_of_skipSpace hcomma)))

theorem fields_succ (h : Ends room bound) {closed : List Key} {fields found : Table}
    (hread : fieldsWithin room (bound + 1) around closed fields text = .ok (found, rest)) :
    rest <:+ text := by
  rw [fieldsWithin_succ] at hread
  rcases bind_eq_ok.mp hread with ⟨⟨name, value, behind⟩, hfield, hbehind⟩
  change fieldsBehind _ closed fields name value behind = _ at hbehind
  refine List.IsSuffix.trans ?_ (h.field hfield)
  cases fieldsStep closed fields name value behind with
  | settled hsettled hleaves =>
      rw [hsettled] at hbehind
      rw [hbehind] at hleaves
      exact hleaves.suffix_of_ok
  | next hfree hassign hcomma =>
      rw [fieldsBehind_next hfree hassign hcomma] at hbehind
      exact (h.fields hbehind).trans ((skipBlanks_suffix _).trans
        (suffix_of_cons (hcomma ▸ skipBlanks_suffix behind)))

theorem field_succ (h : Ends room bound) {name : Key} {found : Value}
    (hread : fieldWithin room (bound + 1) around text = .ok (name, found, rest)) :
    rest <:+ text := by
  cases fieldStep room around text with
  | malformed hmalformed =>
      rw [hmalformed] at hread
      cases hread
  | value hkey =>
      rw [fieldWithin_value hkey] at hread
      rcases bind_eq_ok.mp hread with ⟨⟨value, behind⟩, hvalue, hfound⟩
      cases hfound
      exact (h.value hvalue).trans ((skipBlanks_suffix _).trans
        (suffix_of_cons (suffix_of_key hkey)))

end Ends

theorem ends (room : Room) (bound : Nat) : Ends room bound := by
  induction bound with
  | zero =>
      constructor
      · intro around text found rest h
        rw [valueWithin] at h
        cases h
      · intro around text found rest h
        rw [itemsWithin] at h
        cases h
      · intro around closed fields text found rest h
        rw [fieldsWithin] at h
        cases h
      · intro around text name found rest h
        rw [fieldWithin] at h
        cases h
  | succ bound ih => exact ⟨ih.value_succ, ih.items_succ, ih.fields_succ, ih.field_succ⟩

/-!
# Enough of a bound

A value needs no more than three containers for each character, as an array and
an item of it are read at a text that is shorter.
-/

/-- What is read with a bound that is enough for the length of the text is read so with the next
bound. -/
structure Settled (room : Room) (bound : Nat) : Prop where
  value : forall {around : List Container} {text : Text}, 3 * text.length + 1 <= bound ->
    valueWithin room (bound + 1) around text = valueWithin room bound around text
  items : forall {around : List Container} {text : Text}, 3 * text.length + 2 <= bound ->
    itemsWithin room (bound + 1) around text = itemsWithin room bound around text
  fields : forall {around : List Container} {closed : List Key} {fields : Table} {text : Text},
    3 * text.length + 2 <= bound ->
    fieldsWithin room (bound + 1) around closed fields text =
      fieldsWithin room bound around closed fields text
  field : forall {around : List Container} {text : Text}, 3 * text.length + 1 <= bound ->
    fieldWithin room (bound + 1) around text = fieldWithin room bound around text

namespace Settled

variable {bound : Nat} {around : List Container} {text : Text}

theorem value_succ (h : Settled room bound) (hbound : 3 * text.length + 1 <= bound + 1) :
    valueWithin room (bound + 2) around text = valueWithin room (bound + 1) around text := by
  cases valueStep room around text with
  | settled hsettled _hleaves => rw [hsettled, hsettled]
  | array hroom hspace =>
      have hstart := (suffix_of_skipSpace hspace).length_le
      rw [List.length_cons] at hbound
      rw [valueWithin_array hroom hspace, valueWithin_array hroom hspace, h.items (by omega)]
  | table hroom hopen =>
      rename_i rest
      have hstart := (skipBlanks_suffix rest).length_le
      rw [List.length_cons] at hbound
      rw [valueWithin_table hroom hopen, valueWithin_table hroom hopen, h.fields (by omega)]

theorem items_succ (h : Settled room bound) (hbound : 3 * text.length + 2 <= bound + 1) :
    itemsWithin room (bound + 2) around text = itemsWithin room (bound + 1) around text := by
  by_cases hclose : text.head? = some ']'
  · rcases List.head?_eq_some_iff.mp hclose with ⟨behind, rfl⟩
    rw [itemsWithin_close, itemsWithin_close]
  · rw [itemsWithin_open hclose, itemsWithin_open hclose, h.value (by omega)]
    apply bind_congr_ok
    rintro ⟨item, rest⟩ hitem
    have hrest := ((ends room bound).value hitem).length_le
    exact itemsBehind_congr fun start hstart => h.items (by omega)

theorem fields_succ (h : Settled room bound) {closed : List Key} {fields : Table}
    (hbound : 3 * text.length + 2 <= bound + 1) :
    fieldsWithin room (bound + 2) around closed fields text =
      fieldsWithin room (bound + 1) around closed fields text := by
  rw [fieldsWithin_succ, fieldsWithin_succ, h.field (by omega)]
  apply bind_congr_ok
  rintro ⟨name, value, rest⟩ hfield
  have hrest := ((ends room bound).field hfield).length_le
  exact fieldsBehind_congr fun closed fields start hstart => h.fields (by omega)

theorem field_succ (h : Settled room bound) (hbound : 3 * text.length + 1 <= bound + 1) :
    fieldWithin room (bound + 2) around text = fieldWithin room (bound + 1) around text := by
  cases fieldStep room around text with
  | malformed hmalformed => rw [hmalformed, hmalformed]
  | value hkey =>
      rename_i name behind
      have hbehind := (suffix_of_key hkey).length_le
      have hstart := (skipBlanks_suffix behind).length_le
      rw [List.length_cons] at hbehind
      rw [fieldWithin_value hkey, fieldWithin_value hkey, h.value (by omega)]

end Settled

theorem settled (room : Room) (bound : Nat) : Settled room bound := by
  induction bound with
  | zero => exact ⟨nofun, nofun, nofun, nofun⟩
  | succ bound ih => exact ⟨ih.value_succ, ih.items_succ, ih.fields_succ, ih.field_succ⟩

theorem eq_of_enough {α : Type} {f : Nat -> α} {enough bound : Nat}
    (h : forall bound, enough <= bound -> f (bound + 1) = f bound) (hbound : enough <= bound) :
    f bound = f enough := by
  induction bound, hbound using Nat.le_induction with
  | base => rfl
  | succ bound hbound ih => rw [h bound hbound, ih]

/-!
# Reading with enough of a bound
-/

def valueAt (room : Room) (around : List Container) (text : Text) : Except Fault (Value × Text) :=
  valueWithin room (3 * text.length + 1) around text

def itemsAt (room : Room) (around : List Container) (text : Text) :
    Except Fault (List Value × Text) :=
  itemsWithin room (3 * text.length + 2) around text

def fieldsAt (room : Room) (around : List Container) (closed : List Key) (fields : Table)
    (text : Text) :
    Except Fault (Table × Text) :=
  fieldsWithin room (3 * text.length + 2) around closed fields text

def fieldAt (room : Room) (around : List Container) (text : Text) :
    Except Fault (Key × Value × Text) :=
  fieldWithin room (3 * text.length + 1) around text

section

variable {bound : Nat} {around : List Container} {text : Text}

theorem valueWithin_eq (hbound : 3 * text.length + 1 <= bound) :
    valueWithin room bound around text = valueAt room around text :=
  eq_of_enough (f := fun bound => valueWithin room bound around text)
    (fun bound => (settled room bound).value) hbound

theorem itemsWithin_eq (hbound : 3 * text.length + 2 <= bound) :
    itemsWithin room bound around text = itemsAt room around text :=
  eq_of_enough (f := fun bound => itemsWithin room bound around text)
    (fun bound => (settled room bound).items) hbound

theorem fieldsWithin_eq {closed : List Key} {fields : Table}
    (hbound : 3 * text.length + 2 <= bound) :
    fieldsWithin room bound around closed fields text = fieldsAt room around closed fields text :=
  eq_of_enough (f := fun bound => fieldsWithin room bound around closed fields text)
    (fun bound => (settled room bound).fields) hbound

theorem fieldWithin_eq (hbound : 3 * text.length + 1 <= bound) :
    fieldWithin room bound around text = fieldAt room around text :=
  eq_of_enough (f := fun bound => fieldWithin room bound around text)
    (fun bound => (settled room bound).field) hbound

theorem field_eq (text : Text) : field room text = fieldAt room [] text :=
  fieldWithin_eq (by omega)

theorem valueAt_array {rest start : Text} (hroom : room around ('[' :: rest) = none)
    (hspace : skipSpace false rest = .ok start) :
    valueAt room around ('[' :: rest) =
      itemsAt room (.array :: around) start >>=
        fun (items, behind) => .ok (.list items, behind) := by
  have hstart := (suffix_of_skipSpace hspace).length_le
  rw [valueAt, valueWithin_array hroom hspace, List.length_cons, itemsWithin_eq (by omega)]

theorem valueAt_table {rest : Text} (hroom : room around ('\x7b' :: rest) = none)
    (hopen : (skipBlanks rest).head? ≠ some '\x7d') :
    valueAt room around ('\x7b' :: rest) =
      fieldsAt room (.table :: around) [] [] (skipBlanks rest) >>= fun (fields, behind) =>
        .ok (.table fields, behind) := by
  have hstart := (skipBlanks_suffix rest).length_le
  rw [valueAt, valueWithin_table hroom hopen, List.length_cons, fieldsWithin_eq (by omega)]

theorem itemsAt_open (hopen : text.head? ≠ some ']') :
    itemsAt room around text =
      valueAt room around text >>=
        fun (item, rest) => itemsBehind (itemsAt room around) item rest := by
  rw [itemsAt, itemsWithin_open hopen, valueWithin_eq (by omega)]
  apply bind_congr_ok
  rintro ⟨item, rest⟩ hitem
  have hrest := ((ends _ _).value hitem).length_le
  exact itemsBehind_congr fun start hstart => itemsWithin_eq (by omega)

theorem fieldsAt_eq {closed : List Key} {fields : Table} :
    fieldsAt room around closed fields text =
      fieldAt room around text >>= fun (name, value, rest) =>
        fieldsBehind (fieldsAt room around) closed fields name value rest := by
  rw [fieldsAt, fieldsWithin_succ, fieldWithin_eq (by omega)]
  apply bind_congr_ok
  rintro ⟨name, value, rest⟩ hfield
  have hrest := ((ends _ _).field hfield).length_le
  exact fieldsBehind_congr fun closed fields start hstart => fieldsWithin_eq (by omega)

theorem fieldAt_value {name : Key} {behind : Text} (hkey : key text = .ok (name, '=' :: behind)) :
    fieldAt room around text =
      valueAt room around (skipBlanks behind) >>= fun (value, rest) => .ok (name, value, rest) := by
  have hbehind := (suffix_of_key hkey).length_le
  have hstart := (skipBlanks_suffix behind).length_le
  rw [List.length_cons] at hbehind
  rw [fieldAt, fieldWithin_value hkey, valueWithin_eq (by omega)]

end

end Toml
end Format
end ScopeProbe
