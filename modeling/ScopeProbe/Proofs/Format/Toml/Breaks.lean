import ScopeProbe.Proofs.Outcomes
import ScopeProbe.Proofs.Format.Toml.Bounds

/-!
# What breaks the reading of a document

Reading a document breaks, other than by finding it malformed, if it comes to an
integer with too many digits or to a value for which there is no room.  It comes
there if all that stands in front is read well.
-/

namespace ScopeProbe
namespace Format
namespace Toml

variable {room : Room}

/-!
# Items and fields that are come to
-/

/-- From a text inside of an array reading comes to an item at a place: the items in front of it
are read. -/
inductive ItemAhead (room : Room) (around : List Container) : (text place : Text) -> Prop
  | first {text : Text} (hopen : text.head? ≠ some ']') : ItemAhead room around text text
  | later {text rest behind start place : Text} {item : Value} (hopen : text.head? ≠ some ']')
      (hitem : valueAt room around text = .ok (item, rest))
      (hcomma : skipSpace false rest = .ok (',' :: behind))
      (hspace : skipSpace false behind = .ok start) (hahead : ItemAhead room around start place) :
      ItemAhead room around text place

inductive FieldAhead (room : Room) (around : List Container) :
    List Key -> Table -> (text place : Text) -> Prop
  | first {closed : List Key} {fields : Table} {text behind : Text} {name : Key}
      (hkey : key text = .ok (name, '=' :: behind)) :
      FieldAhead room around closed fields text (skipBlanks behind)
  | later {closed : List Key} {fields more : Table} {text rest behind place : Text} {name : Key}
      {value : Value} (hfield : fieldAt room around text = .ok (name, value, rest))
      (hfree : isWithin closed name = false)
      (hassign : assign false [] name value fields = .ok more)
      (hcomma : skipBlanks rest = ',' :: behind)
      (hahead : FieldAhead room around (if isClosed value then name :: closed else closed) more
        (skipBlanks behind) place) :
      FieldAhead room around closed fields text place

section

variable {around : List Container} {text place rest : Text} {fault : Fault}

theorem suffix_of_valueAt {found : Value} (h : valueAt room around text = .ok (found, rest)) :
    rest <:+ text :=
  (ends _ _).value h

theorem suffix_of_fieldAt {name : Key} {found : Value}
    (h : fieldAt room around text = .ok (name, found, rest)) : rest <:+ text :=
  (ends _ _).field h

theorem ItemAhead.length_le (h : ItemAhead room around text place) :
    place.length <= text.length := by
  induction h with
  | first => exact Nat.le_refl _
  | later _hopen hitem hcomma hspace _hahead ih =>
      have hrest := (suffix_of_valueAt hitem).length_le
      have hstart := length_of_itemsBehind hcomma hspace
      omega

theorem FieldAhead.length_le {closed : List Key} {fields : Table}
    (h : FieldAhead room around closed fields text place) : place.length <= text.length := by
  induction h with
  | first hkey =>
      exact ((skipBlanks_suffix _).trans (suffix_of_cons (suffix_of_key hkey))).length_le
  | later hfield _hfree _hassign hcomma _hahead ih =>
      have hrest := (suffix_of_fieldAt hfield).length_le
      have hstart := length_of_fieldsBehind hcomma
      omega

theorem itemsAt_of_ahead (hahead : ItemAhead room around text place)
    (hplace : valueAt room around place = .error fault) :
    itemsAt room around text = .error fault := by
  induction hahead with
  | first hopen =>
      rw [itemsAt_open hopen, hplace]
      rfl
  | later hopen hitem hcomma hspace _hahead ih =>
      rw [itemsAt_open hopen, hitem]
      show itemsBehind _ _ _ = _
      rw [itemsBehind_next hcomma hspace, ih hplace]
      rfl

theorem itemsAt_eq_error (hother : fault ≠ .malformed) :
    itemsAt room around text = .error fault <->
      exists place,
        ItemAhead room around text place ∧ valueAt room around place = .error fault := by
  constructor
  · intro h
    induction hlength : text.length using Nat.strong_induction_on generalizing text with
    | _ length ih =>
        by_cases hclose : text.head? = some ']'
        · rcases List.head?_eq_some_iff.mp hclose with ⟨behind, rfl⟩
          rw [itemsAt, itemsWithin_close] at h
          cases h
        · rw [itemsAt_open hclose] at h
          rcases bind_eq_error.mp h with hfirst | ⟨⟨item, rest⟩, hitem, hbehind⟩
          · exact ⟨text, .first hclose, hfirst⟩
          · change itemsBehind _ item rest = _ at hbehind
            cases itemsStep item rest with
            | settled hsettled hleaves =>
                rw [hsettled] at hbehind
                rw [hbehind] at hleaves
                cases hleaves with
                | error hmalformed => exact absurd hmalformed hother
            | next hcomma hspace =>
                rw [itemsBehind_next hcomma hspace] at hbehind
                rcases bind_eq_error.mp hbehind with hlater | ⟨_found, _hlater, hfound⟩
                · have hrest := (suffix_of_valueAt hitem).length_le
                  have hstart := length_of_itemsBehind hcomma hspace
                  rcases ih _ (by omega) hlater rfl with ⟨place, hahead, hplace⟩
                  exact ⟨place, .later hclose hitem hcomma hspace hahead, hplace⟩
                · cases hfound
  · rintro ⟨place, hahead, hplace⟩
    exact itemsAt_of_ahead hahead hplace

theorem fieldAt_eq_error (hother : fault ≠ .malformed) :
    fieldAt room around text = .error fault <->
      exists name behind, key text = .ok (name, '=' :: behind) ∧
        valueAt room around (skipBlanks behind) = .error fault := by
  constructor
  · intro h
    cases fieldStep room around text with
    | malformed hmalformed =>
        rw [fieldAt, hmalformed] at h
        cases h
        exact absurd rfl hother
    | value hkey =>
        rw [fieldAt_value hkey] at h
        rcases bind_eq_error.mp h with hvalue | ⟨_found, _hvalue, hfound⟩
        · exact ⟨_, _, hkey, hvalue⟩
        · cases hfound
  · rintro ⟨name, behind, hkey, hvalue⟩
    rw [fieldAt_value hkey, hvalue]
    rfl

theorem fieldsAt_of_ahead {closed : List Key} {fields : Table}
    (hahead : FieldAhead room around closed fields text place)
    (hplace : valueAt room around place = .error fault) :
    fieldsAt room around closed fields text = .error fault := by
  induction hahead with
  | first hkey =>
      rw [fieldsAt_eq, fieldAt_value hkey, hplace]
      rfl
  | later hfield hfree hassign hcomma _hahead ih =>
      rw [fieldsAt_eq, hfield]
      show fieldsBehind _ _ _ _ _ _ = _
      rw [fieldsBehind_next hfree hassign hcomma, ih hplace]

theorem fieldsAt_eq_error {closed : List Key} {fields : Table} (hother : fault ≠ .malformed) :
    fieldsAt room around closed fields text = .error fault <->
      exists place, FieldAhead room around closed fields text place ∧
        valueAt room around place = .error fault := by
  constructor
  · intro h
    induction hlength : text.length using Nat.strong_induction_on
      generalizing text closed fields with
    | _ length ih =>
        rw [fieldsAt_eq] at h
        rcases bind_eq_error.mp h with hfirst | ⟨⟨name, value, rest⟩, hfield, hbehind⟩
        · rcases (fieldAt_eq_error hother).mp hfirst with ⟨name, behind, hkey, hvalue⟩
          exact ⟨_, .first hkey, hvalue⟩
        · change fieldsBehind _ closed fields name value rest = _ at hbehind
          cases fieldsStep closed fields name value rest with
          | settled hsettled hleaves =>
              rw [hsettled] at hbehind
              rw [hbehind] at hleaves
              cases hleaves with
              | error hmalformed => exact absurd hmalformed hother
          | next hfree hassign hcomma =>
              rw [fieldsBehind_next hfree hassign hcomma] at hbehind
              have hrest := (suffix_of_fieldAt hfield).length_le
              have hstart := length_of_fieldsBehind hcomma
              rcases ih _ (by omega) hbehind rfl with ⟨place, hahead, hplace⟩
              exact ⟨place, .later hfield hfree hassign hcomma hahead, hplace⟩
  · rintro ⟨place, hahead, hplace⟩
    exact fieldsAt_of_ahead hahead hplace

end

/-!
# Values that break
-/

inductive ValueBreaks (room : Room) : (around : List Container) -> Text -> Fault -> Prop
  | refused {around : List Container} {text : Text} {fault : Fault}
      (hrefused : Refused room around text fault) :
      ValueBreaks room around text fault
  | item {around : List Container} {rest start place : Text} {fault : Fault}
      (hroom : room around ('[' :: rest) = none) (hspace : skipSpace false rest = .ok start)
      (hahead : ItemAhead room (.array :: around) start place)
      (hbreaks : ValueBreaks room (.array :: around) place fault) :
      ValueBreaks room around ('[' :: rest) fault
  | field {around : List Container} {rest place : Text} {fault : Fault}
      (hroom : room around ('\x7b' :: rest) = none) (hopen : (skipBlanks rest).head? ≠ some '\x7d')
      (hahead : FieldAhead room (.table :: around) [] [] (skipBlanks rest) place)
      (hbreaks : ValueBreaks room (.table :: around) place fault) :
      ValueBreaks room around ('\x7b' :: rest) fault

section

variable {around : List Container} {text : Text} {fault : Fault}

theorem Refused.other (h : Refused room around text fault) : fault ≠ .malformed := by
  cases h with
  | full => exact nofun
  | integer => exact nofun

theorem ValueBreaks.other (h : ValueBreaks room around text fault) : fault ≠ .malformed := by
  induction h with
  | refused hrefused => exact hrefused.other
  | item _hroom _hspace _hahead _hbreaks ih => exact ih
  | field _hroom _hopen _hahead _hbreaks ih => exact ih

theorem LongInteger.head_ne {count : Nat} (h : LongInteger text count) {mark : Char}
    (hmark : Text.isDecimal mark = false) (hnext : mark ≠ '_') (hsign : mark ≠ '-' ∧ mark ≠ '+') :
    text.head? ≠ some mark := by
  intro hhead
  rcases List.head?_eq_some_iff.mp hhead with ⟨rest, rfl⟩
  have hfew := @length_wholePart_of_mark mark rest hmark hnext hsign
  rw [h.digits] at hfew
  exact absurd (Nat.lt_of_lt_of_le h.many hfew) (Nat.not_lt_zero _)

theorem valueAt_of_refused (h : Refused room around text fault) :
    valueAt room around text = .error fault := by
  cases h with
  | full hfull => exact valueWithin_full hfull
  | integer hroom hlong =>
      have harray : text.head? ≠ some '[' := hlong.head_ne rfl (by decide) (by decide)
      have htable : text.head? ≠ some '\x7b' := hlong.head_ne rfl (by decide) (by decide)
      rw [valueAt, valueWithin_scalar hroom harray htable]
      exact scalar_of_longInteger hlong

theorem valueAt_of_breaks (h : ValueBreaks room around text fault) :
    valueAt room around text = .error fault := by
  induction h with
  | refused hrefused => exact valueAt_of_refused hrefused
  | item hroom hspace hahead _hbreaks ih =>
      rw [valueAt_array hroom hspace, itemsAt_of_ahead hahead ih]
      rfl
  | field hroom hopen hahead _hbreaks ih =>
      rw [valueAt_table hroom hopen, fieldsAt_of_ahead hahead ih]
      rfl

theorem valueAt_eq_error (hother : fault ≠ .malformed) :
    valueAt room around text = .error fault <-> ValueBreaks room around text fault := by
  constructor
  · intro h
    -- what is come to in a container is shorter than the container
    induction hlength : text.length using Nat.strong_induction_on generalizing around text with
    | _ length ih =>
        cases valueStep room around text with
        | settled hsettled hleaves =>
            rw [valueAt, hsettled] at h
            rw [h] at hleaves
            cases hleaves with
            | error hfault =>
                rcases hfault with hmalformed | hrefused
                · exact absurd hmalformed hother
                · exact .refused hrefused
        | array hroom hspace =>
            rw [valueAt_array hroom hspace] at h
            rcases bind_eq_error.mp h with hitems | ⟨_found, _hitems, hfound⟩
            · rcases (itemsAt_eq_error hother).mp hitems with ⟨place, hahead, hplace⟩
              have hstart := (suffix_of_skipSpace hspace).length_le
              have hless := hahead.length_le
              rw [List.length_cons] at hlength
              exact .item hroom hspace hahead (ih _ (by omega) hplace rfl)
            · cases hfound
        | table hroom hopen =>
            rename_i rest
            rw [valueAt_table hroom hopen] at h
            rcases bind_eq_error.mp h with hfields | ⟨_found, _hfields, hfound⟩
            · rcases (fieldsAt_eq_error hother).mp hfields with ⟨place, hahead, hplace⟩
              have hstart := (skipBlanks_suffix rest).length_le
              have hless := hahead.length_le
              rw [List.length_cons] at hlength
              exact .field hroom hopen hahead (ih _ (by omega) hplace rfl)
            · cases hfound
  · exact valueAt_of_breaks

end

/-!
# Statements
-/

/-- A statement is a field whose value breaks. -/
def FieldBreaks (room : Room) (text : Text) (fault : Fault) : Prop :=
  exists name behind, key text = .ok (name, '=' :: behind) ∧
    ValueBreaks room [] (skipBlanks behind) fault

theorem FieldBreaks.other {text : Text} {fault : Fault} (h : FieldBreaks room text fault) :
    fault ≠ .malformed := by
  rcases h with ⟨_name, _behind, _hkey, hvalue⟩
  exact hvalue.other

namespace Document

variable {document : Document} {text : Text} {fault : Fault}

theorem addField_cases (document : Document) (name : Key) (value : Value) :
    (exists next, document.addField name value = .ok next) ∨
      document.addField name value = .error .malformed := by
  unfold addField
  dsimp only
  split
  · exact .inr rfl
  · split
    · exact .inr rfl
    · rcases assign_cases true document.header name value document.table with
        ⟨table, hassign⟩ | hassign
      · rw [hassign]
        exact .inl ⟨_, rfl⟩
      · rw [hassign]
        exact .inr rfl

theorem openTable_cases (document : Document) (name : Key) :
    (exists next, document.openTable name = .ok next) ∨
      document.openTable name = .error .malformed := by
  unfold openTable
  split
  · exact .inr rfl
  · split
    · exact .inl ⟨_, rfl⟩
    · exact .inr rfl

theorem openItem_cases (document : Document) (name : Key) :
    (exists next, document.openItem name = .ok next) ∨
      document.openItem name = .error .malformed := by
  unfold openItem
  split
  · exact .inr rfl
  · dsimp only
    split
    · exact .inr rfl
    · split
      · exact .inl ⟨_, rfl⟩
      · exact .inr rfl

theorem leaves_readHeader (document : Document) (text : Text) :
    Plain text (document.readHeader text) := by
  unfold readHeader
  dsimp only
  split
  · rename_i rest
    have hkey : Plain ('[' :: rest) (key (skipBlanks rest)) :=
      (leaves_key _).of_suffix ((skipBlanks_suffix rest).trans (List.suffix_cons _ _))
    apply hkey.bind
    intro name behind hbehind
    rcases document.settle.openItem_cases name with ⟨next, hopen⟩ | hopen
    · dsimp only
      rw [hopen]
      dsimp only [bind, Except.bind]
      split
      · exact .ok (suffix_of_cons (suffix_of_cons hbehind))
      · exact .malformed
    · dsimp only
      rw [hopen]
      exact .malformed
  · have hkey : Plain text (key (skipBlanks text)) :=
      (leaves_key _).of_suffix (skipBlanks_suffix text)
    apply hkey.bind
    intro name behind hbehind
    rcases document.settle.openTable_cases name with ⟨next, hopen⟩ | hopen
    · dsimp only
      rw [hopen]
      dsimp only [bind, Except.bind]
      split
      · exact .ok (suffix_of_cons hbehind)
      · exact .malformed
    · dsimp only
      rw [hopen]
      exact .malformed

def endStatement (document : Document) (rest : Text) : Except Fault (Document × Text) := do
  let rest ← skipComment (skipBlanks rest)
  .ok (document, rest)

theorem leaves_endStatement (document : Document) (rest : Text) :
    Plain rest (document.endStatement rest) := by
  rcases skipComment_cases (skipBlanks rest) with ⟨behind, hskip, hbehind⟩ | hskip
  · rw [endStatement, hskip]
    exact .ok (hbehind.trans (skipBlanks_suffix rest))
  · rw [endStatement, hskip]
    exact .malformed

theorem readStatement_field {c : Char} {more : Text} (hstarts : startsKey c = true) :
    document.readStatement room (c :: more) =
      fieldAt room [] (c :: more) >>= fun (name, value, rest) =>
        document.addField name value >>= fun next => next.endStatement rest := by
  have hother : c ≠ '[' := by
    rintro rfl
    exact absurd hstarts (by decide)
  rw [← field_eq]
  unfold readStatement
  split
  · rename_i hheader
    exact absurd (List.cons.inj hheader).left hother
  · rename_i hcons
    cases hcons
    rw [if_pos hstarts]
    rfl
  · rename_i hnil
    cases hnil

theorem leaves_readStatement (room : Room) (document : Document) (text : Text) :
    Leaves (fun fault => fault = .malformed ∨ FieldBreaks room text fault) text
      (document.readStatement room text) := by
  have hplain : forall {outcome : Except Fault (Document × Text)}, Plain text outcome ->
      Leaves (fun fault => fault = .malformed ∨ FieldBreaks room text fault) text outcome :=
    fun h => h.weaken fun _fault hfault => .inl hfault
  cases text with
  | nil => exact hplain (leaves_endStatement document [])
  | cons c more =>
      cases hstarts : startsKey c with
      | true =>
          rw [readStatement_field hstarts]
          cases hfield : fieldAt room [] (c :: more) with
          | error fault =>
              by_cases hother : fault = .malformed
              · exact .error (.inl hother)
              · rcases (fieldAt_eq_error hother).mp hfield with ⟨name, behind, hkey, hvalue⟩
                exact .error (.inr ⟨name, behind, hkey, (valueAt_eq_error hother).mp hvalue⟩)
          | ok found =>
              rcases found with ⟨name, value, rest⟩
              rcases document.addField_cases name value with ⟨next, hadd⟩ | hadd
              · show Leaves _ _
                  (document.addField name value >>= fun next => next.endStatement rest)
                rw [hadd]
                exact hplain ((leaves_endStatement next rest).of_suffix (suffix_of_fieldAt hfield))
              · show Leaves _ _
                  (document.addField name value >>= fun next => next.endStatement rest)
                rw [hadd]
                exact hplain .malformed
      | false =>
          apply hplain
          unfold readStatement
          split
          · rename_i rest hheader
            cases hheader
            apply ((leaves_readHeader document more).of_suffix (List.suffix_cons _ _)).bind
            intro next behind hbehind
            exact (leaves_endStatement next behind).of_suffix hbehind
          · rename_i hcons
            cases hcons
            rw [hstarts]
            show Plain _ (if c = '#' then document.endStatement (c :: more)
              else .error .malformed)
            split
            · exact leaves_endStatement document _
            · exact .malformed
          · rename_i hnil
            cases hnil

theorem startsKey_of_key {name : Key} {rest : Text} (h : key text = .ok (name, rest)) :
    exists c more, text = c :: more ∧ startsKey c = true := by
  rw [key, keyWithin] at h
  rcases bind_eq_ok.mp h with ⟨⟨part, behind⟩, hpart, _h⟩
  unfold keyPart at hpart
  split at hpart
  · exact ⟨_, _, rfl, rfl⟩
  · exact ⟨_, _, rfl, rfl⟩
  · cases text with
    | nil => cases hpart
    | cons c more =>
        cases hbare : isBareKey c with
        | true => exact ⟨c, more, rfl, by rw [startsKey, hbare, Bool.true_or, Bool.true_or]⟩
        | false =>
            rw [List.takeWhile_cons_of_neg (Bool.eq_false_iff.mp hbare)] at hpart
            cases hpart

theorem readStatement_of_breaks (h : FieldBreaks room text fault) :
    document.readStatement room text = .error fault := by
  rcases h with ⟨name, behind, hkey, hbreaks⟩
  rcases startsKey_of_key hkey with ⟨c, more, rfl, hstarts⟩
  rw [readStatement_field hstarts, fieldAt_value hkey, valueAt_of_breaks hbreaks]
  rfl

end Document

/-!
# Documents
-/

/-- Reading a document comes to a statement whose value breaks: the statements in front of it are
read and taken. -/
inductive StatementsBreak (room : Room) (fault : Fault) : Document -> Text -> Prop
  | here {document : Document} {text : Text} (hbreaks : FieldBreaks room (skipBlanks text) fault) :
      StatementsBreak room fault document text
  | blank {document : Document} {text rest : Text} (hblank : skipBlanks text = '\n' :: rest)
      (hlater : StatementsBreak room fault document rest) : StatementsBreak room fault document text
  | later {document next : Document} {text rest : Text}
      (hstatement : document.readStatement room (skipBlanks text) = .ok (next, '\n' :: rest))
      (hlater : StatementsBreak room fault next rest) : StatementsBreak room fault document text

theorem StatementsBreak.other {fault : Fault} {document : Document} {text : Text}
    (h : StatementsBreak room fault document text) : fault ≠ .malformed := by
  induction h with
  | here hbreaks => exact hbreaks.other
  | blank _hblank _hlater ih => exact ih
  | later _hstatement _hlater ih => exact ih

namespace Document

variable {bound : Nat} {document : Document} {text : Text} {fault : Fault}

theorem readWithin_blank {rest : Text} (hblank : skipBlanks text = '\n' :: rest) :
    readWithin room (bound + 1) document text = readWithin room bound document rest := by
  rw [readWithin, hblank]
  rfl

def statementsBehind (room : Room) (bound : Nat) (document : Document) :
    Text -> Except Fault Document
  | [] => .ok document
  | '\n' :: rest => readWithin room bound document rest
  | _ => .error .malformed

theorem readWithin_statement (hnil : skipBlanks text ≠ [])
    (hbreak : (skipBlanks text).head? ≠ some '\n') :
    readWithin room (bound + 1) document text =
      document.readStatement room (skipBlanks text) >>= fun (next, rest) =>
        statementsBehind room bound next rest := by
  rw [readWithin]
  split
  · rename_i h
    exact absurd h hnil
  · rename_i h
    rw [h] at hbreak
    exact absurd rfl hbreak
  · rfl

theorem readWithin_error (hother : fault ≠ .malformed)
    (h : readWithin room bound document text = .error fault) :
    StatementsBreak room fault document text := by
  induction bound generalizing document text with
  | zero =>
      rw [readWithin] at h
      cases h
      exact absurd rfl hother
  | succ bound ih =>
      by_cases hnil : skipBlanks text = []
      · rw [readWithin, hnil] at h
        cases h
      · by_cases hbreak : (skipBlanks text).head? = some '\n'
        · rcases List.head?_eq_some_iff.mp hbreak with ⟨rest, hblank⟩
          rw [readWithin_blank hblank] at h
          exact .blank hblank (ih h)
        · rw [readWithin_statement hnil hbreak] at h
          rcases bind_eq_error.mp h with hstatement | ⟨⟨next, rest⟩, hstatement, hbehind⟩
          · have hleaves := leaves_readStatement room document (skipBlanks text)
            rw [hstatement] at hleaves
            cases hleaves with
            | error hfault =>
                rcases hfault with hmalformed | hbreaks
                · exact absurd hmalformed hother
                · exact .here hbreaks
          · change statementsBehind room bound next rest = _ at hbehind
            unfold statementsBehind at hbehind
            split at hbehind
            · cases hbehind
            · exact .later hstatement (ih hbehind)
            · cases hbehind
              exact absurd rfl hother

theorem readWithin_of_statement {outcome : Except Fault (Document × Text)}
    (hstatement : document.readStatement room (skipBlanks text) = outcome)
    (hsome : outcome ≠ .ok (document, [])) (hwell : outcome ≠ .error .malformed) :
    readWithin room (bound + 1) document text =
      outcome >>= fun (next, rest) => statementsBehind room bound next rest := by
  rw [← hstatement]
  apply readWithin_statement
  · intro hnil
    rw [hnil] at hstatement
    exact hsome hstatement.symm
  · intro hbreak
    rcases List.head?_eq_some_iff.mp hbreak with ⟨rest, hblank⟩
    rw [hblank] at hstatement
    exact hwell hstatement.symm

theorem suffix_of_readStatement {next : Document} {rest : Text}
    (h : document.readStatement room text = .ok (next, rest)) : rest <:+ text := by
  have hleaves := leaves_readStatement room document text
  rw [h] at hleaves
  exact hleaves.suffix_of_ok

theorem readWithin_of_breaks (h : StatementsBreak room fault document text)
    (hbound : text.length < bound) : readWithin room bound document text = .error fault := by
  induction h generalizing bound with
  | here hbreaks =>
      cases bound with
      | zero => cases hbound
      | succ bound =>
          rw [readWithin_of_statement (readStatement_of_breaks hbreaks) nofun
            (fun h => hbreaks.other (Except.error.inj h))]
          rfl
  | blank hblank _hlater ih =>
      rename_i text rest
      cases bound with
      | zero => cases hbound
      | succ bound =>
          have hrest := (skipBlanks_suffix text).length_le
          rw [hblank, List.length_cons] at hrest
          rw [readWithin_blank hblank]
          exact ih (by omega)
  | later hstatement _hlater ih =>
      rename_i text rest
      cases bound with
      | zero => cases hbound
      | succ bound =>
          have hrest := ((suffix_of_readStatement hstatement).trans
            (skipBlanks_suffix text)).length_le
          rw [List.length_cons] at hrest
          rw [readWithin_of_statement hstatement nofun nofun]
          exact ih (by omega)

end Document

/-- The octets of a document break its reader: they are not a text, or reading the text comes to a
value that is refused. -/
inductive Breaks (room : Room) (octets : Encoding.Octets) : Fault -> Prop
  | notText (htext : Encoding.utf8? Encoding.charOf? octets = none) : Breaks room octets .notText
  | statements {text : Text} {fault : Fault}
      (htext : Encoding.utf8? Encoding.charOf? octets = some text)
      (hbreaks : StatementsBreak room fault {} text.unifyNewlines) : Breaks room octets fault

section

variable {fault : Fault}

theorem ofText_eq_error {text : Text} (hother : fault ≠ .malformed) :
    ofText room text = .error fault <-> StatementsBreak room fault {} text.unifyNewlines := by
  rw [ofText, bind_eq_error]
  constructor
  · rintro (hread | ⟨_document, _hread, htable⟩)
    · exact Document.readWithin_error hother hread
    · cases htable
  · intro hbreaks
    exact .inl (Document.readWithin_of_breaks hbreaks (Nat.lt_succ_self _))

theorem read_eq_error {octets : Encoding.Octets} (hother : fault ≠ .malformed) :
    read room octets = .error fault <-> Breaks room octets fault := by
  rw [read]
  cases htext : Encoding.utf8? Encoding.charOf? octets with
  | none =>
      constructor
      · intro h
        cases h
        exact .notText htext
      · intro h
        cases h with
        | notText => rfl
        | statements hsome =>
            rw [htext] at hsome
            cases hsome
  | some text =>
      constructor
      · intro h
        exact .statements htext ((ofText_eq_error hother).mp h)
      · intro h
        cases h with
        | notText hnone =>
            rw [htext] at hnone
            cases hnone
        | statements hsome hbreaks =>
            rw [htext] at hsome
            cases hsome
            exact (ofText_eq_error hother).mpr hbreaks

theorem Breaks.other {octets : Encoding.Octets} (h : Breaks room octets fault) :
    fault ≠ .malformed := by
  cases h with
  | notText => exact nofun
  | statements _htext hbreaks => exact hbreaks.other

theorem read_of_breaks {octets : Encoding.Octets} (h : Breaks room octets fault) :
    read room octets = .error fault :=
  (read_eq_error h.other).mpr h

end

end Toml
end Format
end ScopeProbe
