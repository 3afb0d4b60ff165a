import ScopeProbe.Binary64.Decimal
import ScopeProbe.Text.Encoding
import ScopeProbe.Text.Hexadecimal
import ScopeProbe.Value

/-!
# TOML

Reading a TOML document.  Statements are read one after the other, and each adds to the table of the
document.  Which tables may still be added to is kept in marks on the names that lead to them.
Every array and table that is being read takes room on the stack of calls, and how much room there
is, the document does not tell.
-/

namespace ScopeProbe
namespace Format
namespace Toml

inductive Fault where
  | malformed
  | notText
  | integerTooLong (digits : Nat)
  | tooDeep (occasion : String)
  deriving DecidableEq, Repr

/-!
# Characters
-/

def isBlank (c : Char) : Bool :=
  c == ' ' || c == '\t'

def isBlankOrBreak (c : Char) : Bool :=
  isBlank c || c == '\n'

def isControl (c : Char) : Bool :=
  (c.toNat < 0x20 && c != '\t') || c.toNat == 0x7F

def isControlOrNoBreak (c : Char) : Bool :=
  isControl c && c != '\n'

def isBareKey (c : Char) : Bool :=
  c.isAlphanum || c == '-' || c == '_'

def skipBlanks (text : Text) : Text :=
  text.dropWhile isBlank

/-!
# Comments
-/

def skipComment (text : Text) : Except Fault Text :=
  match text with
  | '#' :: rest =>
      if (rest.takeWhile (· != '\n')).any isControl then .error .malformed
      else .ok (rest.dropWhile (· != '\n'))
  | _ => .ok text

def skipSpace (inComment : Bool) : Text -> Except Fault Text
  | [] => .ok []
  | c :: rest =>
      if inComment then
        if c = '\n' then skipSpace false rest
        else if isControl c then .error .malformed
        else skipSpace true rest
      else if isBlankOrBreak c then skipSpace false rest
      else if c = '#' then skipSpace true rest
      else .ok (c :: rest)

/-!
# Strings
-/

inductive Piece where
  | plain (c : Char)
  | escaped (c : Char)
  | fold

def escapes : List (Char × Char) :=
  [('b', '\x08'), ('t', '\t'), ('n', '\n'), ('f', '\x0c'), ('r', '\r'), ('"', '"'), ('\\', '\\')]

def codeChar? (digits : List Char) : Option Char :=
  (Hexadecimal.number? digits).bind Encoding.charOf?

def prepend (pieces : List Piece) :
    Except Fault (List Piece × Text) -> Except Fault (List Piece × Text)
  | .ok (more, rest) => .ok (pieces ++ more, rest)
  | .error fault => .error fault

/-- The parts of a string up to its closing quotes.  Of five quotes at the end of a string of
several lines two belong to it. -/
def pieces (severalLines : Bool) : Text -> Except Fault (List Piece × Text)
  | [] => .error .malformed
  | '\\' :: 'u' :: a :: b :: c :: d :: rest =>
      match codeChar? [a, b, c, d] with
      | some meant => prepend [.escaped meant] (pieces severalLines rest)
      | none => .error .malformed
  | '\\' :: 'U' :: a :: b :: c :: d :: e :: f :: g :: h :: rest =>
      match codeChar? [a, b, c, d, e, f, g, h] with
      | some meant => prepend [.escaped meant] (pieces severalLines rest)
      | none => .error .malformed
  | '\\' :: c :: rest =>
      if severalLines && isBlankOrBreak c then
        prepend [.fold, .plain c] (pieces severalLines rest)
      else
        match escapes.lookup c with
        | some meant => prepend [.escaped meant] (pieces severalLines rest)
        | none => .error .malformed
  | '"' :: rest =>
      if !severalLines then .ok ([], rest)
      else
        match rest with
        | '"' :: '"' :: '"' :: '"' :: behind => .ok ([.plain '"', .plain '"'], behind)
        | '"' :: '"' :: '"' :: behind => .ok ([.plain '"'], behind)
        | '"' :: '"' :: behind => .ok ([], behind)
        | _ => prepend [.plain '"'] (pieces severalLines rest)
  | c :: rest =>
      if isControl c && !(severalLines && c == '\n') then .error .malformed
      else prepend [.plain c] (pieces severalLines rest)

inductive Fold where
  | none
  | beforeBreak
  | afterBreak

/-- The characters of a string.  A fold takes the blanks up to the line break, the break, and all
blanks and breaks behind it. -/
def joinPieces : Fold -> List Piece -> Option Text
  | .beforeBreak, [] => none
  | _, [] => some []
  | .beforeBreak, .plain c :: more =>
      if c = '\n' then joinPieces .afterBreak more
      else if isBlank c then joinPieces .beforeBreak more
      else none
  | .beforeBreak, _ :: _ => none
  | .afterBreak, .plain c :: more =>
      if isBlankOrBreak c then joinPieces .afterBreak more
      else (joinPieces .none more).map (c :: ·)
  | .none, .plain c :: more => (joinPieces .none more).map (c :: ·)
  | _, .escaped c :: more => (joinPieces .none more).map (c :: ·)
  | _, .fold :: more => joinPieces .beforeBreak more

def basicString (severalLines : Bool) (text : Text) : Except Fault (Text × Text) := do
  let (found, rest) ← pieces severalLines text
  match joinPieces .none found with
  | some content => .ok (content, rest)
  | none => .error .malformed

def literalString (text : Text) : Except Fault (Text × Text) :=
  match Text.splitAt? ['\''] text with
  | some (content, rest) =>
      if content.any isControl then .error .malformed else .ok (content, rest)
  | none => .error .malformed

def literalLines (text : Text) : Except Fault (Text × Text) :=
  match Text.splitAt? "'''".toList text with
  | some (content, rest) =>
      if content.any isControlOrNoBreak then .error .malformed
      else
        match rest with
        | '\'' :: '\'' :: behind => .ok (content ++ ['\'', '\''], behind)
        | '\'' :: behind => .ok (content ++ ['\''], behind)
        | _ => .ok (content, rest)
  | none => .error .malformed

def skipFirstBreak : Text -> Text
  | '\n' :: rest => rest
  | text => text

def string? : Text -> Option (Except Fault (Text × Text))
  | '"' :: '"' :: '"' :: rest => some (basicString true (skipFirstBreak rest))
  | '"' :: rest => some (basicString false rest)
  | '\'' :: '\'' :: '\'' :: rest => some (literalLines (skipFirstBreak rest))
  | '\'' :: rest => some (literalString rest)
  | _ => none

/-!
# Keys
-/

abbrev Key := List String

def keyPart (text : Text) : Except Fault (String × Text) :=
  match text with
  | '"' :: rest => do
      let (name, behind) ← basicString false rest
      .ok (String.ofList name, behind)
  | '\'' :: rest => do
      let (name, behind) ← literalString rest
      .ok (String.ofList name, behind)
  | _ =>
      let name := text.takeWhile isBareKey
      if name.isEmpty then .error .malformed
      else .ok (String.ofList name, text.dropWhile isBareKey)

def keyWithin : Nat -> Text -> Except Fault (Key × Text)
  | 0, _ => .error .malformed
  | bound + 1, text => do
      let (name, rest) ← keyPart text
      match skipBlanks rest with
      | '.' :: behind => do
          let (more, rest) ← keyWithin bound (skipBlanks behind)
          .ok (name :: more, rest)
      | rest => .ok ([name], rest)

def key (text : Text) : Except Fault (Key × Text) :=
  keyWithin (text.length + 1) text

/-!
# Dates and times
-/

def twoDigits? (limit : Nat) : Text -> Option (Nat × Text)
  | a :: b :: rest =>
      if Text.isDecimal a && Text.isDecimal b && Text.numberOf [a, b] < limit then
        some (Text.numberOf [a, b], rest)
      else none
  | _ => none

def expect? (c : Char) : Text -> Option Text
  | d :: rest => if c = d then some rest else none
  | [] => none

def date? : Text -> Option ((Nat × Nat × Nat) × Text)
  | a :: b :: c :: d :: '-' :: rest => do
      if !([a, b, c, d].all Text.isDecimal) then none
      else
        let (month, rest) ← twoDigits? 13 rest
        let rest ← expect? '-' rest
        let (day, rest) ← twoDigits? 32 rest
        if month = 0 ∨ day = 0 then none
        else some ((Text.numberOf [a, b, c, d], month, day), rest)
  | _ => none

def microseconds (text : Text) : Nat × Text :=
  match text with
  | '.' :: rest =>
      let digits := rest.takeWhile Text.isDecimal
      if digits.isEmpty then (0, text)
      else
        let six := (digits ++ List.replicate 6 '0').take 6
        (Text.numberOf six, rest.dropWhile Text.isDecimal)
  | _ => (0, text)

def time? (text : Text) : Option (Time × Text) := do
  let (hour, rest) ← twoDigits? 24 text
  let rest ← expect? ':' rest
  let (minute, rest) ← twoDigits? 60 rest
  let rest ← expect? ':' rest
  let (second, rest) ← twoDigits? 60 rest
  let (microsecond, rest) := microseconds rest
  some ({ hour, minute, second, microsecond }, rest)

def offset? (text : Text) : Option (Int × Text) := do
  let (hours, rest) ← twoDigits? 24 text
  let rest ← expect? ':' rest
  let (minutes, rest) ← twoDigits? 60 rest
  some ((hours * 60 + minutes : Nat), rest)

def zone (text : Text) : Option Int × Text :=
  match text with
  | sign :: rest =>
      if sign = 'Z' ∨ sign = 'z' then (some 0, rest)
      else if sign = '+' then
        match offset? rest with
        | some (minutes, behind) => (some minutes, behind)
        | none => (none, text)
      else if sign = '-' then
        match offset? rest with
        | some (minutes, behind) => (some (-minutes), behind)
        | none => (none, text)
      else (none, text)
  | [] => (none, text)

def timeBehindDate? : Text -> Option (Time × Text)
  | separator :: rest =>
      if separator = 'T' ∨ separator = 't' ∨ separator = ' ' then time? rest else none
  | [] => none

def calendar? (text : Text) : Option (Except Fault (Value × Text)) :=
  match date? text with
  | some ((year, month, day), rest) =>
      match Date.make? year month day with
      | none => some (.error .malformed)
      | some date =>
          match timeBehindDate? rest with
          | none => some (.ok (.date date, rest))
          | some (time, rest) =>
              let (offset, rest) := zone rest
              some (.ok (.moment { date, time, offset }, rest))
  | none => (time? text).map fun (time, rest) => .ok (.time time, rest)

/-!
# Numbers
-/

def grouped (isDigit : Char -> Bool) : Text -> Text × Text
  | [] => ([], [])
  | [c] => if isDigit c then ([c], []) else ([], [c])
  | c :: d :: rest =>
      if isDigit c then
        if d = '_' then
          match rest with
          | e :: _ =>
              if isDigit e then
                let (digits, behind) := grouped isDigit rest
                (c :: digits, behind)
              else ([c], d :: rest)
          | [] => ([c], d :: rest)
        else
          let (digits, behind) := grouped isDigit (d :: rest)
          (c :: digits, behind)
      else ([], c :: d :: rest)

def longestInteger : Nat := 4300

def inBase? (base : Nat) (isDigit : Char -> Bool) (text : Text) :
    Option (Except Fault (Value × Text)) :=
  let (digits, rest) := grouped isDigit text
  if digits.isEmpty then none
  else
    let size := digits.foldl (fun sum c => sum * base + (Hexadecimal.value? c).getD 0) 0
    some (.ok (.integer size, rest))

def marked? : Text -> Option (Except Fault (Value × Text))
  | '0' :: 'x' :: rest => inBase? 16 Hexadecimal.isDigit rest
  | '0' :: 'o' :: rest => inBase? 8 (fun c => '0' <= c && c <= '7') rest
  | '0' :: 'b' :: rest => inBase? 2 (fun c => c == '0' || c == '1') rest
  | _ => none

def fraction (text : Text) : Text × Text :=
  match text with
  | '.' :: rest =>
      let (digits, behind) := grouped Text.isDecimal rest
      if digits.isEmpty then ([], text) else (digits, behind)
  | _ => ([], text)

def sign : Text -> Bool × Text
  | '-' :: rest => (true, rest)
  | '+' :: rest => (false, rest)
  | text => (false, text)

def signed (negative : Bool) (size : Nat) : Int :=
  if negative then -(size : Int) else size

def exponent? (text : Text) : Option Int × Text :=
  match text with
  | mark :: rest =>
      if mark = 'e' ∨ mark = 'E' then
        let (negative, rest) := sign rest
        let (digits, behind) := grouped Text.isDecimal rest
        if digits.isEmpty then (none, text)
        else (some (signed negative (Text.numberOf digits)), behind)
      else (none, text)
  | [] => (none, text)

def whole (text : Text) : Text × Text :=
  match text with
  | '0' :: rest => (['0'], rest)
  | _ => grouped Text.isDecimal text

def decimal? (text : Text) : Option (Except Fault (Value × Text)) :=
  let (negative, rest) := sign text
  let (digits, rest) := whole rest
  if digits.isEmpty then none
  else
    let (places, rest) := fraction rest
    let (exponent, rest) := exponent? rest
    if places.isEmpty ∧ exponent = none then
      if longestInteger < digits.length then some (.error (.integerTooLong digits.length))
      else some (.ok (.integer (signed negative (Text.numberOf digits)), rest))
    else
      let power := exponent.getD 0 - places.length
      some (.ok
        (.real (Binary64.ofDecimal negative (Text.numberOf (digits ++ places)) power), rest))

def special? (text : Text) : Option (Except Fault (Value × Text)) :=
  let (negative, rest) := sign text
  match Text.dropStart? "inf".toList rest, Text.dropStart? "nan".toList rest with
  | some behind, _ => some (.ok (.real (.infinity negative), behind))
  | _, some behind => some (.ok (.real .nan, behind))
  | _, _ => none

def boolean? (text : Text) : Option (Except Fault (Value × Text)) :=
  match Text.dropStart? "true".toList text, Text.dropStart? "false".toList text with
  | some behind, _ => some (.ok (.boolean true, behind))
  | _, some behind => some (.ok (.boolean false, behind))
  | _, _ => none

def stringValue? (text : Text) : Option (Except Fault (Value × Text)) :=
  (string? text).map fun
    | .ok (content, rest) => .ok (.text (String.ofList content), rest)
    | .error fault => .error fault

def scalar (text : Text) : Except Fault (Value × Text) :=
  (stringValue? text <|> boolean? text <|> calendar? text <|> marked? text <|> decimal? text <|>
    special? text).getD (.error .malformed)

/-!
# Tables
-/

/-- Changes the table at the end of a key and makes the tables that lead to it.  On the way a list
of tables stands for the last of them, unless lists are closed. -/
def change (throughLists : Bool) (key : Key) (update : Table -> Option Table) (table : Table) :
    Option Table :=
  match key with
  | [] => update table
  | name :: more =>
      match table.get? name with
      | none =>
          (change throughLists more update []).map fun inner => Table.put name (.table inner) table
      | some (.table inner) =>
          (change throughLists more update inner).map fun inner =>
            Table.put name (.table inner) table
      | some (.list items) =>
          match throughLists, items.getLast? with
          | true, some (.table inner) =>
              (change throughLists more update inner).map fun inner =>
                Table.put name (.list (items.dropLast ++ [.table inner])) table
          | _, _ => none
      | some _ => none

def addField (name : String) (value : Value) (table : Table) : Option Table :=
  if table.has name then none else some (Table.put name value table)

def addItem (name : String) (table : Table) : Option Table :=
  match table.get? name with
  | none => some (Table.put name (.list [.table []]) table)
  | some (.list items) => some (Table.put name (.list (items ++ [.table []])) table)
  | some _ => none

def assign (throughLists : Bool) (above key : Key) (value : Value) (table : Table) :
    Except Fault Table :=
  match key.getLast? with
  | none => .error .malformed
  | some name =>
      match change throughLists (above ++ key.dropLast) (addField name value) table with
      | some table => .ok table
      | none => .error .malformed

def isClosed : Value -> Bool
  | .list _ | .table _ => true
  | _ => false

def isWithin (places : List Key) (key : Key) : Bool :=
  places.any fun place => place.isPrefixOf key

/-!
# Values
-/

inductive Container where
  | array
  | table
  deriving DecidableEq, Repr

/-- Whether there is room to read the value at the front of a text inside of some containers, the
innermost first, and if not, on which occasion that is noticed. -/
abbrev Room := (around : List Container) -> Text -> Option String

def Room.check (room : Room) (around : List Container) (text : Text) : Except Fault Unit :=
  match room around text with
  | none => .ok ()
  | some occasion => .error (.tooDeep occasion)

section

variable (room : Room)

mutual

/-- A value inside of some containers, with containers nested at most so often in it. -/
def valueWithin : (bound : Nat) -> (around : List Container) -> Text -> Except Fault (Value × Text)
  | 0, _, _ => .error .malformed
  | bound + 1, around, text => do
      room.check around text
      match text with
      | '[' :: rest => do
          let rest ← skipSpace false rest
          let (items, rest) ← itemsWithin bound (.array :: around) rest
          .ok (.list items, rest)
      | '\x7b' :: rest =>
          match skipBlanks rest with
          | '\x7d' :: behind => .ok (.table [], behind)
          | rest => do
              let (fields, rest) ← fieldsWithin bound (.table :: around) [] [] rest
              .ok (.table fields, rest)
      | text => scalar text

def itemsWithin :
    (bound : Nat) -> (around : List Container) -> Text -> Except Fault (List Value × Text)
  | 0, _, _ => .error .malformed
  | _, _, ']' :: rest => .ok ([], rest)
  | bound + 1, around, text => do
      let (item, rest) ← valueWithin bound around text
      match ← skipSpace false rest with
      | ']' :: rest => .ok ([item], rest)
      | ',' :: rest => do
          let rest ← skipSpace false rest
          let (items, rest) ← itemsWithin bound around rest
          .ok (item :: items, rest)
      | _ => .error .malformed

def fieldsWithin :
    (bound : Nat) -> (around : List Container) -> List Key -> Table -> Text ->
      Except Fault (Table × Text)
  | 0, _, _, _, _ => .error .malformed
  | bound + 1, around, closed, fields, text => do
      let (name, value, rest) ← fieldWithin bound around text
      if isWithin closed name then .error .malformed
      else
        let fields ← assign false [] name value fields
        match skipBlanks rest with
        | '\x7d' :: rest => .ok (fields, rest)
        | ',' :: rest =>
            let closed := if isClosed value then name :: closed else closed
            fieldsWithin bound around closed fields (skipBlanks rest)
        | _ => .error .malformed

def fieldWithin :
    (bound : Nat) -> (around : List Container) -> Text -> Except Fault (Key × Value × Text)
  | 0, _, _ => .error .malformed
  | bound + 1, around, text => do
      let (name, rest) ← key text
      match rest with
      | '=' :: rest => do
          let (value, rest) ← valueWithin bound around (skipBlanks rest)
          .ok (name, value, rest)
      | _ => .error .malformed

end

def field (text : Text) : Except Fault (Key × Value × Text) :=
  fieldWithin room (3 * text.length + 3) [] text

end

/-!
# Documents
-/

structure Document where
  table : Table := []
  header : Key := []
  opened : List Key := []
  /-- Values that were written as a whole. -/
  closed : List Key := []
  /-- Tables made by dotted keys, which count as opened from the next header on. -/
  pending : List Key := []

namespace Document

def between (header key : Key) : List Key :=
  (List.range' 1 (key.length - 1)).map fun count => header ++ key.take count

def addField (document : Document) (key : Key) (value : Value) : Except Fault Document := do
  let inner := between document.header key
  if inner.any document.opened.contains then .error .malformed
  else if isWithin document.closed (document.header ++ key.dropLast) then .error .malformed
  else
    let table ← assign true document.header key value document.table
    .ok { document with
          table
          pending := inner ++ document.pending
          closed :=
            if isClosed value then (document.header ++ key) :: document.closed
            else document.closed }

def settle (document : Document) : Document :=
  { document with opened := document.pending ++ document.opened, pending := [] }

def openTable (document : Document) (key : Key) : Except Fault Document :=
  if document.opened.contains key || isWithin document.closed key then .error .malformed
  else
    match change true key some document.table with
    | some table => .ok { document with table, header := key, opened := key :: document.opened }
    | none => .error .malformed

/-- Opens the next table of a list.  What was said of the table before does not hold for it. -/
def openItem (document : Document) (key : Key) : Except Fault Document :=
  if isWithin document.closed key then .error .malformed
  else
    let free := document.opened.filter fun place => !key.isPrefixOf place
    match key.getLast? with
    | none => .error .malformed
    | some name =>
        match change true key.dropLast (addItem name) document.table with
        | some table =>
            .ok { document with
                  table
                  header := key
                  opened := key :: free
                  closed := document.closed.filter fun place => !key.isPrefixOf place }
        | none => .error .malformed

def readHeader (document : Document) (text : Text) : Except Fault (Document × Text) :=
  let document := document.settle
  match text with
  | '[' :: rest => do
      let (name, rest) ← key (skipBlanks rest)
      let document ← document.openItem name
      match rest with
      | ']' :: ']' :: rest => .ok (document, rest)
      | _ => .error .malformed
  | _ => do
      let (name, rest) ← key (skipBlanks text)
      let document ← document.openTable name
      match rest with
      | ']' :: rest => .ok (document, rest)
      | _ => .error .malformed

def startsKey (c : Char) : Bool :=
  isBareKey c || c == '"' || c == '\''

def readStatement (room : Room) (document : Document) (text : Text) :
    Except Fault (Document × Text) := do
  let (document, rest) ←
    match text with
    | '[' :: rest => document.readHeader rest
    | c :: _ =>
        if startsKey c then do
          let (name, value, rest) ← field room text
          let document ← document.addField name value
          .ok (document, rest)
        else if c = '#' then .ok (document, text)
        else .error .malformed
    | [] => .ok (document, [])
  let rest ← skipComment (skipBlanks rest)
  .ok (document, rest)

def readWithin (room : Room) : Nat -> Document -> Text -> Except Fault Document
  | 0, _, _ => .error .malformed
  | bound + 1, document, text =>
      match skipBlanks text with
      | [] => .ok document
      | '\n' :: rest => readWithin room bound document rest
      | text => do
          let (document, rest) ← document.readStatement room text
          match rest with
          | [] => .ok document
          | '\n' :: rest => readWithin room bound document rest
          | _ => .error .malformed

end Document

def ofText (room : Room) (text : Text) : Except Fault Table := do
  let text := text.unifyNewlines
  let document ← Document.readWithin room (text.length + 1) {} text
  .ok document.table

def read (room : Room) (octets : Encoding.Octets) : Except Fault Table :=
  match Encoding.utf8? Encoding.charOf? octets with
  | some text => ofText room text
  | none => .error .notText

end Toml
end Format
end ScopeProbe
