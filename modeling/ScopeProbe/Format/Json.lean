import ScopeProbe.Binary64.Decimal
import ScopeProbe.Definition
import ScopeProbe.Text.Encoding
import ScopeProbe.Text.Hexadecimal

/-!
# JSON

Reading a JSON document.  The text is first cut into lexemes; then the lexemes are taken one by
one, with a stack of the arrays and objects that are open.  Besides the standard's values there
are the three numbers that are not finite.  Of fields with the same name the last one counts.
Surrogates without a partner are read like characters.  Every open container takes room on the
stack of calls, and how much room there is, the document does not tell.
-/

namespace ScopeProbe
namespace Format
namespace Json

open Encoding (Octets ByteOrder)

/-!
# Faults
-/

inductive Container where
  | array
  | object
  deriving DecidableEq, Repr

inductive Fault where
  | malformed
  | tooDeep (occasion : String)
  deriving DecidableEq, Repr

/-!
# Octets
-/

/-- The text of a document in whichever encoding it seems to have: by the mark at its start, or
else by the zeros among its first octets, as a document starts with an ASCII character. -/
def decode? (octets : Octets) : Option WideText :=
  let utf32? := Encoding.utf32? CodePoint.ofNat?
  let utf16? := Encoding.utf16? CodePoint.ofNat?
  let utf8? := Encoding.utf8? CodePoint.ofNat?
  match octets with
  | 0x00 :: 0x00 :: 0xFE :: 0xFF :: rest => utf32? .bigEndian rest
  | 0xFF :: 0xFE :: 0x00 :: 0x00 :: rest => utf32? .littleEndian rest
  | 0xFE :: 0xFF :: rest => utf16? .bigEndian rest
  | 0xFF :: 0xFE :: rest => utf16? .littleEndian rest
  | 0xEF :: 0xBB :: 0xBF :: rest => utf8? rest
  | 0x00 :: b :: _ :: _ :: _ =>
      if b = 0 then utf32? .bigEndian octets else utf16? .bigEndian octets
  | _ :: 0x00 :: c :: d :: _ =>
      if c = 0 ∧ d = 0 then utf32? .littleEndian octets else utf16? .littleEndian octets
  | [0x00, _] => utf16? .bigEndian octets
  | [_, 0x00] => utf16? .littleEndian octets
  | _ => utf8? octets

/-!
# Lexemes
-/

inductive Lexeme where
  | openContainer (container : Container)
  | closeContainer (container : Container)
  | comma
  | colon
  | string (text : WideText)
  | scalar (value : Datum)
  | invalid

def isBlank : CodePoint -> Bool
  | .char c => c == ' ' || c == '\t' || c == '\n' || c == '\r'
  | .surrogate _ => false

def escapes : List (Char × Char) :=
  [('"', '"'), ('\\', '\\'), ('/', '/'), ('b', '\x08'), ('f', '\x0c'), ('n', '\n'), ('r', '\r'),
   ('t', '\t')]

inductive Piece where
  | point (point : CodePoint)
  | unit (value : Nat)

def pieces? : WideText -> Option (List Piece × WideText)
  | [] => none
  | .char '"' :: rest => some ([], rest)
  | .char '\\' :: .char 'u' :: .char a :: .char b :: .char c :: .char d :: rest => do
      let unit ← Hexadecimal.number? [a, b, c, d]
      let (pieces, behind) ← pieces? rest
      some (.unit unit :: pieces, behind)
  | .char '\\' :: .char c :: rest => do
      let meant ← escapes.lookup c
      let (pieces, behind) ← pieces? rest
      some (.point (.char meant) :: pieces, behind)
  | .char '\\' :: _ => none
  | .char c :: rest =>
      if c.toNat < 0x20 then none
      else do
        let (pieces, behind) ← pieces? rest
        some (.point (.char c) :: pieces, behind)
  | .surrogate unit :: rest => do
      let (pieces, behind) ← pieces? rest
      some (.point (.surrogate unit) :: pieces, behind)

/-- The code points of a string.  Two units that are surrogates in order make one character. -/
def joinPieces : List Piece -> WideText
  | [] => []
  | .unit high :: .unit low :: more =>
      if Encoding.isHighSurrogate high && Encoding.isLowSurrogate low then
        .ofNat (Encoding.joinSurrogates high low) :: joinPieces more
      else .ofNat high :: joinPieces (.unit low :: more)
  | .unit unit :: more => .ofNat unit :: joinPieces more
  | .point point :: more => point :: joinPieces more

def string? (text : WideText) : Option (WideText × WideText) :=
  (pieces? text).map fun (pieces, behind) => (joinPieces pieces, behind)

def spanDigits (text : Text) : Text × Text :=
  (text.takeWhile Text.isDecimal, text.dropWhile Text.isDecimal)

def fraction (text : Text) : Text × Text :=
  match text with
  | '.' :: rest =>
      let (digits, behind) := spanDigits rest
      if digits.isEmpty then ([], text) else (digits, behind)
  | _ => ([], text)

def exponent? (text : Text) : Option Int × Text :=
  match text with
  | mark :: rest =>
      if mark = 'e' ∨ mark = 'E' then
        let (negative, rest) :=
          match rest with
          | '-' :: more => (true, more)
          | '+' :: more => (false, more)
          | _ => (false, rest)
        let (digits, behind) := spanDigits rest
        if digits.isEmpty then (none, text)
        else
          let size : Int := Text.numberOf digits
          (some (if negative then -size else size), behind)
      else (none, text)
  | [] => (none, text)

def longestInteger : Nat := 4300

def unsigned? (negative : Bool) (text : Text) : Option (Datum × Text) :=
  let (whole, rest) :=
    match text with
    | '0' :: rest => (['0'], rest)
    | _ => spanDigits text
  if whole.isEmpty then none
  else
    let (digits, rest) := fraction rest
    let (exponent, rest) := exponent? rest
    if digits.isEmpty ∧ exponent = none then
      if longestInteger < whole.length then none
      else
        let size : Int := Text.numberOf whole
        some (.integer (if negative then -size else size), rest)
    else
      let power := exponent.getD 0 - digits.length
      some (.real (Binary64.ofDecimal negative (Text.numberOf (whole ++ digits)) power), rest)

def words : List (Text × Datum) :=
  [("null".toList, .null), ("true".toList, .boolean true), ("false".toList, .boolean false),
   ("NaN".toList, .real .nan), ("Infinity".toList, .real (.infinity false)),
   ("-Infinity".toList, .real (.infinity true))]

def word? (text : Text) : Option (Datum × Text) :=
  words.findSome? fun (word, value) => (Text.dropStart? word text).map (value, ·)

def number? : Text -> Option (Datum × Text)
  | '-' :: rest => unsigned? true rest
  | text => unsigned? false text

def scalarRun : WideText -> Text × WideText
  | .char c :: rest =>
      if c.isAlphanum || c == '+' || c == '-' || c == '.' then
        let (run, behind) := scalarRun rest
        (c :: run, behind)
      else ([], .char c :: rest)
  | text => ([], text)

def scalar? (text : WideText) : Option (Datum × WideText) :=
  let (run, behind) := scalarRun text
  (word? run <|> number? run).map fun (value, rest) => (value, .ofText rest ++ behind)

def next (point : CodePoint) (rest : WideText) : Lexeme × WideText :=
  match point with
  | .char '\x7b' => (.openContainer .object, rest)
  | .char '\x7d' => (.closeContainer .object, rest)
  | .char '[' => (.openContainer .array, rest)
  | .char ']' => (.closeContainer .array, rest)
  | .char ',' => (.comma, rest)
  | .char ':' => (.colon, rest)
  | .char '"' =>
      match string? rest with
      | some (text, behind) => (.string text, behind)
      | none => (.invalid, [])
  | _ =>
      match scalar? (point :: rest) with
      | some (value, behind) => (.scalar value, behind)
      | none => (.invalid, [])

def lexemesWithin : Nat -> WideText -> List Lexeme
  | 0, _ => []
  | bound + 1, text =>
      match text.dropWhile isBlank with
      | [] => []
      | c :: rest =>
          let (lexeme, behind) := next c rest
          lexeme :: lexemesWithin bound behind

def lexemes (text : WideText) : List Lexeme :=
  lexemesWithin text.length text

/-!
# Documents
-/

inductive Frame where
  | array (items : List Datum)
  | object (fields : Definition) (name : WideText)

inductive Expected where
  | value
  | valueOrEnd
  | name
  | nameOrEnd
  | colon
  | commaOrEnd
  | nothing
  deriving DecidableEq, Repr

/-- How far a document has been read: the open containers, the innermost first, what may come
next, and the whole value once it is complete. -/
structure Progress where
  frames : List Frame := []
  expected : Expected := .value
  whole : Datum := .null

namespace Progress

def accept (progress : Progress) (value : Datum) : Progress :=
  match progress.frames with
  | [] => { frames := [], expected := .nothing, whole := value }
  | .array items :: outer =>
      { progress with frames := .array (value :: items) :: outer, expected := .commaOrEnd }
  | .object fields name :: outer =>
      { progress with
        frames := .object (Definition.put (.text name) value fields) name :: outer
        expected := .commaOrEnd }

def enter (progress : Progress) : Container -> Progress
  | .array => { progress with frames := .array [] :: progress.frames, expected := .valueOrEnd }
  | .object =>
      { progress with frames := .object [] [] :: progress.frames, expected := .nameOrEnd }

def leave (progress : Progress) (container : Container) : Except Fault Progress :=
  match container, progress.frames with
  | .array, .array items :: outer =>
      .ok ({ progress with frames := outer }.accept (.list items.reverse))
  | .object, .object fields _ :: outer =>
      .ok ({ progress with frames := outer }.accept (.table fields))
  | _, _ => .error .malformed

def name (progress : Progress) (text : WideText) : Except Fault Progress :=
  match progress.frames with
  | .object fields _ :: outer =>
      .ok { progress with frames := .object fields text :: outer, expected := .colon }
  | _ => .error .malformed

def separate (progress : Progress) : Except Fault Progress :=
  match progress.frames with
  | .array _ :: _ => .ok { progress with expected := .value }
  | .object _ _ :: _ => .ok { progress with expected := .name }
  | [] => .error .malformed

def take (progress : Progress) (lexeme : Lexeme) : Except Fault Progress :=
  match progress.expected, lexeme with
  | .value, .openContainer container | .valueOrEnd, .openContainer container =>
      .ok (progress.enter container)
  | .value, .string text | .valueOrEnd, .string text =>
      .ok (progress.accept (.text text))
  | .value, .scalar value | .valueOrEnd, .scalar value => .ok (progress.accept value)
  | .valueOrEnd, .closeContainer .array => progress.leave .array
  | .name, .string text | .nameOrEnd, .string text => progress.name text
  | .nameOrEnd, .closeContainer .object => progress.leave .object
  | .colon, .colon => .ok { progress with expected := .value }
  | .commaOrEnd, .comma => progress.separate
  | .commaOrEnd, .closeContainer container => progress.leave container
  | _, _ => .error .malformed

end Progress

/-- Whether there is room to go on from some lexemes, and if not, on which occasion that is
noticed. -/
abbrev Room := Progress -> List Lexeme -> Option String

def Room.check (room : Room) (progress : Progress) (ahead : List Lexeme) : Except Fault Unit :=
  match room progress ahead with
  | none => .ok ()
  | some occasion => .error (.tooDeep occasion)

def Progress.takeAll (room : Room) (progress : Progress) : List Lexeme -> Except Fault Progress
  | [] => do
      room.check progress []
      .ok progress
  | lexeme :: more => do
      room.check progress (lexeme :: more)
      takeAll room (← progress.take lexeme) more

def ofText (room : Room) (text : WideText) : Except Fault Datum := do
  let progress ← Progress.takeAll room {} (lexemes text)
  if progress.expected = .nothing then .ok progress.whole else .error .malformed

def read (room : Room) (octets : Octets) : Except Fault Datum :=
  match decode? octets with
  | some text => ofText room text
  | none => .error .malformed

end Json
end Format
end ScopeProbe
