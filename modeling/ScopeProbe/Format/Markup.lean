import ScopeProbe.Format.Markup.DocumentType
import ScopeProbe.Text.Charset

/-!
# Markup

Reading an XML document as the sequence of its events: starts and ends of elements and the text
between them.  The text is first cut into lexemes, each of which stands for itself; then the
lexemes are followed with a stack of the elements that are open.  A document that is not
well-formed has the events up to the place of its fault.  Attributes are checked and left out.
-/

namespace ScopeProbe
namespace Format
namespace Markup

open Encoding (Octets)

inductive Fault where
  | malformed
  | unknownEncoding (name : String)
  | textlessEncoding (name : String)
  deriving DecidableEq, Repr

inductive Event where
  | start (name : String)
  | stop (name : String)
  | text (text : Text)
  deriving DecidableEq, Repr

structure Document where
  events : List Event
  fault : Option Fault
  deriving DecidableEq, Repr

/-!
# Tags
-/

structure TagEnd where
  references : List Text
  closed : Bool
  rest : Text

def attribute? (alphabet : Alphabet) (text : Text) : Option (Text × List Text × Text) := do
  let (name, rest) ← name? alphabet text
  let rest ← Text.dropStart? ['='] (skipBlanks rest)
  let (value, rest) ← literal? (skipBlanks rest)
  some (name, ← valueReferences? alphabet value, rest)

def tagEndWithin (alphabet : Alphabet) : Nat -> List Text -> Text -> Option TagEnd
  | 0, _, _ => none
  | bound + 1, names, text =>
      match skipBlanks text with
      | '>' :: rest => some { references := [], closed := false, rest }
      | '/' :: '>' :: rest => some { references := [], closed := true, rest }
      | _ => do
          let (name, references, rest) ← attribute? alphabet (← skipGap? text)
          if names.contains name then none
          else
            let tag ← tagEndWithin alphabet bound (name :: names) rest
            some { tag with references := references ++ tag.references }

/-!
# Lexemes
-/

inductive Lexeme where
  | char (c : Char)
  | quoted (text : Text)
  | entity (name : Text)
  | opening (name : Text) (references : List Text) (closed : Bool)
  | closing (name : Text)
  | aside
  | type (type : DocumentType)
  | invalid
  deriving DecidableEq, Repr

def tag? (alphabet : Alphabet) (text : Text) : Option (Lexeme × Text) :=
  match text with
  | '/' :: rest => do
      let (name, rest) ← name? alphabet rest
      some (.closing name, ← Text.dropStart? ['>'] (skipBlanks rest))
  | '?' :: rest => (skipInstruction? alphabet rest).map (.aside, ·)
  | '!' :: '-' :: '-' :: rest => (skipComment? rest).map (.aside, ·)
  | '!' :: rest =>
      match Text.dropStart? "[CDATA[".toList rest with
      | some rest => do
          let (inner, rest) ← Text.splitAt? "]]>".toList rest
          if inner.all isAllowed then some (.quoted inner, rest) else none
      | none => do
          let (type, rest) ← DocumentType.read? alphabet (← Text.dropStart? "DOCTYPE".toList rest)
          some (.type type, rest)
  | _ => do
      let (name, rest) ← name? alphabet text
      let tag ← tagEndWithin alphabet (rest.length + 1) [] rest
      some (.opening name tag.references tag.closed, tag.rest)

def next (alphabet : Alphabet) (c : Char) (rest : Text) : Lexeme × Text :=
  if c = '<' then (tag? alphabet rest).getD (.invalid, [])
  else if c = '&' then
    match reference? alphabet rest with
    | some (.char c, rest) => (.quoted [c], rest)
    | some (.entity name, rest) => (.entity name, rest)
    | none => (.invalid, [])
  else if !isAllowed c || (c = ']' && (Text.dropStart? "]>".toList rest).isSome) then (.invalid, [])
  else (.char c, rest)

def lexemesWithin (alphabet : Alphabet) : Nat -> Text -> List Lexeme
  | 0, _ => []
  | _ + 1, [] => []
  | bound + 1, c :: rest =>
      let (lexeme, behind) := next alphabet c rest
      lexeme :: lexemesWithin alphabet bound behind

def lexemes (alphabet : Alphabet) (text : Text) : List Lexeme :=
  lexemesWithin alphabet text.length text

/-!
# Elements
-/

structure Progress where
  openNames : List Text := []
  begun : Bool := false
  typed : Bool := false
  /-- Whether references to entities that are not declared are passed over. -/
  lenient : Bool := false

namespace Progress

/-- Whether references to some entities are passed over, none of which is declared. -/
def passes (progress : Progress) (references : List Text) : Bool :=
  references.isEmpty || progress.lenient

def text? (progress : Progress) (text : Text) : Option (Progress × List Event) :=
  if progress.openNames.isEmpty then none else some (progress, [.text text])

def open? (progress : Progress) (name : Text) (references : List Text) (closed : Bool) :
    Option (Progress × List Event) :=
  if (progress.openNames.isEmpty && progress.begun) || !progress.passes references then none
  else
    let event := Event.start (String.ofList name)
    if closed then some ({ progress with begun := true }, [event, .stop (String.ofList name)])
    else some ({ progress with begun := true, openNames := name :: progress.openNames }, [event])

def close? (progress : Progress) (name : Text) : Option (Progress × List Event) :=
  match progress.openNames with
  | [] => none
  | innermost :: outer =>
      if innermost = name then
        some ({ progress with openNames := outer }, [.stop (String.ofList name)])
      else none

def take? (standalone : Bool) (progress : Progress) : Lexeme -> Option (Progress × List Event)
  | .char c =>
      if progress.openNames.isEmpty && isBlank c then some (progress, [])
      else progress.text? [c]
  | .quoted text => progress.text? text
  | .entity name =>
      if progress.passes [name] then progress.text? [] else none
  | .opening name references closed => progress.open? name references closed
  | .closing name => progress.close? name
  | .aside => some (progress, [])
  | .type type =>
      if progress.typed || progress.begun then none
      else do some ({ progress with typed := true, lenient := ← type.lenient? standalone }, [])
  | .invalid => none

def isComplete (progress : Progress) : Bool :=
  progress.begun && progress.openNames.isEmpty

def follow (standalone : Bool) (progress : Progress) : List Lexeme -> Document
  | [] => { events := [], fault := if progress.isComplete then none else some .malformed }
  | lexeme :: more =>
      match progress.take? standalone lexeme with
      | some (progress, events) =>
          let later := follow standalone progress more
          { later with events := events ++ later.events }
      | none => { events := [], fault := some .malformed }

end Progress

/-!
# The declaration at the front
-/

structure Prologue where
  encoding : Option Text := none
  standalone : Bool := false
  deriving DecidableEq, Repr

def isSettingChar (c : Char) : Bool :=
  c.isAlphanum || c == '.' || c == '-' || c == '_'

def settingsWithin : Nat -> Text -> Option (List (Text × Text))
  | 0, _ => none
  | bound + 1, text =>
      match skipBlanks text with
      | [] => some []
      | _ => do
          let text ← skipGap? text
          let name := text.takeWhile fun c => c != '=' && !isBlank c
          let rest ← Text.dropStart? ['='] (skipBlanks (text.drop name.length))
          let (value, rest) ← literal? (skipBlanks rest)
          if value.all isSettingChar then
            let more ← settingsWithin bound rest
            some ((name, value) :: more)
          else none

def isStandalone? (word : Text) : Option Bool :=
  if word = "yes".toList then some true else if word = "no".toList then some false else none

def Prologue.ofSettings? (settings : List (Text × Text)) : Option Prologue := do
  let after (name : String) (settings : List (Text × Text)) : Option Text × List (Text × Text) :=
    match settings with
    | (first, value) :: more => if first = name.toList then (some value, more) else (none, settings)
    | [] => (none, [])
  let (version, settings) := after "version" settings
  let (encoding, settings) := after "encoding" settings
  let (word, settings) := after "standalone" settings
  let standalone ← (word.map isStandalone?).getD (some false)
  let named := (encoding.map fun name => name.head?.any Char.isAlpha).getD true
  if version.isSome && settings.isEmpty && named then some { encoding, standalone } else none

def prologue? (text : Text) : Option (Prologue × Text) :=
  match Text.dropStart? "<?xml".toList text with
  | none => some ({}, text)
  | some rest =>
      if rest.head?.any (Alphabet.continues {}) then some ({}, text)
      else do
        let (inner, behind) ← Text.splitAt? "?>".toList rest
        let settings ← settingsWithin (inner.length + 1) inner
        some (← Prologue.ofSettings? settings, behind)

/-!
# Documents
-/

def forbidden : Char := '\uffff'

def unifyBreaks : Text -> Text
  | [] => []
  | '\r' :: '\n' :: rest => '\n' :: unifyBreaks rest
  | c :: rest => (if c = '\r' then '\n' else c) :: unifyBreaks rest

def detect : Octets -> Charset × Octets
  | 0xEF :: 0xBB :: 0xBF :: rest => (.utf8, rest)
  | 0xFE :: 0xFF :: rest => (.utf16 .bigEndian, rest)
  | 0xFF :: 0xFE :: rest => (.utf16 .littleEndian, rest)
  | octets => (.utf8, octets)

/-- The encodings that every reader knows, by their names in capital letters.  Those in units of
sixteen bits cannot be told apart from the name alone. -/
def standardCharset? (detected : Charset) (name : Text) : Option Charset :=
  match String.ofList (name.map Char.toUpper) with
  | "UTF-8" => some .utf8
  | "ISO-8859-1" => some .latin
  | "UTF-16" =>
      match detected with
      | .utf16 order => some (.utf16 order)
      | _ => some (.utf16 .bigEndian)
  | "UTF-16BE" => some (.utf16 .bigEndian)
  | "UTF-16LE" => some (.utf16 .littleEndian)
  | _ => none

/-- Whether a document can go on in another encoding: units of eight bits stay units of eight
bits, and units of sixteen bits keep their order. -/
def agrees (detected named : Charset) : Bool :=
  match detected, named with
  | .utf16 order, .utf16 other => order == other
  | .utf16 _, _ | _, .utf16 _ => false
  | _, _ => true

def charset (detected : Charset) (name : Text) : Except Fault Charset :=
  match standardCharset? detected name with
  | some named => if agrees detected named then .ok named else .error .malformed
  | none =>
      match Charset.standing name with
      | .codePage page =>
          if agrees detected (.codePage page) then .ok (.codePage page) else .error .malformed
      | .other => .error .malformed
      | .textless => .error (.textlessEncoding (String.ofList name))
      | .unknown => .error (.unknownEncoding (String.ofList name))

def alphabetOf : Charset -> Alphabet
  | .latin | .utf16 _ => { latinSigns := true }
  | .utf8 | .codePage _ => {}

def decode (charset : Charset) (octets : Octets) : Text :=
  let found := charset.decode octets
  unifyBreaks found.text ++ if found.complete then [] else [forbidden]

def body (text : Text) : Text :=
  ((prologue? text).map Prod.snd).getD text

def read (octets : Octets) : Document :=
  let (detected, octets) := detect octets
  let text := decode detected octets
  match prologue? text with
  | none => { events := [], fault := some .malformed }
  | some (prologue, _) =>
      let named := (prologue.encoding.map (charset detected)).getD (.ok detected)
      match named with
      | .error fault => { events := [], fault := some fault }
      | .ok charset =>
          let progress : Progress := {}
          let text := body (decode charset octets)
          progress.follow prologue.standalone (lexemes (alphabetOf charset) text)

end Markup
end Format
end ScopeProbe
