import ScopeProbe.Classification
import ScopeProbe.Mana.Vocabulary
import ScopeProbe.Text.Hexadecimal
import ScopeProbe.Unicode.Blank

/-!
# Line lexer of the mana subset

The line lexer goes along the characters of a line with a cursor and writes out the scopes of what
it has passed: the names of a table, or a template with a word of the line filled in.  Nothing that
it looks up is taken for granted.  There may be no character at a position, and no body for a
declaration, and a loop whose body stays where it is would never end.
-/

namespace ScopeProbe
namespace Mana
namespace LineLexer

/-!
# Names of scopes
-/

def root : String := "source.mana"
def commentLine : String := "comment.line.double-slash.mana"
def commentBlock : String := "comment.block.mana"
def commentPunctuation : String := "punctuation.definition.comment.mana"
def leadingBlanks : String := "punctuation.whitespace.comment.leading.mana"
def quoted : String := "string.quoted.double.mana"
def quotedBegin : String := "punctuation.definition.string.begin.mana"
def quotedEnd : String := "punctuation.definition.string.end.mana"
def escape : String := "constant.character.escape.mana"
def interpolation : String := "meta.interpolation.mana"
def preprocessor : String := "meta.preprocessor.mana"
def decimal : String := "constant.numeric.decimal.mana"
def hexadecimal : String := "constant.numeric.hex.mana"
def interpolationBegin : String := "punctuation.definition.interpolation.begin.mana"
def interpolationEnd : String := "punctuation.definition.interpolation.end.mana"

def filled (front : String) (word : Text) : String :=
  front ++ String.ofList word ++ ".mana"

/-!
# Tables
-/

def bodies : List (Text × String) :=
  [("class".toList, "type"),
   ("struct".toList, "type"),
   ("interface".toList, "type"),
   ("enum".toList, "enum"),
   ("namespace".toList, "namespace")]

def keywords : List (Text × String) :=
  [("if".toList, "keyword.control.conditional.if.mana"),
   ("else".toList, "keyword.control.conditional.else.mana"),
   ("return".toList, "keyword.control.flow.return.mana"),
   ("while".toList, "keyword.control.loop.while.mana"),
   ("for".toList, "keyword.control.loop.for.mana"),
   ("true".toList, "constant.language.boolean.true.mana"),
   ("false".toList, "constant.language.boolean.false.mana"),
   ("null".toList, "constant.language.null.mana"),
   ("this".toList, "keyword.other.this.mana"),
   ("using".toList, "keyword.other.using.mana")]

def directives : List Text :=
  ["define", "undef", "if", "elif", "else", "endif", "region", "endregion", "error",
   "warning"].map String.toList

def operators : List (Text × String) :=
  [(">>=".toList, "keyword.operator.assignment.compound.bitwise.mana"),
   ("<<=".toList, "keyword.operator.assignment.compound.bitwise.mana"),
   ("??=".toList, "keyword.operator.assignment.compound.mana"),
   ("+=".toList, "keyword.operator.assignment.compound.mana"),
   ("-=".toList, "keyword.operator.assignment.compound.mana"),
   ("*=".toList, "keyword.operator.assignment.compound.mana"),
   ("/=".toList, "keyword.operator.assignment.compound.mana"),
   ("%=".toList, "keyword.operator.assignment.compound.mana"),
   ("&=".toList, "keyword.operator.assignment.compound.bitwise.mana"),
   ("|=".toList, "keyword.operator.assignment.compound.bitwise.mana"),
   ("^=".toList, "keyword.operator.assignment.compound.bitwise.mana"),
   ("=>".toList, "keyword.operator.arrow.mana"),
   ("==".toList, "keyword.operator.comparison.mana"),
   ("!=".toList, "keyword.operator.comparison.mana"),
   ("<=".toList, "keyword.operator.relational.mana"),
   (">=".toList, "keyword.operator.relational.mana"),
   ("&&".toList, "keyword.operator.logical.mana"),
   ("||".toList, "keyword.operator.logical.mana"),
   ("++".toList, "keyword.operator.increment.mana"),
   ("--".toList, "keyword.operator.decrement.mana"),
   ("<<".toList, "keyword.operator.bitwise.shift.mana"),
   (">>".toList, "keyword.operator.bitwise.shift.mana"),
   ("??".toList, "keyword.operator.null-coalescing.mana"),
   ("+".toList, "keyword.operator.arithmetic.mana"),
   ("-".toList, "keyword.operator.arithmetic.mana"),
   ("*".toList, "keyword.operator.arithmetic.mana"),
   ("/".toList, "keyword.operator.arithmetic.mana"),
   ("%".toList, "keyword.operator.arithmetic.mana"),
   ("&".toList, "keyword.operator.bitwise.mana"),
   ("|".toList, "keyword.operator.bitwise.mana"),
   ("^".toList, "keyword.operator.bitwise.mana"),
   ("~".toList, "keyword.operator.bitwise.mana"),
   ("!".toList, "keyword.operator.logical.mana"),
   ("<".toList, "keyword.operator.relational.mana"),
   (">".toList, "keyword.operator.relational.mana"),
   ("=".toList, "keyword.operator.assignment.mana"),
   ("?".toList, "keyword.operator.conditional.question-mark.mana"),
   (":".toList, "keyword.operator.conditional.colon.mana")]

def punctuation : List (Char × String) :=
  [('\x7b', "punctuation.curlybrace.open.mana"),
   ('\x7d', "punctuation.curlybrace.close.mana"),
   ('(', "punctuation.parenthesis.open.mana"),
   (')', "punctuation.parenthesis.close.mana"),
   ('[', "punctuation.squarebracket.open.mana"),
   (']', "punctuation.squarebracket.close.mana"),
   (';', "punctuation.terminator.statement.mana"),
   (',', "punctuation.separator.comma.mana"),
   ('.', "punctuation.accessor.mana")]

/-!
# Cursor
-/

/-- What is kept between lines.  The brace that was opened last is the last of the blocks. -/
structure RuleStack where
  inComment : Bool := false
  blocks : List String := []
  pending : Option Text := none
  nextBlock : String := "block"
  deriving DecidableEq, Repr

structure Cursor extends RuleStack where
  position : Nat := 0
  tokens : List RawToken := []
  afterType : Bool := false

inductive Fault where
  | noCharacter (position : Nat)
  | noBody (declaration : Text)
  | stuck (position : Nat)
  deriving DecidableEq, Repr

namespace Cursor

/-- Reports what lies in front of a position, with scopes inside the root, and goes on there. -/
def emit (stop : Nat) (inner : List String) (cursor : Cursor) : Cursor :=
  { cursor with
    position := stop
    tokens := cursor.tokens ++ [{ start := cursor.position, stop, scopes := root :: inner }] }

def openBrace (cursor : Cursor) : Cursor :=
  { cursor with blocks := cursor.blocks ++ [cursor.nextBlock], nextBlock := "block" }

def closeBrace (cursor : Cursor) : Cursor :=
  { cursor with blocks := cursor.blocks.dropLast }

def result (cursor : Cursor) : LineResult RuleStack where
  tokens := cursor.tokens
  state := cursor.toRuleStack

end Cursor

/-!
# Looking ahead
-/

variable (line : Text)

def charAt (position : Nat) : Except Fault Char :=
  match (line : List Char)[position]? with
  | some c => .ok c
  | none => .error (.noCharacter position)

def skip (kind : Char -> Bool) (position : Nat) : Except Fault Nat :=
  if position < line.length then do
    if kind (← charAt line position) then skip kind (position + 1)
    else return position
  else return position
termination_by line.length - position

def nextSignificant (position : Nat) : Except Fault (Option Char) := do
  let stop ← skip line isBlank position
  if stop < line.length then return some (← charAt line stop)
  else return none

def find? (mark : Text) (position : Nat) : Option Nat :=
  (Text.splitAt? mark (line.drop position)).map fun (front, _) => position + front.length

/-- Repeats a body until it is done or the line is at its end. -/
def loop (body : Cursor -> Except Fault (ForInStep Cursor)) (cursor : Cursor) :
    Except Fault Cursor :=
  if cursor.position < line.length then do
    match ← body cursor with
    | .done next => return next
    | .yield next =>
        if cursor.position < next.position then loop body next
        else throw (.stuck cursor.position)
  else return cursor
termination_by line.length - cursor.position

/-!
# Words
-/

def identifierScope (wasType : Bool) (stop : Nat) (cursor : Cursor) : Except Fault String := do
  let block := cursor.blocks.getLast?.getD "top"
  if (← nextSignificant line stop) = some '(' then return "entity.name.function.mana"
  else if wasType then
    if block = "type" then return "entity.name.variable.field.mana"
    else return "entity.name.variable.local.mana"
  else if block = "enum" then return "entity.name.variable.enum-member.mana"
  else return "variable.other.readwrite.mana"

def lexIdentifier (wasType : Bool) (stop : Nat) (cursor : Cursor) : Except Fault Cursor :=
  match cursor.pending with
  | some word =>
      match bodies.lookup word with
      | some body =>
          .ok ({ cursor with pending := none, nextBlock := body }.emit stop
            [filled "entity.name.type." word])
      | none => .error (.noBody word)
  | none => do return cursor.emit stop [← identifierScope line wasType stop cursor]

def lexWord (wasType : Bool) (cursor : Cursor) : Except Fault Cursor := do
  let stop ← skip line isWordChar cursor.position
  let word := line.cut cursor.position stop
  if modifiers.contains word then return cursor.emit stop ["storage.modifier.mana"]
  else if (bodies.lookup word).isSome then
    return { cursor.emit stop [filled "keyword.other." word] with pending := some word }
  else if primitives.contains word then
    return { cursor.emit stop ["keyword.type.mana"] with afterType := true }
  else if word = "var".toList then
    return { cursor.emit stop ["keyword.other.var.mana"] with afterType := true }
  else
    match keywords.lookup word with
    | some scope => return cursor.emit stop [scope]
    | none => lexIdentifier line wasType stop cursor

/-!
# Numbers
-/

def lexHexDigits (cursor : Cursor) : Except Fault Cursor := do
  let stop ← skip line Hexadecimal.isDigit cursor.position
  if cursor.position < stop then return cursor.emit stop [hexadecimal]
  else return cursor

def numberBody (cursor : Cursor) : Except Fault (ForInStep Cursor) := do
  let c ← charAt line cursor.position
  if Unicode.isDigit c then
    return .yield (cursor.emit (← skip line Unicode.isDigit cursor.position) [decimal])
  else if c = '_' then
    return .yield (cursor.emit (cursor.position + 1)
      [decimal, "constant.numeric.other.separator.thousands.mana"])
  else if c = '.' then
    if cursor.position + 1 < line.length then
      if Unicode.isDigit (← charAt line (cursor.position + 1)) then
        return .yield (cursor.emit (cursor.position + 1)
          [decimal, "constant.numeric.other.separator.decimals.mana"])
      else return .done cursor
    else return .done cursor
  else if isSuffix c then
    return .done (cursor.emit (cursor.position + 1)
      [decimal, "constant.numeric.other.suffix.mana"])
  else return .done cursor

def lexNumber (cursor : Cursor) : Except Fault Cursor :=
  let mark := (line.drop cursor.position).take 2
  if mark = "0x".toList ∨ mark = "0X".toList then
    lexHexDigits line (cursor.emit (cursor.position + 2)
      [hexadecimal, "constant.numeric.other.preffix.hex.mana"])
  else loop line (numberBody line) cursor

/-!
# Strings
-/

def interpolationBody (cursor : Cursor) : Except Fault (ForInStep Cursor) := do
  let c ← charAt line cursor.position
  if c = '\x7d' then return .done cursor
  else if isBlank c then
    return .yield (cursor.emit (← skip line isBlank cursor.position) [quoted, interpolation])
  else if isWordStart c then
    return .yield (cursor.emit (← skip line isWordChar cursor.position)
      [quoted, interpolation, "variable.other.readwrite.mana"])
  else return .yield (cursor.emit (cursor.position + 1) [quoted, interpolation])

def closeInterpolation (cursor : Cursor) : Cursor :=
  if cursor.position < line.length then
    cursor.emit (cursor.position + 1) [quoted, interpolation, interpolationEnd]
  else cursor

def lexInterpolation (cursor : Cursor) : Except Fault Cursor := do
  return closeInterpolation line (← loop line (interpolationBody line) cursor)

def stringBody (interpolated : Bool) (cursor : Cursor) : Except Fault (ForInStep Cursor) := do
  let c ← charAt line cursor.position
  if c = '"' then return .done (cursor.emit (cursor.position + 1) [quoted, quotedEnd])
  else if c = '\\' ∧ cursor.position + 1 < line.length then
    return .yield (cursor.emit (cursor.position + 2) [quoted, escape])
  else if interpolated ∧ c = '\x7b' then
    return .yield (← lexInterpolation line
      (cursor.emit (cursor.position + 1) [quoted, interpolation, interpolationBegin]))
  else
    let stop ← skip line (!endsPlain interpolated ·) (cursor.position + 1)
    return .yield (cursor.emit stop [quoted])

def lexString (interpolated : Bool) (cursor : Cursor) : Except Fault Cursor :=
  loop line (stringBody line interpolated)
    (cursor.emit (cursor.position + if interpolated then 2 else 1) [quoted, quotedBegin])

/-!
# Comments
-/

def lexLineComment (cursor : Cursor) : Cursor :=
  if cursor.position < line.length then cursor.emit line.length [commentLine] else cursor

def closeComment (close : Nat) (cursor : Cursor) : Cursor :=
  { cursor.emit (close + 2) [commentBlock, commentPunctuation] with inComment := false }

def lexBlockComment (cursor : Cursor) : Cursor :=
  match find? line "*/".toList cursor.position with
  | none => cursor.emit line.length [commentBlock]
  | some close =>
      closeComment close
        (if cursor.position < close then cursor.emit close [commentBlock] else cursor)

/-!
# Code
-/

def lexBlanks (cursor : Cursor) : Except Fault Cursor := do
  let stop ← skip line isBlank cursor.position
  if cursor.position = 0 ∧ "//".toList.isPrefixOf (line.drop stop) then
    return cursor.emit stop [leadingBlanks]
  else return cursor.emit stop []

def lexSymbol (c : Char) (cursor : Cursor) : Cursor :=
  let rest := line.drop cursor.position
  match operators.find? fun (operator, _) => operator.isPrefixOf rest with
  | some (operator, scope) => cursor.emit (cursor.position + operator.length) [scope]
  | none =>
      match punctuation.lookup c with
      | some scope =>
          let cursor :=
            if c = '\x7b' then cursor.openBrace
            else if c = '\x7d' then cursor.closeBrace
            else cursor
          cursor.emit (cursor.position + 1) [scope]
      | none => cursor.emit (cursor.position + 1) []

def lexDefault (cursor : Cursor) : Except Fault Cursor := do
  let c ← charAt line cursor.position
  let rest := line.drop cursor.position
  if isBlank c then lexBlanks line cursor
  else
    let wasType := cursor.afterType
    let cursor := { cursor with afterType := false }
    if "//".toList.isPrefixOf rest then
      return lexLineComment line
        (cursor.emit (cursor.position + 2) [commentLine, commentPunctuation])
    else if "/*".toList.isPrefixOf rest then
      return { cursor.emit (cursor.position + 2) [commentBlock, commentPunctuation] with
        inComment := true }
    else if "$\"".toList.isPrefixOf rest then lexString line true cursor
    else if c = '"' then lexString line false cursor
    else if Unicode.isDigit c then lexNumber line cursor
    else if isWordStart c then lexWord line wasType cursor
    else return lexSymbol line c cursor

/-!
# Preprocessor lines
-/

def preprocessorBody (message : Bool) (cursor : Cursor) : Except Fault (ForInStep Cursor) := do
  let c ← charAt line cursor.position
  if isBlank c then
    return .yield (cursor.emit (← skip line isBlank cursor.position) [preprocessor])
  else if message then
    return .yield (cursor.emit line.length
      [preprocessor, "string.unquoted.preprocessor.message.mana"])
  else if isWordStart c then
    return .yield (cursor.emit (← skip line isWordChar cursor.position)
      [preprocessor, "entity.name.variable.preprocessor.symbol.mana"])
  else return .yield (cursor.emit (cursor.position + 1) [preprocessor])

def lexDirective (cursor : Cursor) : Except Fault Cursor := do
  let stop ← skip line isWordChar cursor.position
  let word := line.cut cursor.position stop
  let cursor :=
    if directives.contains word then
      cursor.emit stop [preprocessor, filled "keyword.preprocessor." word]
    else if cursor.position < stop then cursor.emit stop [preprocessor]
    else cursor
  loop line (preprocessorBody line (messageDirectives.contains word)) cursor

def lexHash (cursor : Cursor) : Except Fault Cursor :=
  lexDirective line
    (cursor.emit (cursor.position + 1) [preprocessor, "punctuation.separator.hash.mana"])

def lexPreprocessor (cursor : Cursor) : Except Fault Cursor := do
  let indent ← skip line isBlank 0
  lexHash line (if 0 < indent then cursor.emit indent [] else cursor)

/-!
# Lines
-/

def lexOn (cursor : Cursor) : Except Fault (ForInStep Cursor) :=
  if cursor.inComment then .ok (.yield (lexBlockComment line cursor))
  else .yield <$> lexDefault line cursor

def lexLine (stack : RuleStack) : Except Fault (LineResult RuleStack) := do
  let start : Cursor := { stack with }
  let cursor ←
    if !stack.inComment && "#".toList.isPrefixOf (line.dropWhile Unicode.isBlank) then
      lexPreprocessor line start
    else pure start
  return (← loop line (lexOn line) cursor).result

/-!
# Classification
-/

/-- What keeps an excerpt from being classified. -/
inductive Crash where
  | lexer (fault : Fault)
  | scope (failure : UnrecognizedScope)

def classifyFrom (span : Span) (excludeCarriers : Bool) (index : Nat) (before : Option RuleStack) :
    List Text -> Except Crash (List Token)
  | [] => .ok []
  | line :: more => do
      let result ← (lexLine line (before.getD {})).mapError .lexer
      let tokens ← (classifyLine excludeCarriers index line
        (span.filter index line result.tokens)).mapError .scope
      let later ← classifyFrom span excludeCarriers (index + 1) (some result.state) more
      return tokens ++ later

def classify (excludeCarriers : Bool) (excerpt : Excerpt) : Except Crash (List Token) :=
  classifyFrom excerpt.span excludeCarriers 0 none excerpt.lines

end LineLexer
end Mana
end ScopeProbe
