import ScopeProbe.Grammar
import ScopeProbe.Mana.Vocabulary
import ScopeProbe.Text.Hexadecimal
import ScopeProbe.Unicode.Blank

/-!
# Lexer of the mana subset

A line is cut into lexemes from left to right.  At each place one step decides, from what the line
holds there and from what has gone before, how long the next lexeme is, which scopes it has and
what may follow.  A step always takes at least one character, so a line is exhausted and nothing
of it is lost.  Between lines only the state is kept: an open block comment, the open braces, and
a declaration that waits for its name.
-/

namespace ScopeProbe
namespace Mana

/-!
# State
-/

structure State where
  inComment : Bool := false
  /-- The open braces, the innermost first. -/
  blocks : List Block := []
  /-- The declaration whose keyword has been read but not yet its name. -/
  pending : Option Declaration := none
  /-- What the next brace to open will enclose. -/
  nextBlock : Block := .plain
  deriving DecidableEq, Repr

namespace State

def openBrace (state : State) : State :=
  { state with blocks := state.nextBlock :: state.blocks, nextBlock := .plain }

def closeBrace (state : State) : State :=
  { state with blocks := state.blocks.tail }

def named (state : State) (kind : Declaration) : State :=
  { state with pending := none, nextBlock := kind.block }

end State

/-!
# Lexemes
-/

/-- A piece of a line with the scopes inside the root scope, the innermost last. -/
structure Lexeme where
  text : Text
  inner : List Scope
  deriving DecidableEq, Repr

namespace Lexeme

def scopes (lexeme : Lexeme) : List Scope :=
  .source :: lexeme.inner

def rawTokens (start : Nat) : List Lexeme -> List RawToken
  | [] => []
  | lexeme :: more =>
      let stop := start + lexeme.text.length
      { start, stop, scopes := lexeme.scopes.map Scope.raw } :: rawTokens stop more

end Lexeme

/-!
# Steps
-/

/-- What the lexer is in the midst of, within a line. -/
inductive Mode where
  | lineStart
  | code (afterType : Bool)
  | lineComment
  | hexDigits
  | number
  | string (interpolated : Bool)
  | interpolation
  | hash
  | directive
  | preprocessor (message : Bool)
  deriving DecidableEq, Repr

/-- One lexeme: how many characters it takes behind its first, its scopes inside the root scope, and
what comes after it. -/
structure Step where
  extra : Nat
  inner : List Scope
  mode : Mode
  state : State

def runLength (kind : Char -> Bool) (text : Text) : Nat :=
  (text.takeWhile kind).length

def commentEnd? : Text -> Option Nat
  | [] => none
  | '*' :: '/' :: _ => some 0
  | _ :: rest => (commentEnd? rest).map (· + 1)

def commentStep (state : State) (c : Char) (rest : Text) : Step :=
  match commentEnd? (c :: rest) with
  | none => ⟨rest.length, [.commentBlock], .code false, state⟩
  | some 0 =>
      ⟨1, [.commentBlock, .punctuationDefinitionComment], .code false,
        { state with inComment := false }⟩
  | some (more + 1) => ⟨more, [.commentBlock], .code false, state⟩

/-- The scope of an identifier that names no declaration: a function if it is applied, a variable
being declared behind a type, a member in the body of an enumeration. -/
def identifierScope (state : State) (afterType : Bool) (behind : Text) : Scope :=
  if (behind.dropWhile isBlank).head? = some '(' then .entityNameFunction
  else if afterType then
    if state.blocks.head? = some .typeBody then .entityNameVariableField
    else .entityNameVariableLocal
  else if state.blocks.head? = some .enumBody then .entityNameVariableEnumMember
  else .variableOtherReadwrite

def wordStep (state : State) (afterType : Bool) (c : Char) (rest : Text) : Step :=
  let extra := runLength isWordChar rest
  match reserved? (c :: rest.take extra) with
  | some word =>
      let state :=
        match word with
        | .declaration kind => { state with pending := some kind }
        | _ => state
      ⟨extra, [word.scope], .code word.namesType, state⟩
  | none =>
      match state.pending with
      | some kind => ⟨extra, [kind.nameScope], .code false, state.named kind⟩
      | none => ⟨extra, [identifierScope state afterType (rest.drop extra)], .code false, state⟩

def numberStart (state : State) (c : Char) (rest : Text) : Step :=
  if c = '0' ∧ (rest.head? = some 'x' ∨ rest.head? = some 'X') then
    ⟨1, [.constantNumericHex, .constantNumericOtherPrefixHex], .hexDigits, state⟩
  else
    ⟨runLength Unicode.isDigit rest, [.constantNumericDecimal], .number, state⟩

def symbolStep (state : State) (c : Char) (rest : Text) : Step :=
  match operator? (c :: rest) with
  | some (operator, scope) => ⟨operator.length - 1, [scope], .code false, state⟩
  | none =>
      match punctuation.lookup c with
      | some scope =>
          let state :=
            if c = '\x7b' then state.openBrace
            else if c = '\x7d' then state.closeBrace
            else state
          ⟨0, [scope], .code false, state⟩
      | none => ⟨0, [], .code false, state⟩

def codeStep (state : State) (afterType : Bool) (c : Char) (rest : Text) : Step :=
  if state.inComment then commentStep state c rest
  else if c = '/' ∧ rest.head? = some '/' then
    ⟨1, [.commentLineDoubleSlash, .punctuationDefinitionComment], .lineComment, state⟩
  else if c = '/' ∧ rest.head? = some '*' then
    ⟨1, [.commentBlock, .punctuationDefinitionComment], .code false,
      { state with inComment := true }⟩
  else if c = '$' ∧ rest.head? = some '"' then
    ⟨1, [.stringQuotedDouble, .punctuationDefinitionStringBegin], .string true, state⟩
  else if c = '"' then
    ⟨0, [.stringQuotedDouble, .punctuationDefinitionStringBegin], .string false, state⟩
  else if Unicode.isDigit c then numberStart state c rest
  else if isWordStart c then wordStep state afterType c rest
  else symbolStep state c rest

def leadingBlanks (behind : Text) : List Scope :=
  if "//".toList.isPrefixOf behind then [.punctuationWhitespaceCommentLeading] else []

def blankOrCodeStep (state : State) (atStart afterType : Bool) (c : Char) (rest : Text) : Step :=
  if !state.inComment && isBlank c then
    let extra := runLength isBlank rest
    ⟨extra, if atStart then leadingBlanks (rest.drop extra) else [], .code afterType, state⟩
  else codeStep state afterType c rest

def hexStep (state : State) (c : Char) (rest : Text) : Step :=
  if Hexadecimal.isDigit c then
    ⟨runLength Hexadecimal.isDigit rest, [.constantNumericHex], .code false, state⟩
  else blankOrCodeStep state false false c rest

def numberStep (state : State) (c : Char) (rest : Text) : Step :=
  if Unicode.isDigit c then
    ⟨runLength Unicode.isDigit rest, [.constantNumericDecimal], .number, state⟩
  else if c = '_' then
    ⟨0, [.constantNumericDecimal, .constantNumericOtherSeparatorThousands], .number, state⟩
  else if c = '.' ∧ rest.head?.any Unicode.isDigit then
    ⟨0, [.constantNumericDecimal, .constantNumericOtherSeparatorDecimals], .number, state⟩
  else if isSuffix c then
    ⟨0, [.constantNumericDecimal, .constantNumericOtherSuffix], .code false, state⟩
  else blankOrCodeStep state false false c rest

def stringStep (state : State) (interpolated : Bool) (c : Char) (rest : Text) : Step :=
  if c = '"' then
    ⟨0, [.stringQuotedDouble, .punctuationDefinitionStringEnd], .code false, state⟩
  else if c = '\\' ∧ rest ≠ [] then
    ⟨1, [.stringQuotedDouble, .constantCharacterEscape], .string interpolated, state⟩
  else if interpolated ∧ c = '\x7b' then
    ⟨0, [.stringQuotedDouble, .metaInterpolation, .punctuationDefinitionInterpolationBegin],
      .interpolation, state⟩
  else
    ⟨runLength (!endsPlain interpolated ·) rest, [.stringQuotedDouble], .string interpolated, state⟩

def interpolationStep (state : State) (c : Char) (rest : Text) : Step :=
  if c = '\x7d' then
    ⟨0, [.stringQuotedDouble, .metaInterpolation, .punctuationDefinitionInterpolationEnd],
      .string true, state⟩
  else if isBlank c then
    ⟨runLength isBlank rest, [.stringQuotedDouble, .metaInterpolation], .interpolation, state⟩
  else if isWordStart c then
    ⟨runLength isWordChar rest,
      [.stringQuotedDouble, .metaInterpolation, .variableOtherReadwrite], .interpolation, state⟩
  else ⟨0, [.stringQuotedDouble, .metaInterpolation], .interpolation, state⟩

def hashStep (state : State) (c : Char) (rest : Text) : Step :=
  if isBlank c then ⟨runLength isBlank rest, [], .hash, state⟩
  else ⟨0, [.metaPreprocessor, .punctuationSeparatorHash], .directive, state⟩

def preprocessorStep (state : State) (message : Bool) (c : Char) (rest : Text) : Step :=
  if isBlank c then
    ⟨runLength isBlank rest, [.metaPreprocessor], .preprocessor message, state⟩
  else if message then
    ⟨rest.length, [.metaPreprocessor, .stringUnquotedPreprocessorMessage], .preprocessor message,
      state⟩
  else if isWordStart c then
    ⟨runLength isWordChar rest, [.metaPreprocessor, .entityNameVariablePreprocessorSymbol],
      .preprocessor message, state⟩
  else ⟨0, [.metaPreprocessor], .preprocessor message, state⟩

def directiveStep (state : State) (c : Char) (rest : Text) : Step :=
  if isWordChar c then
    let extra := runLength isWordChar rest
    let word := c :: rest.take extra
    ⟨extra, .metaPreprocessor :: (directives.lookup word).toList,
      .preprocessor (messageDirectives.contains word), state⟩
  else preprocessorStep state false c rest

def step (state : State) : Mode -> Char -> Text -> Step
  | .lineStart, c, rest => blankOrCodeStep state true false c rest
  | .code afterType, c, rest => blankOrCodeStep state false afterType c rest
  | .lineComment, _, rest => ⟨rest.length, [.commentLineDoubleSlash], .lineComment, state⟩
  | .hexDigits, c, rest => hexStep state c rest
  | .number, c, rest => numberStep state c rest
  | .string interpolated, c, rest => stringStep state interpolated c rest
  | .interpolation, c, rest => interpolationStep state c rest
  | .hash, c, rest => hashStep state c rest
  | .directive, c, rest => directiveStep state c rest
  | .preprocessor message, c, rest => preprocessorStep state message c rest

/-!
# Lines
-/

def scan (state : State) (mode : Mode) : Nat -> Text -> List Lexeme × State
  | _, [] => ([], state)
  | taken + 1, _ :: rest => scan state mode taken rest
  | 0, c :: rest =>
      let next := step state mode c rest
      let (more, final) := scan next.state next.mode next.extra rest
      ({ text := c :: rest.take next.extra, inner := next.inner } :: more, final)

def isPreprocessorLine (line : Text) : Bool :=
  (line.dropWhile Unicode.isBlank).head? == some '#'

def startMode (state : State) (line : Text) : Mode :=
  if !state.inComment && isPreprocessorLine line then .hash else .lineStart

def lexLine (state : State) (line : Text) : List Lexeme × State :=
  scan state (startMode state line) 0 line

def grammar : Grammar State := fun line before =>
  let (lexemes, state) := lexLine (before.getD {}) line
  { tokens := Lexeme.rawTokens 0 lexemes, state }

end Mana
end ScopeProbe
