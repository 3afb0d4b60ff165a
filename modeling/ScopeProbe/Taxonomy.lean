import ScopeProbe.Token

/-!
# Taxonomy

The vocabulary in which expected tokens are written.  Every lexical category has one entry under a
dotted name: a constant token where the text is fixed, as for keywords and punctuation, and
otherwise a family of tokens of one scope, whose text is supplied.
-/

namespace ScopeProbe

inductive Entry where
  | constant (token : Token)
  | family (scope : Scope)
  deriving DecidableEq, Repr

namespace Entry

def scope : Entry -> Scope
  | constant token => token.scope
  | family scope => scope

def text? : Entry -> Option Text
  | constant token => some token.text
  | family _ => none

end Entry

namespace Taxonomy

/-- An entry and its name, or the part of the name inside a group. -/
abbrev Named := String × Entry

def fixed (name text : String) (scope : Scope) : Named :=
  (name, .constant { text := text.toList, scope })

def varying (name : String) (scope : Scope) : Named :=
  (name, .family scope)

def group (name : String) (entries : List Named) : List Named :=
  entries.map fun (inner, entry) => (name ++ "." ++ inner, entry)

/-!
# Entries
-/

def comment : List Named :=
  [ varying "LeadingWhitespace" .punctuationWhitespaceCommentLeading ] ++
  group "MultiLine"
    [ fixed "End" "*/" .punctuationDefinitionComment,
      fixed "Start" "/*" .punctuationDefinitionComment,
      varying "Text" .commentBlock ] ++
  group "SingleLine"
    [ fixed "Start" "//" .punctuationDefinitionComment,
      varying "Text" .commentLineDoubleSlash ]

def identifiers : List Named :=
  [ varying "AliasName" .entityNameTypeAlias,
    varying "ClassName" .entityNameTypeClass,
    varying "DelegateName" .entityNameTypeDelegate,
    varying "EnumMemberName" .entityNameVariableEnumMember,
    varying "EnumName" .entityNameTypeEnum,
    varying "EventName" .entityNameVariableEvent,
    varying "FieldName" .entityNameVariableField,
    varying "InterfaceName" .entityNameTypeInterface,
    varying "LabelName" .entityNameLabel,
    varying "LocalName" .entityNameVariableLocal,
    varying "MethodName" .entityNameFunction,
    varying "NamespaceName" .entityNameTypeNamespace,
    varying "ParameterName" .entityNameVariableParameter,
    varying "PreprocessorSymbol" .entityNameVariablePreprocessorSymbol,
    varying "PropertyName" .entityNameVariableProperty,
    varying "RangeVariableName" .entityNameVariableRangeVariable,
    varying "RecordName" .entityNameTypeRecord,
    varying "StructName" .entityNameTypeStruct,
    varying "TupleElementName" .entityNameVariableTupleElement,
    varying "TypeParameterName" .entityNameTypeTypeParameter ]

def control : List Named :=
  [ fixed "Break" "break" .keywordControlFlowBreak,
    fixed "Case" "case" .keywordControlCase,
    fixed "Catch" "catch" .keywordControlTryCatch,
    fixed "Continue" "continue" .keywordControlFlowContinue,
    fixed "Default" "default" .keywordControlDefault,
    fixed "Do" "do" .keywordControlLoopDo,
    fixed "Else" "else" .keywordControlConditionalElse,
    fixed "Finally" "finally" .keywordControlTryFinally,
    fixed "For" "for" .keywordControlLoopFor,
    fixed "ForEach" "foreach" .keywordControlLoopForeach,
    fixed "Goto" "goto" .keywordControlGoto,
    fixed "If" "if" .keywordControlConditionalIf,
    fixed "In" "in" .keywordControlLoopIn,
    fixed "Return" "return" .keywordControlFlowReturn,
    fixed "Switch" "switch" .keywordControlSwitch,
    fixed "Throw" "throw" .keywordControlFlowThrow,
    fixed "Try" "try" .keywordControlTry,
    fixed "When" "when" .keywordControlTryWhen,
    fixed "While" "while" .keywordControlLoopWhile,
    fixed "Yield" "yield" .keywordControlFlowYield ]

def modifiers : List Named :=
  [ fixed "Abstract" "abstract" .storageModifier,
    fixed "Async" "async" .storageModifier,
    fixed "Const" "const" .storageModifier,
    fixed "Extern" "extern" .storageModifier,
    fixed "In" "in" .storageModifier,
    fixed "Internal" "internal" .storageModifier,
    fixed "New" "new" .storageModifier,
    fixed "Out" "out" .storageModifier,
    fixed "Override" "override" .storageModifier,
    fixed "Params" "params" .storageModifier,
    fixed "Partial" "partial" .storageModifier,
    fixed "Private" "private" .storageModifier,
    fixed "Protected" "protected" .storageModifier,
    fixed "Public" "public" .storageModifier,
    fixed "ReadOnly" "readonly" .storageModifier,
    fixed "Ref" "ref" .storageModifier,
    fixed "Sealed" "sealed" .storageModifier,
    fixed "Static" "static" .storageModifier,
    fixed "This" "this" .storageModifier,
    fixed "Unsafe" "unsafe" .storageModifier,
    fixed "Virtual" "virtual" .storageModifier ]

def preprocessor : List Named :=
  [ fixed "Checksum" "checksum" .keywordPreprocessorChecksum,
    fixed "Default" "default" .keywordPreprocessorDefault,
    fixed "Define" "define" .keywordPreprocessorDefine,
    fixed "Disable" "disable" .keywordPreprocessorDisable,
    fixed "ElIf" "elif" .keywordPreprocessorElif,
    fixed "Else" "else" .keywordPreprocessorElse,
    fixed "EndIf" "endif" .keywordPreprocessorEndif,
    fixed "EndRegion" "endregion" .keywordPreprocessorEndregion,
    fixed "Error" "error" .keywordPreprocessorError,
    fixed "Hidden" "hidden" .keywordPreprocessorHidden,
    fixed "If" "if" .keywordPreprocessorIf,
    fixed "Line" "line" .keywordPreprocessorLine,
    fixed "Load" "load" .keywordPreprocessorLoad,
    fixed "Pragma" "pragma" .keywordPreprocessorPragma,
    fixed "R" "r" .keywordPreprocessorR,
    fixed "Region" "region" .keywordPreprocessorRegion,
    fixed "Restore" "restore" .keywordPreprocessorRestore,
    fixed "Undef" "undef" .keywordPreprocessorUndef,
    fixed "Warning" "warning" .keywordPreprocessorWarning ]

def queries : List Named :=
  [ fixed "Ascending" "ascending" .keywordQueryAscending,
    fixed "By" "by" .keywordQueryBy,
    fixed "Descending" "descending" .keywordQueryDescending,
    fixed "Equals" "equals" .keywordQueryEquals,
    fixed "From" "from" .keywordQueryFrom,
    fixed "Group" "group" .keywordQueryGroup,
    fixed "In" "in" .keywordQueryIn,
    fixed "Into" "into" .keywordQueryInto,
    fixed "Join" "join" .keywordQueryJoin,
    fixed "Let" "let" .keywordQueryLet,
    fixed "On" "on" .keywordQueryOn,
    fixed "OrderBy" "orderby" .keywordQueryOrderby,
    fixed "Select" "select" .keywordQuerySelect,
    fixed "Where" "where" .keywordQueryWhere ]

def keywords : List Named :=
  group "Control" control ++
  group "Modifiers" modifiers ++
  group "Preprocessor" preprocessor ++
  group "Queries" queries ++
  [ fixed "Add" "add" .keywordOtherAdd,
    fixed "Alias" "alias" .keywordOtherAlias,
    varying "AttributeSpecifier" .keywordOtherAttributeSpecifier,
    fixed "Await" "await" .keywordOtherAwait,
    fixed "As" "as" .keywordOtherAs,
    fixed "Base" "base" .keywordOtherBase,
    fixed "Checked" "checked" .keywordOtherChecked,
    fixed "Class" "class" .keywordOtherClass,
    fixed "Default" "default" .keywordOtherDefault,
    fixed "Delegate" "delegate" .keywordOtherDelegate,
    fixed "Enum" "enum" .keywordOtherEnum,
    fixed "Event" "event" .keywordOtherEvent,
    fixed "Explicit" "explicit" .keywordOtherExplicit,
    fixed "Extern" "extern" .keywordOtherExtern,
    fixed "Get" "get" .keywordOtherGet,
    fixed "Implicit" "implicit" .keywordOtherImplicit,
    fixed "Init" "init" .keywordOtherInit,
    fixed "Interface" "interface" .keywordOtherInterface,
    fixed "Is" "is" .keywordOtherIs,
    fixed "Lock" "lock" .keywordOtherLock,
    fixed "NameOf" "nameof" .keywordOtherNameof,
    fixed "Namespace" "namespace" .keywordOtherNamespace,
    fixed "New" "new" .keywordOtherNew,
    fixed "Stackalloc" "stackalloc" .keywordOtherNew,
    fixed "Operator" "operator" .keywordOtherOperatorDecl,
    fixed "Record" "record" .keywordOtherRecord,
    fixed "Remove" "remove" .keywordOtherRemove,
    fixed "Set" "set" .keywordOtherSet,
    fixed "Static" "static" .keywordOtherStatic,
    fixed "Struct" "struct" .keywordOtherStruct,
    fixed "This" "this" .keywordOtherThis,
    fixed "TypeOf" "typeof" .keywordOtherTypeof,
    fixed "Unchecked" "unchecked" .keywordOtherUnchecked,
    fixed "Using" "using" .keywordOtherUsing,
    fixed "Var" "var" .keywordOtherVar,
    fixed "Where" "where" .keywordOtherWhere ]

def literals : List Named :=
  group "Boolean"
    [ fixed "False_" "false" .constantLanguageBooleanFalse,
      fixed "True_" "true" .constantLanguageBooleanTrue ] ++
  [ fixed "Null" "null" .constantLanguageNull ] ++
  group "Numeric" (
    [ varying "Binary" .constantNumericBinary,
      varying "Decimal" .constantNumericDecimal,
      varying "Hexadecimal" .constantNumericHex,
      varying "Invalid" .invalidIllegalConstantNumeric ] ++
    group "Other" (
      [ varying "Exponent" .constantNumericOtherExponent,
        varying "Suffix" .constantNumericOtherSuffix ] ++
      group "Prefix"
        [ varying "Binary" .constantNumericOtherPrefixBinary,
          varying "Hexadecimal" .constantNumericOtherPrefixHex ] ++
      group "Separator"
        [ fixed "Decimals" "." .constantNumericOtherSeparatorDecimals,
          fixed "Thousands" "_" .constantNumericOtherSeparatorThousands ])) ++
  [ varying "Char" .stringQuotedSingle,
    varying "CharacterEscape" .constantCharacterEscape,
    varying "String" .stringQuotedDouble ]

def operators : List Named :=
  group "Arithmetic"
    [ fixed "Addition" "+" .keywordOperatorArithmetic,
      fixed "Division" "/" .keywordOperatorArithmetic,
      fixed "Multiplication" "*" .keywordOperatorArithmetic,
      fixed "Remainder" "%" .keywordOperatorArithmetic,
      fixed "Subtraction" "-" .keywordOperatorArithmetic ] ++
  group "Bitwise"
    [ fixed "And" "&" .keywordOperatorBitwise,
      fixed "BitwiseComplement" "~" .keywordOperatorBitwise,
      fixed "ExclusiveOr" "^" .keywordOperatorBitwise,
      fixed "Or" "|" .keywordOperatorBitwise,
      fixed "ShiftLeft" "<<" .keywordOperatorBitwiseShift,
      fixed "ShiftRight" ">>" .keywordOperatorBitwiseShift ] ++
  group "CompoundAssignment" (
    group "Arithmetic"
      [ fixed "Addition" "+=" .keywordOperatorAssignmentCompound,
        fixed "Division" "/=" .keywordOperatorAssignmentCompound,
        fixed "Multiplication" "*=" .keywordOperatorAssignmentCompound,
        fixed "Remainder" "%=" .keywordOperatorAssignmentCompound,
        fixed "Subtraction" "-=" .keywordOperatorAssignmentCompound ] ++
    group "Bitwise"
      [ fixed "And" "&=" .keywordOperatorAssignmentCompoundBitwise,
        fixed "ExclusiveOr" "^=" .keywordOperatorAssignmentCompoundBitwise,
        fixed "Or" "|=" .keywordOperatorAssignmentCompoundBitwise,
        fixed "ShiftLeft" "<<=" .keywordOperatorAssignmentCompoundBitwise,
        fixed "ShiftRight" ">>=" .keywordOperatorAssignmentCompoundBitwise ] ++
    [ fixed "NullCoalescing" "??=" .keywordOperatorAssignmentCompound ]) ++
  group "Conditional"
    [ fixed "QuestionMark" "?" .keywordOperatorConditionalQuestionMark,
      fixed "Colon" ":" .keywordOperatorConditionalColon ] ++
  group "Logical"
    [ fixed "And" "&&" .keywordOperatorLogical,
      fixed "Not" "!" .keywordOperatorLogical,
      fixed "Or" "||" .keywordOperatorLogical ] ++
  group "Relational"
    [ fixed "Equals" "==" .keywordOperatorComparison,
      fixed "NotEqual" "!=" .keywordOperatorComparison,
      fixed "LessThan" "<" .keywordOperatorRelational,
      fixed "LessThanOrEqual" "<=" .keywordOperatorRelational,
      fixed "GreaterThan" ">" .keywordOperatorRelational,
      fixed "GreaterThanOrEqual" ">=" .keywordOperatorRelational ] ++
  [ fixed "Arrow" "=>" .keywordOperatorArrow,
    fixed "Assignment" "=" .keywordOperatorAssignment,
    fixed "Decrement" "--" .keywordOperatorDecrement,
    fixed "Increment" "++" .keywordOperatorIncrement,
    fixed "NullCoalescing" "??" .keywordOperatorNullCoalescing,
    fixed "NullConditional" "?" .keywordOperatorNullConditional ]

def primitiveType : List Named :=
  [ fixed "Bool" "bool" .keywordType,
    fixed "Byte" "byte" .keywordType,
    fixed "Char" "char" .keywordType,
    fixed "Decimal" "decimal" .keywordType,
    fixed "Double" "double" .keywordType,
    fixed "Float" "float" .keywordType,
    fixed "Half" "half" .keywordType,
    fixed "Int32" "int32" .keywordType,
    fixed "Int64" "int64" .keywordType,
    fixed "Object" "object" .keywordType,
    fixed "SByte" "sbyte" .keywordType,
    fixed "Short" "short" .keywordType,
    fixed "String" "string" .keywordType,
    fixed "UInt32" "uint32" .keywordType,
    fixed "UInt64" "uint64" .keywordType,
    fixed "UShort" "ushort" .keywordType,
    fixed "Void" "void" .keywordType ]

def punctuation : List Named :=
  group "Char"
    [ fixed "Begin" "'" .punctuationDefinitionCharBegin,
      fixed "End" "'" .punctuationDefinitionCharEnd ] ++
  group "Interpolation"
    [ fixed "Begin" "\x7b" .punctuationDefinitionInterpolationBegin,
      fixed "End" "\x7d" .punctuationDefinitionInterpolationEnd ] ++
  group "InterpolatedString"
    [ fixed "Begin" "$\"" .punctuationDefinitionStringBegin,
      fixed "End" "\"" .punctuationDefinitionStringEnd,
      fixed "VerbatimBegin" "$@\"" .punctuationDefinitionStringBegin,
      fixed "VerbatimBeginReverse" "@$\"" .punctuationDefinitionStringBegin ] ++
  group "String"
    [ fixed "Begin" "\"" .punctuationDefinitionStringBegin,
      fixed "End" "\"" .punctuationDefinitionStringEnd,
      fixed "VerbatimBegin" "@\"" .punctuationDefinitionStringBegin ] ++
  group "TypeParameters"
    [ fixed "Begin" "<" .punctuationDefinitionTypeparametersBegin,
      fixed "End" ">" .punctuationDefinitionTypeparametersEnd ] ++
  [ fixed "Accessor" "." .punctuationAccessor,
    fixed "CloseBrace" "\x7d" .punctuationCurlybraceClose,
    fixed "CloseBracket" "]" .punctuationSquarebracketClose,
    fixed "CloseParen" ")" .punctuationParenthesisClose,
    fixed "Colon" ":" .punctuationSeparatorColon,
    fixed "ColonColon" "::" .punctuationSeparatorColoncolon,
    fixed "Comma" "," .punctuationSeparatorComma,
    fixed "Hash" "#" .punctuationSeparatorHash,
    fixed "OpenBrace" "\x7b" .punctuationCurlybraceOpen,
    fixed "OpenBracket" "[" .punctuationSquarebracketOpen,
    fixed "OpenParen" "(" .punctuationParenthesisOpen,
    fixed "QuestionMark" "?" .punctuationSeparatorQuestionMark,
    fixed "Semicolon" ";" .punctuationTerminatorStatement,
    fixed "Tilde" "~" .punctuationTilde ]

def variableNames : List Named :=
  [ varying "Alias" .variableOtherAlias,
    varying "Object" .variableOtherObject,
    varying "Property" .variableOtherObjectProperty,
    varying "ReadWrite" .variableOtherReadwrite ]

def xmlDocComments : List Named :=
  group "Attribute"
    [ varying "Name" .entityOtherAttributeNameLocalname ] ++
  group "CData"
    [ fixed "Begin" "<![CDATA[" .punctuationDefinitionStringBegin,
      fixed "End" "]]>" .punctuationDefinitionStringEnd,
      varying "Text" .stringUnquotedCdata ] ++
  group "CharacterEntity"
    [ fixed "Begin" "&" .punctuationDefinitionConstant,
      fixed "End" ";" .punctuationDefinitionConstant,
      varying "Text" .constantCharacterEntity ] ++
  group "Comment"
    [ fixed "Begin" "<!--" .punctuationDefinitionComment,
      fixed "End" "-->" .punctuationDefinitionComment,
      varying "Text" .commentBlock ] ++
  group "Tag"
    [ fixed "StartTagBegin" "<" .punctuationDefinitionTag,
      fixed "StartTagEnd" ">" .punctuationDefinitionTag,
      fixed "EndTagBegin" "</" .punctuationDefinitionTag,
      fixed "EndTagEnd" ">" .punctuationDefinitionTag,
      fixed "EmptyTagBegin" "<" .punctuationDefinitionTag,
      fixed "EmptyTagEnd" "/>" .punctuationDefinitionTag,
      varying "Name" .entityNameTagLocalname ] ++
  group "String" (
    group "DoubleQuoted"
      [ fixed "Begin" "\"" .punctuationDefinitionStringBegin,
        fixed "End" "\"" .punctuationDefinitionStringEnd,
        varying "Text" .stringQuotedDouble ] ++
    group "SingleQuoted"
      [ fixed "Begin" "'" .punctuationDefinitionStringBegin,
        fixed "End" "'" .punctuationDefinitionStringEnd,
        varying "Text" .stringQuotedSingle ]) ++
  [ fixed "Begin" "///" .punctuationDefinitionComment,
    fixed "Colon" ":" .punctuationSeparatorColon,
    fixed "Equals" "=" .punctuationSeparatorEquals,
    varying "Text" .commentBlockDocumentation ]

def ungrouped : List Named :=
  [ varying "IllegalNewLine" .invalidIllegalNewline,
    varying "PreprocessorMessage" .stringUnquotedPreprocessorMessage,
    varying "Type" .storageType ]

def entries : List Named :=
  group "Comment" comment ++
  group "Identifiers" identifiers ++
  group "Keywords" keywords ++
  group "Literals" literals ++
  group "Operators" operators ++
  group "PrimitiveType" primitiveType ++
  group "Punctuation" punctuation ++
  group "Variables" variableNames ++
  group "XmlDocComments" xmlDocComments ++
  ungrouped

/-!
# Looking up entries
-/

/-- The entry with a full name.  The modifiers can also be named without the group they are in. -/
def find? (name : String) : Option Entry :=
  entries.lookup name <|> (group "Modifiers" modifiers).lookup name

def namesFor (scope : Scope) : List String :=
  (entries.filter fun (_, entry) => entry.scope == scope).map (·.1)

def covers (scope : Scope) : Bool :=
  entries.any fun (_, entry) => entry.scope == scope

inductive Misuse where
  | unknownEntry
  | textMissing
  | textUnwanted
  deriving DecidableEq, Repr

def token (name : String) (text : Option Text) : Except Misuse Token :=
  match find? name, text with
  | none, _ => .error .unknownEntry
  | some (.constant token), none => .ok token
  | some (.constant _), some _ => .error .textUnwanted
  | some (.family scope), some text => .ok { text, scope }
  | some (.family _), none => .error .textMissing

end Taxonomy
end ScopeProbe
