/-!
# Scopes

The closed vocabulary of scopes a mana grammar reports, one constructor for each.  A scope has a
written form, its raw name, which is what a rule engine puts into a scope stack, and a label, its
name in capitals.  Reading a raw name back is partial: names outside the vocabulary have no scope.
-/

namespace ScopeProbe

/-- The scopes of the vocabulary, in the order in which they are listed. -/
inductive Scope where
  -- Carrier scopes (wrap other tokens, never reported by default)
  | metaInterpolation
  | metaPreprocessor
  | metaTag
  | metaTypeParameters
  | source
  -- Comments
  | commentBlockDocumentation
  | commentBlock
  | commentLineDoubleSlash
  -- Constants and literals
  | constantCharacterEntity
  | constantCharacterEscape
  | constantLanguageBooleanFalse
  | constantLanguageBooleanTrue
  | constantLanguageNull
  | constantNumericBinary
  | constantNumericDecimal
  | constantNumericHex
  | constantNumericOtherExponent
  | constantNumericOtherPrefixBinary
  | constantNumericOtherPrefixHex
  | constantNumericOtherSeparatorDecimals
  | constantNumericOtherSeparatorThousands
  | constantNumericOtherSuffix
  -- Declared names
  | entityNameFunction
  | entityNameLabel
  | entityNameTagLocalname
  | entityNameTypeAlias
  | entityNameTypeClass
  | entityNameTypeDelegate
  | entityNameTypeEnum
  | entityNameTypeInterface
  | entityNameTypeNamespace
  | entityNameTypeRecord
  | entityNameTypeStruct
  | entityNameTypeTypeParameter
  | entityNameVariableEnumMember
  | entityNameVariableEvent
  | entityNameVariableField
  | entityNameVariableLocal
  | entityNameVariableParameter
  | entityNameVariablePreprocessorSymbol
  | entityNameVariableProperty
  | entityNameVariableRangeVariable
  | entityNameVariableTupleElement
  | entityOtherAttributeNameLocalname
  -- Invalid input
  | invalidIllegalConstantNumeric
  | invalidIllegalNewline
  -- Control keywords
  | keywordControlCase
  | keywordControlConditionalElse
  | keywordControlConditionalIf
  | keywordControlDefault
  | keywordControlFlowBreak
  | keywordControlFlowContinue
  | keywordControlFlowReturn
  | keywordControlFlowThrow
  | keywordControlFlowYield
  | keywordControlGoto
  | keywordControlLoopDo
  | keywordControlLoopFor
  | keywordControlLoopForeach
  | keywordControlLoopIn
  | keywordControlLoopWhile
  | keywordControlSwitch
  | keywordControlTryCatch
  | keywordControlTryFinally
  | keywordControlTry
  | keywordControlTryWhen
  -- Operators
  | keywordOperatorArithmetic
  | keywordOperatorArrow
  | keywordOperatorAssignmentCompoundBitwise
  | keywordOperatorAssignmentCompound
  | keywordOperatorAssignment
  | keywordOperatorBitwise
  | keywordOperatorBitwiseShift
  | keywordOperatorComparison
  | keywordOperatorConditionalColon
  | keywordOperatorConditionalQuestionMark
  | keywordOperatorDecrement
  | keywordOperatorIncrement
  | keywordOperatorLogical
  | keywordOperatorNullCoalescing
  | keywordOperatorNullConditional
  | keywordOperatorRelational
  -- Other keywords
  | keywordOtherAdd
  | keywordOtherAlias
  | keywordOtherAs
  | keywordOtherAttributeSpecifier
  | keywordOtherAwait
  | keywordOtherBase
  | keywordOtherChecked
  | keywordOtherClass
  | keywordOtherDefault
  | keywordOtherDelegate
  | keywordOtherEnum
  | keywordOtherEvent
  | keywordOtherExplicit
  | keywordOtherExtern
  | keywordOtherGet
  | keywordOtherImplicit
  | keywordOtherInit
  | keywordOtherInterface
  | keywordOtherIs
  | keywordOtherLock
  | keywordOtherNameof
  | keywordOtherNamespace
  | keywordOtherNew
  | keywordOtherOperatorDecl
  | keywordOtherRecord
  | keywordOtherRemove
  | keywordOtherSet
  | keywordOtherStatic
  | keywordOtherStruct
  | keywordOtherThis
  | keywordOtherTypeof
  | keywordOtherUnchecked
  | keywordOtherUsing
  | keywordOtherVar
  | keywordOtherWhere
  -- Preprocessor
  | keywordPreprocessorChecksum
  | keywordPreprocessorDefault
  | keywordPreprocessorDefine
  | keywordPreprocessorDisable
  | keywordPreprocessorElif
  | keywordPreprocessorElse
  | keywordPreprocessorEndif
  | keywordPreprocessorEndregion
  | keywordPreprocessorError
  | keywordPreprocessorHidden
  | keywordPreprocessorIf
  | keywordPreprocessorLine
  | keywordPreprocessorLoad
  | keywordPreprocessorPragma
  | keywordPreprocessorR
  | keywordPreprocessorRegion
  | keywordPreprocessorRestore
  | keywordPreprocessorUndef
  | keywordPreprocessorWarning
  -- Query expressions
  | keywordQueryAscending
  | keywordQueryBy
  | keywordQueryDescending
  | keywordQueryEquals
  | keywordQueryFrom
  | keywordQueryGroup
  | keywordQueryIn
  | keywordQueryInto
  | keywordQueryJoin
  | keywordQueryLet
  | keywordQueryOn
  | keywordQueryOrderby
  | keywordQuerySelect
  | keywordQueryWhere
  -- Primitive types
  | keywordType
  -- Punctuation
  | punctuationAccessor
  | punctuationCurlybraceClose
  | punctuationCurlybraceOpen
  | punctuationDefinitionCharBegin
  | punctuationDefinitionCharEnd
  | punctuationDefinitionComment
  | punctuationDefinitionConstant
  | punctuationDefinitionInterpolationBegin
  | punctuationDefinitionInterpolationEnd
  | punctuationDefinitionStringBegin
  | punctuationDefinitionStringEnd
  | punctuationDefinitionTag
  | punctuationDefinitionTypeparametersBegin
  | punctuationDefinitionTypeparametersEnd
  | punctuationParenthesisClose
  | punctuationParenthesisOpen
  | punctuationSeparatorColon
  | punctuationSeparatorColoncolon
  | punctuationSeparatorComma
  | punctuationSeparatorEquals
  | punctuationSeparatorHash
  | punctuationSeparatorQuestionMark
  | punctuationSquarebracketClose
  | punctuationSquarebracketOpen
  | punctuationTerminatorStatement
  | punctuationTilde
  | punctuationWhitespaceCommentLeading
  -- Storage
  | storageModifier
  | storageType
  -- Strings
  | stringQuotedDouble
  | stringQuotedSingle
  | stringUnquotedCdata
  | stringUnquotedPreprocessorMessage
  -- Variables
  | variableOtherAlias
  | variableOtherObject
  | variableOtherObjectProperty
  | variableOtherReadwrite
  deriving DecidableEq, Repr

namespace Scope

def raw : Scope -> String
  | metaInterpolation => "meta.interpolation.mana"
  | metaPreprocessor => "meta.preprocessor.mana"
  | metaTag => "meta.tag.mana"
  | metaTypeParameters => "meta.type.parameters.mana"
  | source => "source.mana"
  | commentBlockDocumentation => "comment.block.documentation.mana"
  | commentBlock => "comment.block.mana"
  | commentLineDoubleSlash => "comment.line.double-slash.mana"
  | constantCharacterEntity => "constant.character.entity.mana"
  | constantCharacterEscape => "constant.character.escape.mana"
  | constantLanguageBooleanFalse => "constant.language.boolean.false.mana"
  | constantLanguageBooleanTrue => "constant.language.boolean.true.mana"
  | constantLanguageNull => "constant.language.null.mana"
  | constantNumericBinary => "constant.numeric.binary.mana"
  | constantNumericDecimal => "constant.numeric.decimal.mana"
  | constantNumericHex => "constant.numeric.hex.mana"
  | constantNumericOtherExponent => "constant.numeric.other.exponent.mana"
  | constantNumericOtherPrefixBinary => "constant.numeric.other.preffix.binary.mana"
  | constantNumericOtherPrefixHex => "constant.numeric.other.preffix.hex.mana"
  | constantNumericOtherSeparatorDecimals => "constant.numeric.other.separator.decimals.mana"
  | constantNumericOtherSeparatorThousands => "constant.numeric.other.separator.thousands.mana"
  | constantNumericOtherSuffix => "constant.numeric.other.suffix.mana"
  | entityNameFunction => "entity.name.function.mana"
  | entityNameLabel => "entity.name.label.mana"
  | entityNameTagLocalname => "entity.name.tag.localname.mana"
  | entityNameTypeAlias => "entity.name.type.alias.mana"
  | entityNameTypeClass => "entity.name.type.class.mana"
  | entityNameTypeDelegate => "entity.name.type.delegate.mana"
  | entityNameTypeEnum => "entity.name.type.enum.mana"
  | entityNameTypeInterface => "entity.name.type.interface.mana"
  | entityNameTypeNamespace => "entity.name.type.namespace.mana"
  | entityNameTypeRecord => "entity.name.type.record.mana"
  | entityNameTypeStruct => "entity.name.type.struct.mana"
  | entityNameTypeTypeParameter => "entity.name.type.type-parameter.mana"
  | entityNameVariableEnumMember => "entity.name.variable.enum-member.mana"
  | entityNameVariableEvent => "entity.name.variable.event.mana"
  | entityNameVariableField => "entity.name.variable.field.mana"
  | entityNameVariableLocal => "entity.name.variable.local.mana"
  | entityNameVariableParameter => "entity.name.variable.parameter.mana"
  | entityNameVariablePreprocessorSymbol => "entity.name.variable.preprocessor.symbol.mana"
  | entityNameVariableProperty => "entity.name.variable.property.mana"
  | entityNameVariableRangeVariable => "entity.name.variable.range-variable.mana"
  | entityNameVariableTupleElement => "entity.name.variable.tuple-element.mana"
  | entityOtherAttributeNameLocalname => "entity.other.attribute-name.localname.mana"
  | invalidIllegalConstantNumeric => "invalid.illegal.constant.numeric.mana"
  | invalidIllegalNewline => "invalid.illegal.newline.mana"
  | keywordControlCase => "keyword.control.case.mana"
  | keywordControlConditionalElse => "keyword.control.conditional.else.mana"
  | keywordControlConditionalIf => "keyword.control.conditional.if.mana"
  | keywordControlDefault => "keyword.control.default.mana"
  | keywordControlFlowBreak => "keyword.control.flow.break.mana"
  | keywordControlFlowContinue => "keyword.control.flow.continue.mana"
  | keywordControlFlowReturn => "keyword.control.flow.return.mana"
  | keywordControlFlowThrow => "keyword.control.flow.throw.mana"
  | keywordControlFlowYield => "keyword.control.flow.yield.mana"
  | keywordControlGoto => "keyword.control.goto.mana"
  | keywordControlLoopDo => "keyword.control.loop.do.mana"
  | keywordControlLoopFor => "keyword.control.loop.for.mana"
  | keywordControlLoopForeach => "keyword.control.loop.foreach.mana"
  | keywordControlLoopIn => "keyword.control.loop.in.mana"
  | keywordControlLoopWhile => "keyword.control.loop.while.mana"
  | keywordControlSwitch => "keyword.control.switch.mana"
  | keywordControlTryCatch => "keyword.control.try.catch.mana"
  | keywordControlTryFinally => "keyword.control.try.finally.mana"
  | keywordControlTry => "keyword.control.try.mana"
  | keywordControlTryWhen => "keyword.control.try.when.mana"
  | keywordOperatorArithmetic => "keyword.operator.arithmetic.mana"
  | keywordOperatorArrow => "keyword.operator.arrow.mana"
  | keywordOperatorAssignmentCompoundBitwise => "keyword.operator.assignment.compound.bitwise.mana"
  | keywordOperatorAssignmentCompound => "keyword.operator.assignment.compound.mana"
  | keywordOperatorAssignment => "keyword.operator.assignment.mana"
  | keywordOperatorBitwise => "keyword.operator.bitwise.mana"
  | keywordOperatorBitwiseShift => "keyword.operator.bitwise.shift.mana"
  | keywordOperatorComparison => "keyword.operator.comparison.mana"
  | keywordOperatorConditionalColon => "keyword.operator.conditional.colon.mana"
  | keywordOperatorConditionalQuestionMark => "keyword.operator.conditional.question-mark.mana"
  | keywordOperatorDecrement => "keyword.operator.decrement.mana"
  | keywordOperatorIncrement => "keyword.operator.increment.mana"
  | keywordOperatorLogical => "keyword.operator.logical.mana"
  | keywordOperatorNullCoalescing => "keyword.operator.null-coalescing.mana"
  | keywordOperatorNullConditional => "keyword.operator.null-conditional.mana"
  | keywordOperatorRelational => "keyword.operator.relational.mana"
  | keywordOtherAdd => "keyword.other.add.mana"
  | keywordOtherAlias => "keyword.other.alias.mana"
  | keywordOtherAs => "keyword.other.as.mana"
  | keywordOtherAttributeSpecifier => "keyword.other.attribute-specifier.mana"
  | keywordOtherAwait => "keyword.other.await.mana"
  | keywordOtherBase => "keyword.other.base.mana"
  | keywordOtherChecked => "keyword.other.checked.mana"
  | keywordOtherClass => "keyword.other.class.mana"
  | keywordOtherDefault => "keyword.other.default.mana"
  | keywordOtherDelegate => "keyword.other.delegate.mana"
  | keywordOtherEnum => "keyword.other.enum.mana"
  | keywordOtherEvent => "keyword.other.event.mana"
  | keywordOtherExplicit => "keyword.other.explicit.mana"
  | keywordOtherExtern => "keyword.other.extern.mana"
  | keywordOtherGet => "keyword.other.get.mana"
  | keywordOtherImplicit => "keyword.other.implicit.mana"
  | keywordOtherInit => "keyword.other.init.mana"
  | keywordOtherInterface => "keyword.other.interface.mana"
  | keywordOtherIs => "keyword.other.is.mana"
  | keywordOtherLock => "keyword.other.lock.mana"
  | keywordOtherNameof => "keyword.other.nameof.mana"
  | keywordOtherNamespace => "keyword.other.namespace.mana"
  | keywordOtherNew => "keyword.other.new.mana"
  | keywordOtherOperatorDecl => "keyword.other.operator-decl.mana"
  | keywordOtherRecord => "keyword.other.record.mana"
  | keywordOtherRemove => "keyword.other.remove.mana"
  | keywordOtherSet => "keyword.other.set.mana"
  | keywordOtherStatic => "keyword.other.static.mana"
  | keywordOtherStruct => "keyword.other.struct.mana"
  | keywordOtherThis => "keyword.other.this.mana"
  | keywordOtherTypeof => "keyword.other.typeof.mana"
  | keywordOtherUnchecked => "keyword.other.unchecked.mana"
  | keywordOtherUsing => "keyword.other.using.mana"
  | keywordOtherVar => "keyword.other.var.mana"
  | keywordOtherWhere => "keyword.other.where.mana"
  | keywordPreprocessorChecksum => "keyword.preprocessor.checksum.mana"
  | keywordPreprocessorDefault => "keyword.preprocessor.default.mana"
  | keywordPreprocessorDefine => "keyword.preprocessor.define.mana"
  | keywordPreprocessorDisable => "keyword.preprocessor.disable.mana"
  | keywordPreprocessorElif => "keyword.preprocessor.elif.mana"
  | keywordPreprocessorElse => "keyword.preprocessor.else.mana"
  | keywordPreprocessorEndif => "keyword.preprocessor.endif.mana"
  | keywordPreprocessorEndregion => "keyword.preprocessor.endregion.mana"
  | keywordPreprocessorError => "keyword.preprocessor.error.mana"
  | keywordPreprocessorHidden => "keyword.preprocessor.hidden.mana"
  | keywordPreprocessorIf => "keyword.preprocessor.if.mana"
  | keywordPreprocessorLine => "keyword.preprocessor.line.mana"
  | keywordPreprocessorLoad => "keyword.preprocessor.load.mana"
  | keywordPreprocessorPragma => "keyword.preprocessor.pragma.mana"
  | keywordPreprocessorR => "keyword.preprocessor.r.mana"
  | keywordPreprocessorRegion => "keyword.preprocessor.region.mana"
  | keywordPreprocessorRestore => "keyword.preprocessor.restore.mana"
  | keywordPreprocessorUndef => "keyword.preprocessor.undef.mana"
  | keywordPreprocessorWarning => "keyword.preprocessor.warning.mana"
  | keywordQueryAscending => "keyword.query.ascending.mana"
  | keywordQueryBy => "keyword.query.by.mana"
  | keywordQueryDescending => "keyword.query.descending.mana"
  | keywordQueryEquals => "keyword.query.equals.mana"
  | keywordQueryFrom => "keyword.query.from.mana"
  | keywordQueryGroup => "keyword.query.group.mana"
  | keywordQueryIn => "keyword.query.in.mana"
  | keywordQueryInto => "keyword.query.into.mana"
  | keywordQueryJoin => "keyword.query.join.mana"
  | keywordQueryLet => "keyword.query.let.mana"
  | keywordQueryOn => "keyword.query.on.mana"
  | keywordQueryOrderby => "keyword.query.orderby.mana"
  | keywordQuerySelect => "keyword.query.select.mana"
  | keywordQueryWhere => "keyword.query.where.mana"
  | keywordType => "keyword.type.mana"
  | punctuationAccessor => "punctuation.accessor.mana"
  | punctuationCurlybraceClose => "punctuation.curlybrace.close.mana"
  | punctuationCurlybraceOpen => "punctuation.curlybrace.open.mana"
  | punctuationDefinitionCharBegin => "punctuation.definition.char.begin.mana"
  | punctuationDefinitionCharEnd => "punctuation.definition.char.end.mana"
  | punctuationDefinitionComment => "punctuation.definition.comment.mana"
  | punctuationDefinitionConstant => "punctuation.definition.constant.mana"
  | punctuationDefinitionInterpolationBegin => "punctuation.definition.interpolation.begin.mana"
  | punctuationDefinitionInterpolationEnd => "punctuation.definition.interpolation.end.mana"
  | punctuationDefinitionStringBegin => "punctuation.definition.string.begin.mana"
  | punctuationDefinitionStringEnd => "punctuation.definition.string.end.mana"
  | punctuationDefinitionTag => "punctuation.definition.tag.mana"
  | punctuationDefinitionTypeparametersBegin => "punctuation.definition.typeparameters.begin.mana"
  | punctuationDefinitionTypeparametersEnd => "punctuation.definition.typeparameters.end.mana"
  | punctuationParenthesisClose => "punctuation.parenthesis.close.mana"
  | punctuationParenthesisOpen => "punctuation.parenthesis.open.mana"
  | punctuationSeparatorColon => "punctuation.separator.colon.mana"
  | punctuationSeparatorColoncolon => "punctuation.separator.coloncolon.mana"
  | punctuationSeparatorComma => "punctuation.separator.comma.mana"
  | punctuationSeparatorEquals => "punctuation.separator.equals.mana"
  | punctuationSeparatorHash => "punctuation.separator.hash.mana"
  | punctuationSeparatorQuestionMark => "punctuation.separator.question-mark.mana"
  | punctuationSquarebracketClose => "punctuation.squarebracket.close.mana"
  | punctuationSquarebracketOpen => "punctuation.squarebracket.open.mana"
  | punctuationTerminatorStatement => "punctuation.terminator.statement.mana"
  | punctuationTilde => "punctuation.tilde.mana"
  | punctuationWhitespaceCommentLeading => "punctuation.whitespace.comment.leading.mana"
  | storageModifier => "storage.modifier.mana"
  | storageType => "storage.type.mana"
  | stringQuotedDouble => "string.quoted.double.mana"
  | stringQuotedSingle => "string.quoted.single.mana"
  | stringUnquotedCdata => "string.unquoted.cdata.mana"
  | stringUnquotedPreprocessorMessage => "string.unquoted.preprocessor.message.mana"
  | variableOtherAlias => "variable.other.alias.mana"
  | variableOtherObject => "variable.other.object.mana"
  | variableOtherObjectProperty => "variable.other.object.property.mana"
  | variableOtherReadwrite => "variable.other.readwrite.mana"

def all : List Scope :=
  [metaInterpolation, metaPreprocessor, metaTag, metaTypeParameters, source,
   commentBlockDocumentation, commentBlock, commentLineDoubleSlash, constantCharacterEntity,
   constantCharacterEscape, constantLanguageBooleanFalse, constantLanguageBooleanTrue,
   constantLanguageNull, constantNumericBinary, constantNumericDecimal, constantNumericHex,
   constantNumericOtherExponent, constantNumericOtherPrefixBinary, constantNumericOtherPrefixHex,
   constantNumericOtherSeparatorDecimals, constantNumericOtherSeparatorThousands,
   constantNumericOtherSuffix, entityNameFunction, entityNameLabel, entityNameTagLocalname,
   entityNameTypeAlias, entityNameTypeClass, entityNameTypeDelegate, entityNameTypeEnum,
   entityNameTypeInterface, entityNameTypeNamespace, entityNameTypeRecord, entityNameTypeStruct,
   entityNameTypeTypeParameter, entityNameVariableEnumMember, entityNameVariableEvent,
   entityNameVariableField, entityNameVariableLocal, entityNameVariableParameter,
   entityNameVariablePreprocessorSymbol, entityNameVariableProperty,
   entityNameVariableRangeVariable, entityNameVariableTupleElement,
   entityOtherAttributeNameLocalname, invalidIllegalConstantNumeric, invalidIllegalNewline,
   keywordControlCase, keywordControlConditionalElse, keywordControlConditionalIf,
   keywordControlDefault, keywordControlFlowBreak, keywordControlFlowContinue,
   keywordControlFlowReturn, keywordControlFlowThrow, keywordControlFlowYield, keywordControlGoto,
   keywordControlLoopDo, keywordControlLoopFor, keywordControlLoopForeach, keywordControlLoopIn,
   keywordControlLoopWhile, keywordControlSwitch, keywordControlTryCatch,
   keywordControlTryFinally, keywordControlTry, keywordControlTryWhen, keywordOperatorArithmetic,
   keywordOperatorArrow, keywordOperatorAssignmentCompoundBitwise,
   keywordOperatorAssignmentCompound, keywordOperatorAssignment, keywordOperatorBitwise,
   keywordOperatorBitwiseShift, keywordOperatorComparison, keywordOperatorConditionalColon,
   keywordOperatorConditionalQuestionMark, keywordOperatorDecrement, keywordOperatorIncrement,
   keywordOperatorLogical, keywordOperatorNullCoalescing, keywordOperatorNullConditional,
   keywordOperatorRelational, keywordOtherAdd, keywordOtherAlias, keywordOtherAs,
   keywordOtherAttributeSpecifier, keywordOtherAwait, keywordOtherBase, keywordOtherChecked,
   keywordOtherClass, keywordOtherDefault, keywordOtherDelegate, keywordOtherEnum,
   keywordOtherEvent, keywordOtherExplicit, keywordOtherExtern, keywordOtherGet,
   keywordOtherImplicit, keywordOtherInit, keywordOtherInterface, keywordOtherIs,
   keywordOtherLock, keywordOtherNameof, keywordOtherNamespace, keywordOtherNew,
   keywordOtherOperatorDecl, keywordOtherRecord, keywordOtherRemove, keywordOtherSet,
   keywordOtherStatic, keywordOtherStruct, keywordOtherThis, keywordOtherTypeof,
   keywordOtherUnchecked, keywordOtherUsing, keywordOtherVar, keywordOtherWhere,
   keywordPreprocessorChecksum, keywordPreprocessorDefault, keywordPreprocessorDefine,
   keywordPreprocessorDisable, keywordPreprocessorElif, keywordPreprocessorElse,
   keywordPreprocessorEndif, keywordPreprocessorEndregion, keywordPreprocessorError,
   keywordPreprocessorHidden, keywordPreprocessorIf, keywordPreprocessorLine,
   keywordPreprocessorLoad, keywordPreprocessorPragma, keywordPreprocessorR,
   keywordPreprocessorRegion, keywordPreprocessorRestore, keywordPreprocessorUndef,
   keywordPreprocessorWarning, keywordQueryAscending, keywordQueryBy, keywordQueryDescending,
   keywordQueryEquals, keywordQueryFrom, keywordQueryGroup, keywordQueryIn, keywordQueryInto,
   keywordQueryJoin, keywordQueryLet, keywordQueryOn, keywordQueryOrderby, keywordQuerySelect,
   keywordQueryWhere, keywordType, punctuationAccessor, punctuationCurlybraceClose,
   punctuationCurlybraceOpen, punctuationDefinitionCharBegin, punctuationDefinitionCharEnd,
   punctuationDefinitionComment, punctuationDefinitionConstant,
   punctuationDefinitionInterpolationBegin, punctuationDefinitionInterpolationEnd,
   punctuationDefinitionStringBegin, punctuationDefinitionStringEnd, punctuationDefinitionTag,
   punctuationDefinitionTypeparametersBegin, punctuationDefinitionTypeparametersEnd,
   punctuationParenthesisClose, punctuationParenthesisOpen, punctuationSeparatorColon,
   punctuationSeparatorColoncolon, punctuationSeparatorComma, punctuationSeparatorEquals,
   punctuationSeparatorHash, punctuationSeparatorQuestionMark, punctuationSquarebracketClose,
   punctuationSquarebracketOpen, punctuationTerminatorStatement, punctuationTilde,
   punctuationWhitespaceCommentLeading, storageModifier, storageType, stringQuotedDouble,
   stringQuotedSingle, stringUnquotedCdata, stringUnquotedPreprocessorMessage, variableOtherAlias,
   variableOtherObject, variableOtherObjectProperty, variableOtherReadwrite]

/-- The scope with a given raw name, if the vocabulary has one. -/
def ofRaw? (name : String) : Option Scope :=
  all.find? (fun scope => scope.raw == name)

def label (scope : Scope) : String :=
  match scope with
  -- The raw names spell this word with a double f, the labels do not.
  | constantNumericOtherPrefixBinary => "CONSTANT_NUMERIC_OTHER_PREFIX_BINARY"
  | constantNumericOtherPrefixHex => "CONSTANT_NUMERIC_OTHER_PREFIX_HEX"
  | _ =>
      let letters := scope.raw.toList
      String.ofList <| (letters.take (letters.length - ".mana".length)).map
        fun c => if c = '.' ∨ c = '-' then '_' else c.toUpper

def carriers : List Scope :=
  [source, metaInterpolation, metaPreprocessor, metaTag, metaTypeParameters]

def isCarrier (scope : Scope) : Bool :=
  carriers.contains scope

theorem getElem?_all (scope : Scope) : all[scope.ctorIdx]? = some scope := by
  cases scope <;> rfl

theorem mem_all (scope : Scope) : scope ∈ all :=
  List.mem_of_getElem? (getElem?_all scope)

theorem raw_ofRaw? {name : String} {scope : Scope} (h : ofRaw? name = some scope) :
    scope.raw = name := by
  simpa using List.find?_some h

end Scope
end ScopeProbe
