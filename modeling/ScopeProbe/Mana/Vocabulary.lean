import ScopeProbe.Mana.Declaration
import ScopeProbe.Text.Basic
import ScopeProbe.Unicode.Digit
import ScopeProbe.Unicode.Letter
import ScopeProbe.Unicode.Numeral

/-!
# Vocabulary of the mana subset

Character classes, reserved words, directives, operators and punctuation marks, each with the scope
under which it is reported.
-/

namespace ScopeProbe
namespace Mana

/-!
# Characters
-/

def isBlank (c : Char) : Bool :=
  c == ' ' || c == '\t'

def isWordStart (c : Char) : Bool :=
  c == '_' || Unicode.isLetter c

def isWordChar (c : Char) : Bool :=
  c == '_' || Unicode.isLetter c || Unicode.isNumeral c

theorem isWordChar_of_isWordStart {c : Char} (h : isWordStart c = true) : isWordChar c = true := by
  rw [isWordStart] at h
  rw [isWordChar, h, Bool.true_or]

def isSuffix (c : Char) : Bool :=
  "fFdDmMlLuU".toList.contains c

def endsPlain (interpolated : Bool) (c : Char) : Bool :=
  c == '"' || c == '\\' || (interpolated && c == '\x7b')

/-!
# Words
-/

inductive Reserved where
  | modifier
  | declaration (kind : Declaration)
  | primitive
  | var
  | keyword (scope : Scope)
  deriving DecidableEq, Repr

namespace Reserved

def scope : Reserved -> Scope
  | modifier => .storageModifier
  | declaration kind => kind.keywordScope
  | primitive => .keywordType
  | var => .keywordOtherVar
  | keyword scope => scope

/-- Whether a word names a type, so that a field or a variable may follow. -/
def namesType : Reserved -> Bool
  | primitive | var => true
  | _ => false

end Reserved

def modifiers : List Text :=
  ["abstract", "async", "const", "extern", "internal", "new", "override", "partial", "private",
   "protected", "public", "readonly", "sealed", "static", "unsafe", "virtual"].map String.toList

def primitives : List Text :=
  ["bool", "byte", "char", "decimal", "double", "float", "half", "int32", "int64", "object",
   "sbyte", "short", "string", "uint32", "uint64", "ushort", "void"].map String.toList

def keywords : List (Text × Scope) :=
  [("if".toList, .keywordControlConditionalIf),
   ("else".toList, .keywordControlConditionalElse),
   ("return".toList, .keywordControlFlowReturn),
   ("while".toList, .keywordControlLoopWhile),
   ("for".toList, .keywordControlLoopFor),
   ("true".toList, .constantLanguageBooleanTrue),
   ("false".toList, .constantLanguageBooleanFalse),
   ("null".toList, .constantLanguageNull),
   ("this".toList, .keywordOtherThis),
   ("using".toList, .keywordOtherUsing)]

def reservedWords : List (Text × Reserved) :=
  modifiers.map (·, .modifier) ++
    Declaration.all.map (fun kind => (kind.keyword.toList, .declaration kind)) ++
    primitives.map (·, .primitive) ++
    [("var".toList, .var)] ++
    keywords.map fun (word, scope) => (word, .keyword scope)

def reserved? (word : Text) : Option Reserved :=
  reservedWords.lookup word

/-!
# Directives
-/

def directives : List (Text × Scope) :=
  [("define".toList, .keywordPreprocessorDefine),
   ("undef".toList, .keywordPreprocessorUndef),
   ("if".toList, .keywordPreprocessorIf),
   ("elif".toList, .keywordPreprocessorElif),
   ("else".toList, .keywordPreprocessorElse),
   ("endif".toList, .keywordPreprocessorEndif),
   ("region".toList, .keywordPreprocessorRegion),
   ("endregion".toList, .keywordPreprocessorEndregion),
   ("error".toList, .keywordPreprocessorError),
   ("warning".toList, .keywordPreprocessorWarning)]

def messageDirectives : List Text :=
  ["region", "endregion", "error", "warning"].map String.toList

/-!
# Operators and punctuation
-/

/-- The operators, longer ones first. -/
def operators : List (Text × Scope) :=
  [(">>=".toList, .keywordOperatorAssignmentCompoundBitwise),
   ("<<=".toList, .keywordOperatorAssignmentCompoundBitwise),
   ("??=".toList, .keywordOperatorAssignmentCompound),
   ("+=".toList, .keywordOperatorAssignmentCompound),
   ("-=".toList, .keywordOperatorAssignmentCompound),
   ("*=".toList, .keywordOperatorAssignmentCompound),
   ("/=".toList, .keywordOperatorAssignmentCompound),
   ("%=".toList, .keywordOperatorAssignmentCompound),
   ("&=".toList, .keywordOperatorAssignmentCompoundBitwise),
   ("|=".toList, .keywordOperatorAssignmentCompoundBitwise),
   ("^=".toList, .keywordOperatorAssignmentCompoundBitwise),
   ("=>".toList, .keywordOperatorArrow),
   ("==".toList, .keywordOperatorComparison),
   ("!=".toList, .keywordOperatorComparison),
   ("<=".toList, .keywordOperatorRelational),
   (">=".toList, .keywordOperatorRelational),
   ("&&".toList, .keywordOperatorLogical),
   ("||".toList, .keywordOperatorLogical),
   ("++".toList, .keywordOperatorIncrement),
   ("--".toList, .keywordOperatorDecrement),
   ("<<".toList, .keywordOperatorBitwiseShift),
   (">>".toList, .keywordOperatorBitwiseShift),
   ("??".toList, .keywordOperatorNullCoalescing),
   ("+".toList, .keywordOperatorArithmetic),
   ("-".toList, .keywordOperatorArithmetic),
   ("*".toList, .keywordOperatorArithmetic),
   ("/".toList, .keywordOperatorArithmetic),
   ("%".toList, .keywordOperatorArithmetic),
   ("&".toList, .keywordOperatorBitwise),
   ("|".toList, .keywordOperatorBitwise),
   ("^".toList, .keywordOperatorBitwise),
   ("~".toList, .keywordOperatorBitwise),
   ("!".toList, .keywordOperatorLogical),
   ("<".toList, .keywordOperatorRelational),
   (">".toList, .keywordOperatorRelational),
   ("=".toList, .keywordOperatorAssignment),
   ("?".toList, .keywordOperatorConditionalQuestionMark),
   (":".toList, .keywordOperatorConditionalColon)]

def operator? (text : Text) : Option (Text × Scope) :=
  operators.find? fun (operator, _) => operator.isPrefixOf text

def punctuation : List (Char × Scope) :=
  [('\x7b', .punctuationCurlybraceOpen),
   ('\x7d', .punctuationCurlybraceClose),
   ('(', .punctuationParenthesisOpen),
   (')', .punctuationParenthesisClose),
   ('[', .punctuationSquarebracketOpen),
   (']', .punctuationSquarebracketClose),
   (';', .punctuationTerminatorStatement),
   (',', .punctuationSeparatorComma),
   ('.', .punctuationAccessor)]

end Mana
end ScopeProbe
