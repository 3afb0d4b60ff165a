import ScopeProbe.Text.Basic

/-!
# Excerpts

Some grammar rules apply in context only: a name is a class name only behind `class`, a member
declaration stands only in the body of a type.  So a fragment is placed into a minimal piece of
source before it is read.  An excerpt holds the lines of that source and the span in which the
fragment stands, by which everything the surroundings add can be told apart from the fragment.
-/

namespace ScopeProbe

/-!
# Spans
-/

/-- A region of lines.  Lines and indices count from zero, and the end index is the first one behind
the region. -/
structure Span where
  startLine : Int
  startIndex : Int
  endLine : Int
  endIndex : Int
  deriving DecidableEq, Repr

namespace Span

def isEmpty (span : Span) : Bool :=
  span.startLine == span.endLine && span.endIndex <= span.startIndex

end Span

/-!
# Surroundings
-/

inductive Surroundings where
  | enumBody
  | classBody
  | interfaceBody
  | structBody
  | methodBody
  | namespaceBody
  deriving DecidableEq, Repr

/-- Source around a fragment: the lines before, the indentation of its first line, the lines
after. -/
structure Template where
  header : List Text
  indent : Nat
  trailer : List Text

namespace Template

def body (opening : String) : Template where
  header := [[], opening.toList]
  indent := 4
  trailer := ["\x7d".toList]

end Template

def Surroundings.template : Surroundings -> Template
  | enumBody => .body "enum TestEnum \x7b"
  | classBody => .body "class TestClass \x7b"
  | interfaceBody => .body "interface TestInterface \x7b"
  | structBody => .body "struct TestStruct \x7b"
  | namespaceBody => .body "namespace TestNamespace \x7b"
  | methodBody =>
      { header := [[], "class TestClass \x7b".toList, "    void TestMethod() \x7b".toList]
        indent := 8
        trailer := ["    \x7d".toList, "\x7d".toList] }

/-!
# Excerpts
-/

structure Excerpt where
  lines : List Text
  span : Span
  deriving DecidableEq, Repr

namespace Excerpt

def lastLength (lines : List Text) : Nat :=
  (lines.getLast?.getD []).length

def ofText (text : Text) : Excerpt :=
  let lines := text.unifyNewlines.lines
  { lines
    span := ⟨0, 0, lines.length - 1, lastLength lines⟩ }

/-- Puts blanks in front of the first line only: later lines keep the blanks they have. -/
def indentFirst (indent : Nat) : List Text -> List Text
  | [] => []
  | first :: more => (List.replicate indent ' ' ++ first) :: more

def fill (template : Template) (fragment : Text) : Excerpt :=
  let inner := indentFirst template.indent fragment.unifyNewlines.lines
  let startLine := template.header.length
  { lines := template.header ++ inner ++ template.trailer
    span := ⟨startLine, template.indent, startLine + inner.length - 1, lastLength inner⟩ }

def inside (place : Surroundings) (fragment : Text) : Excerpt :=
  fill place.template fragment

def text (excerpt : Excerpt) : Text :=
  Text.unlines excerpt.lines

end Excerpt
end ScopeProbe
