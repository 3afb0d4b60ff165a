import ScopeProbe.Text.Basic

/-!
# Paths

Slash-separated paths in their normal form: empty parts and parts that are a single dot vanish,
parts of two dots stay.  A path of no parts that is anchored nowhere is a dot.  Exactly two
slashes in front are an anchor of their own.  Whether anything exists at a path is no question
here.
-/

namespace ScopeProbe

inductive Anchor where
  | relative
  | root
  | doubleRoot
  | workingDirectory
  deriving DecidableEq, Repr

namespace Anchor

def text : Anchor -> String
  | relative => ""
  | root => "/"
  | doubleRoot => "//"
  | workingDirectory => "<cwd>"

def separator : Anchor -> String
  | workingDirectory => "/"
  | _ => ""

end Anchor

structure Path where
  anchor : Anchor
  parts : List String
  deriving DecidableEq, Repr

namespace Path

/-!
# Reading
-/

def anchorOf (slashes : Nat) : Anchor :=
  if slashes = 0 then .relative else if slashes = 2 then .doubleRoot else .root

def ofText (text : Text) : Path where
  anchor := anchorOf (text.takeWhile (· == '/')).length
  parts := ((text.parts '/').filter fun part => !part.isEmpty && part != ['.']).map String.ofList

def ofString (text : String) : Path :=
  ofText text.toList

/-!
# Writing
-/

def toString (path : Path) : String :=
  if path.anchor = .relative ∧ path.parts = [] then "."
  else
    let inner := "/".intercalate path.parts
    if path.parts = [] then path.anchor.text
    else path.anchor.text ++ path.anchor.separator ++ inner

/-!
# Operations
-/

def workingDirectory : Path :=
  { anchor := .workingDirectory, parts := [] }

/-- A path seen from another one: an absolute path replaces the base, a relative one continues
it. -/
def join (base path : Path) : Path :=
  if path.anchor = .relative then { base with parts := base.parts ++ path.parts } else path

def parent (path : Path) : Path :=
  { path with parts := path.parts.dropLast }

def name (path : Path) : Text :=
  (path.parts.getLast?.getD "").toList

/-- The end of a name from its last dot on.  The dot must be neither the first nor the last
character of the name; otherwise the suffix is empty. -/
def suffix (path : Path) : Text :=
  let fromEnd := path.name.reverse
  let last := fromEnd.takeWhile (· != '.')
  if last.isEmpty || path.name.length <= last.length + 1 then [] else '.' :: last.reverse

theorem join_absolute (base : Path) {path : Path} (h : path.anchor ≠ .relative) :
    base.join path = path := by
  simp [join, h]

end Path
end ScopeProbe
