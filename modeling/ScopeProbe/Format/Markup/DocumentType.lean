import ScopeProbe.Format.Markup.Basic

/-!
# Document types

The type of a document says what its elements and attributes are and what its entities stand for.
Only its form is checked here, and what it says of entities: whether a reference to an entity that
is not declared may be passed over.  A document that declares entities of its own is not accepted.

A declaration is a row of marks up to its closing sign, so it is first cut into marks and then
compared with the forms that a declaration can have.
-/

namespace ScopeProbe
namespace Format
namespace Markup

/-!
# Marks
-/

inductive Mark where
  | name (name : Text)
  | token (text : Text)
  | repeated (name : Text)
  | keyword (word : Text)
  | literal (text : Text)
  | openGroup
  | closeGroup (sign : Option Char)
  | comma
  | bar
  | percent
  deriving DecidableEq, Repr

def goesOn (signs : String) (text : Text) : Bool :=
  text.head?.any fun c => isBlank c || signs.toList.contains c

def repetitions : List Char :=
  ['?', '*', '+']

def word? (alphabet : Alphabet) (text : Text) : Option (Mark × Text) :=
  let word := text.takeWhile alphabet.continues
  let isName := word.head?.any alphabet.begins
  match word, text.dropWhile alphabet.continues with
  | [], _ | _, [] => none
  | word, c :: rest =>
      if repetitions.contains c then if isName then some (.repeated word, rest) else none
      else if goesOn ">),|[%" (c :: rest) then
        some (if isName then .name word else .token word, c :: rest)
      else none

def mark? (alphabet : Alphabet) (c : Char) (rest : Text) : Option (Mark × Text) :=
  match c with
  | '(' => some (.openGroup, rest)
  | ')' =>
      match rest with
      | sign :: behind =>
          if repetitions.contains sign then some (.closeGroup sign, behind)
          else if goesOn ">,|)" rest then some (.closeGroup none, rest)
          else none
      | [] => none
  | ',' => some (.comma, rest)
  | '|' => some (.bar, rest)
  | '%' => if goesOn "%" rest then some (.percent, rest) else none
  | '#' => do
      let (word, behind) ← name? alphabet rest
      if goesOn ")>%|" behind then some (.keyword word, behind) else none
  | _ =>
      match literal? (c :: rest) with
      | some (text, behind) =>
          if text.all isAllowed && goesOn ">%[" behind then some (.literal text, behind) else none
      | none => word? alphabet (c :: rest)

/-- The marks up to the sign that closes a declaration, or up to the bracket that opens the
declarations inside of it. -/
structure Marks where
  marks : List Mark
  opensBracket : Bool
  rest : Text

def marksWithin (alphabet : Alphabet) : Nat -> Text -> Option Marks
  | 0, _ => none
  | bound + 1, text =>
      match skipBlanks text with
      | [] => none
      | '>' :: rest => some { marks := [], opensBracket := false, rest }
      | '[' :: rest => some { marks := [], opensBracket := true, rest }
      | c :: rest => do
          let (mark, rest) ← mark? alphabet c rest
          let more ← marksWithin alphabet bound rest
          some { more with marks := mark :: more.marks }

def marks? (alphabet : Alphabet) (text : Text) : Option Marks :=
  marksWithin alphabet (text.length + 1) text

/-!
# Forms of declarations
-/

def isPublic (c : Char) : Bool :=
  c.isAlphanum || " \n-'()+,./:=?;!*#@$_%".toList.contains c

def afterPlace? : List Mark -> Option (List Mark)
  | .name kind :: .literal text :: rest =>
      if kind = "SYSTEM".toList then some rest
      else if kind = "PUBLIC".toList && text.all isPublic then
        match rest with
        | .literal _ :: rest => some rest
        | _ => none
      else none
  | _ => none

def isPlace (marks : List Mark) : Bool :=
  afterPlace? marks = some []

def areChoices : List Mark -> Bool
  | [.closeGroup (some '*')] => true
  | .bar :: .name _ :: rest => areChoices rest
  | _ => false

/-- Whether marks go on a content of groups, given for each open group the sign between its parts
as far as it is known, the innermost group first, and whether a part must come next.  The sign is
the same throughout a group. -/
def areGroups : List (Option Mark) -> Bool -> List Mark -> Bool
  | groups, _, [] => groups.isEmpty
  | [], _, _ :: _ => false
  | group :: outer, true, mark :: rest =>
      match mark with
      | .openGroup => areGroups (none :: group :: outer) true rest
      | .name _ | .repeated _ => areGroups (group :: outer) false rest
      | _ => false
  | group :: outer, false, mark :: rest =>
      match mark with
      | .closeGroup _ => areGroups outer false rest
      | .comma | .bar => group.all (· = mark) && areGroups (some mark :: outer) true rest
      | _ => false

def isContent : List Mark -> Bool
  | [.name word] => word = "EMPTY".toList || word = "ANY".toList
  | .openGroup :: .keyword word :: rest =>
      word = "PCDATA".toList && (rest = [.closeGroup none] || areChoices rest)
  | .openGroup :: rest => areGroups [none] true rest
  | _ => false

def isElement : List Mark -> Bool
  | .name _ :: content => isContent content
  | _ => false

def isNotation : List Mark -> Bool
  | [.name _, .name kind, .literal text] =>
      kind = "SYSTEM".toList || (kind = "PUBLIC".toList && text.all isPublic)
  | .name _ :: place => isPlace place
  | _ => false

/-!
# Attributes
-/

def attributeTypes : List Text :=
  ["CDATA".toList, "ID".toList, "IDREF".toList, "IDREFS".toList, "ENTITY".toList,
   "ENTITIES".toList, "NMTOKEN".toList, "NMTOKENS".toList]

def afterChoices? (accepts : Mark -> Bool) : List Mark -> Option (List Mark)
  | choice :: .closeGroup none :: rest => if accepts choice then some rest else none
  | choice :: .bar :: rest => if accepts choice then afterChoices? accepts rest else none
  | _ => none

def isName : Mark -> Bool
  | .name _ => true
  | _ => false

def isNameOrToken : Mark -> Bool
  | .name _ | .token _ => true
  | _ => false

def afterType? : List Mark -> Option (List Mark)
  | .openGroup :: rest => afterChoices? isNameOrToken rest
  | .name word :: rest =>
      if attributeTypes.contains word then some rest
      else
        match rest with
        | .openGroup :: rest =>
            if word = "NOTATION".toList then afterChoices? isName rest else none
        | _ => none
  | _ => none

def default? : List Mark -> Option (Option Text × List Mark)
  | .literal text :: rest => some (some text, rest)
  | .keyword word :: rest =>
      if word = "FIXED".toList then
        match rest with
        | .literal text :: rest => some (some text, rest)
        | _ => none
      else if word = "IMPLIED".toList || word = "REQUIRED".toList then some (none, rest)
      else none
  | _ => none

def defaultsWithin : Nat -> List Mark -> Option (List Text)
  | _, [] => some []
  | bound + 1, .name _ :: rest => do
      let (value, rest) ← default? (← afterType? rest)
      let more ← defaultsWithin bound rest
      some (value.toList ++ more)
  | _, _ => none

def defaults? : List Mark -> Option (List Text)
  | .name _ :: rest => defaultsWithin rest.length rest
  | _ => none

/-!
# Declarations
-/

inductive Declaration where
  | reference
  | entity
  | predefined (isReadable : Bool)
  | attributes (references : Option (List Text))
  | other
  deriving DecidableEq, Repr

def isEntityText (alphabet : Alphabet) (text : Text) : Bool :=
  !text.contains '%' && (references? alphabet text).isSome

def declared (alphabet : Alphabet) (name : Text) (text : Option Text) : Declaration :=
  if (predefined.lookup name).isSome then .predefined (text.all (isEntityText alphabet))
  else .entity

def isEntityPlace (marks : List Mark) : Bool :=
  match afterPlace? marks with
  | some [] => true
  | some [.name word, .name _] => word = "NDATA".toList
  | _ => false

def entity? (alphabet : Alphabet) : List Mark -> Option Declaration
  | [.name name, .literal text] => some (declared alphabet name text)
  | .name name :: place => if isEntityPlace place then some (declared alphabet name none) else none
  | [.percent, .name _, .literal _] => some .entity
  | .percent :: .name _ :: place => if isPlace place then some .entity else none
  | _ => none

def Declaration.ofMarks? (alphabet : Alphabet) (word : Text) (marks : List Mark) :
    Option Declaration :=
  match String.ofList word with
  | "ELEMENT" => if isElement marks then some .other else none
  | "NOTATION" => if isNotation marks then some .other else none
  | "ATTLIST" =>
      (defaults? marks).map fun values =>
        .attributes ((values.mapM (valueReferences? alphabet)).map List.flatten)
  | "ENTITY" => entity? alphabet marks
  | _ => none

def declaration? (alphabet : Alphabet) (text : Text) : Option (Declaration × Text) := do
  let (word, rest) ← name? alphabet text
  let found ← marks? alphabet (← skipGap? rest)
  if found.opensBracket then none
  else some (← Declaration.ofMarks? alphabet word found.marks, found.rest)

def declarationsWithin (alphabet : Alphabet) : Nat -> Text -> Option (List Declaration × Text)
  | 0, _ => none
  | bound + 1, text =>
      match skipBlanks text with
      | ']' :: rest => some ([], rest)
      | '%' :: rest => do
          let (_, rest) ← name? alphabet rest
          let (more, rest) ← declarationsWithin alphabet bound (← Text.dropStart? [';'] rest)
          some (.reference :: more, rest)
      | '<' :: '!' :: '-' :: '-' :: rest => do
          declarationsWithin alphabet bound (← skipComment? rest)
      | '<' :: '?' :: rest => do
          declarationsWithin alphabet bound (← skipInstruction? alphabet rest)
      | '<' :: '!' :: rest => do
          let (first, rest) ← declaration? alphabet rest
          let (more, rest) ← declarationsWithin alphabet bound rest
          some (first :: more, rest)
      | _ => none

/-!
# Types
-/

structure DocumentType where
  isExternal : Bool
  declarations : List Declaration
  deriving DecidableEq, Repr

def DocumentType.read? (alphabet : Alphabet) (text : Text) : Option (DocumentType × Text) := do
  let heading ← marks? alphabet (← skipGap? text)
  let isExternal ←
    match heading.marks with
    | [.name _] => some false
    | .name _ :: place => if isPlace place then some true else none
    | _ => none
  if heading.opensBracket then
    let (declarations, rest) ←
      declarationsWithin alphabet (heading.rest.length + 1) heading.rest
    some ({ isExternal, declarations }, ← Text.dropStart? ['>'] (skipBlanks rest))
  else some ({ isExternal, declarations := [] }, heading.rest)

structure Knowledge where
  /-- Whether declarations are still taken.  Behind a reference to others they are not, as these
  might have come first. -/
  isTaking : Bool := true
  isPartial : Bool
  deriving DecidableEq, Repr

namespace Knowledge

/-- Takes a declaration of a document that may stand alone, in which case nothing outside of it
declares an entity. -/
def take? (standalone : Bool) (knowledge : Knowledge) : Declaration -> Option Knowledge
  | .reference => some { isTaking := standalone, isPartial := !standalone }
  | .entity => if knowledge.isTaking then none else some knowledge
  | .predefined isReadable =>
      if knowledge.isTaking && !isReadable then none else some knowledge
  | .attributes references =>
      if knowledge.isTaking && !references.any fun names => names.isEmpty || knowledge.isPartial
      then none
      else some knowledge
  | .other => some knowledge

end Knowledge

def DocumentType.lenient? (standalone : Bool) (type : DocumentType) : Option Bool := do
  let start : Knowledge := { isPartial := type.isExternal && !standalone }
  let knowledge ← type.declarations.foldlM (Knowledge.take? standalone) start
  some knowledge.isPartial

end Markup
end Format
end ScopeProbe
