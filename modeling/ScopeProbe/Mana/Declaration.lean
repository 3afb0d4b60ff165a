import ScopeProbe.Scope

/-!
# Declarations

The declarations of the mana subset, the kind of body that each opens, and the scopes of its keyword
and of its name.
-/

namespace ScopeProbe
namespace Mana

/-- What an open brace encloses.  Other names are kept as they are but have no meaning. -/
inductive Block where
  | typeBody
  | enumBody
  | namespaceBody
  | plain
  | other (name : String)
  deriving DecidableEq, Repr

namespace Block

def name : Block -> String
  | typeBody => "type"
  | enumBody => "enum"
  | namespaceBody => "namespace"
  | plain => "block"
  | other name => name

def ofName (name : String) : Block :=
  if name = "type" then typeBody
  else if name = "enum" then enumBody
  else if name = "namespace" then namespaceBody
  else if name = "block" then plain
  else other name

theorem name_ofName (name : String) : (ofName name).name = name := by
  unfold ofName
  repeat' split
  all_goals simp_all [Block.name]

end Block

inductive Declaration where
  | ofClass
  | ofStruct
  | ofInterface
  | ofEnum
  | ofNamespace
  deriving DecidableEq, Repr

namespace Declaration

def all : List Declaration :=
  [ofClass, ofStruct, ofInterface, ofEnum, ofNamespace]

def keyword : Declaration -> String
  | ofClass => "class"
  | ofStruct => "struct"
  | ofInterface => "interface"
  | ofEnum => "enum"
  | ofNamespace => "namespace"

def block : Declaration -> Block
  | ofClass | ofStruct | ofInterface => .typeBody
  | ofEnum => .enumBody
  | ofNamespace => .namespaceBody

def keywordScope : Declaration -> Scope
  | ofClass => .keywordOtherClass
  | ofStruct => .keywordOtherStruct
  | ofInterface => .keywordOtherInterface
  | ofEnum => .keywordOtherEnum
  | ofNamespace => .keywordOtherNamespace

def nameScope : Declaration -> Scope
  | ofClass => .entityNameTypeClass
  | ofStruct => .entityNameTypeStruct
  | ofInterface => .entityNameTypeInterface
  | ofEnum => .entityNameTypeEnum
  | ofNamespace => .entityNameTypeNamespace

end Declaration
end Mana
end ScopeProbe
