/-!
# Faults of property lists

A property list that cannot be read is malformed, or one of its parts is of a kind that a reader
does not get over.
-/

namespace ScopeProbe
namespace Format
namespace PropertyList

inductive DatePart where
  | month
  | day
  deriving DecidableEq, Repr

inductive Fault where
  | malformed
  | unknownEncoding (name : String)
  | textlessEncoding (name : String)
  | noDate
  | incompleteDate (missing : DatePart)
  | outsideContainer
  | tooDeep (occasion : String)
  deriving DecidableEq, Repr

end PropertyList
end Format
end ScopeProbe
