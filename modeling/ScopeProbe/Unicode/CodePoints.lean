/-!
# Sets of code points

A character property is given by the intervals of code points that have it.
-/

namespace ScopeProbe
namespace Unicode

/-- Closed intervals of code points, in ascending order. -/
abbrev CodePoints := List (Nat × Nat)

namespace CodePoints

def has (points : CodePoints) (c : Char) : Bool :=
  points.any fun (first, last) => first <= c.toNat && c.toNat <= last

end CodePoints

end Unicode
end ScopeProbe
