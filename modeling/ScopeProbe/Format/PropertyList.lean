import ScopeProbe.Format.PropertyList.Archive
import ScopeProbe.Format.PropertyList.Markup

/-!
# Property lists

A property list is written in markup or as an archive of octets.  The first octets tell which.
-/

namespace ScopeProbe
namespace Format
namespace PropertyList

open Encoding (Octets)

def markupStarts : List Octets :=
  [Encoding.ofString "<?xml", Encoding.ofString "<plist"]

def widen (order : Encoding.ByteOrder) (octets : Octets) : Octets :=
  octets.flatMap fun octet =>
    match order with
    | .bigEndian => [0, octet]
    | .littleEndian => [octet, 0]

/-- A list in markup begins with a declaration or with its outermost element, in units of eight
or, if it is marked so, of sixteen bits. -/
def isMarkup (octets : Octets) : Bool :=
  markupStarts.any fun start =>
    start.isPrefixOf octets ||
      ([0xEF, 0xBB, 0xBF] ++ start).isPrefixOf octets ||
      ([0xFE, 0xFF] ++ widen .bigEndian start).isPrefixOf octets ||
      ([0xFF, 0xFE] ++ widen .littleEndian start).isPrefixOf octets

def isArchive (octets : Octets) : Bool :=
  (Encoding.ofString "bplist00").isPrefixOf octets

def read (room : Archive.Room) (octets : Octets) : Except Fault Datum :=
  if isMarkup octets then ofDocument (Markup.read octets)
  else if isArchive octets then ofArchive room octets
  else .error .malformed

end PropertyList
end Format
end ScopeProbe
