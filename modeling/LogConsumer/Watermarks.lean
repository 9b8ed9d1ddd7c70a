/-!
# Watermarks

The bounds of the retained part of a partition.
-/
namespace LogConsumer

/-- The lowest retained offset and the offset of the next record. -/
structure Watermarks where
  /-- The offset of the oldest retained record. -/
  low : Int
  /-- One past the offset of the newest record. -/
  high : Int
  deriving DecidableEq, Repr, Inhabited

namespace Watermarks

/-- The number of offsets between the bounds, none if they are crossed. -/
def count (marks : Watermarks) : Int :=
  max (marks.high - marks.low) 0

/-- There is no offset between the bounds. -/
def isEmpty (marks : Watermarks) : Bool :=
  marks.count = 0

end Watermarks

end LogConsumer
