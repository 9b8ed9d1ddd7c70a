/-!
# Offsets

A place in a partition: an absolute offset, or one of four logical places that a client
resolves. On the wire a logical place is a reserved negative number.
-/
namespace LogConsumer

/-- Where to read in a partition. -/
inductive Offset where
  /-- The oldest retained record. -/
  | beginning
  /-- One past the newest record. -/
  | ending
  /-- The offset committed for the group. -/
  | stored
  /-- No place set. -/
  | invalid
  /-- The record with this number. -/
  | absolute (position : Int)
  deriving DecidableEq, Repr, Inhabited

namespace Offset

/-- The number that stands for a place on the wire. -/
def raw : Offset → Int
  | beginning => -2
  | ending => -1
  | stored => -1000
  | invalid => -1001
  | absolute position => position

/-- The place that a wire number stands for: one of the reserved numbers, an absolute offset
from zero on, and no place otherwise. -/
def ofRaw (number : Int) : Offset :=
  if number = -2 then beginning
  else if number = -1 then ending
  else if number = -1000 then stored
  else if 0 ≤ number then absolute number
  else invalid

/-- The number of an absolute offset. -/
def absolute? : Offset → Option Int
  | absolute position => some position
  | _ => none

/-- A number from zero on is an absolute offset. -/
theorem ofRaw_of_nonneg {number : Int} (nonneg : 0 ≤ number) : ofRaw number = absolute number := by
  unfold ofRaw
  rw [if_neg (by omega), if_neg (by omega), if_neg (by omega), if_pos nonneg]

/-- A logical place is read back from its reserved number. -/
theorem ofRaw_raw {offset : Offset} (logical : offset.absolute? = none) :
    ofRaw offset.raw = offset := by
  cases offset <;> first | rfl | simp [absolute?] at logical

end Offset

end LogConsumer
