/-!
# Widths of integers

How many bits an integer takes where it is stored, and so which integers can be stored there.
-/
namespace LogConsumer

/-- A width of stored integers. -/
inductive Width where
  /-- Eight bits without sign. -/
  | byte
  /-- 32 bits with sign. -/
  | int32
  /-- 64 bits with sign. -/
  | int64
  /-- 64 bits without sign. -/
  | word64
  deriving DecidableEq, Repr, Inhabited

namespace Width

/-- The least integer of a width. -/
def low : Width → Int
  | byte => 0
  | int32 => -2147483648
  | int64 => -9223372036854775808
  | word64 => 0

/-- The first integer beyond a width. -/
def high : Width → Int
  | byte => 256
  | int32 => 2147483648
  | int64 => 9223372036854775808
  | word64 => 18446744073709551616

/-- The integer fits the width. -/
def holds (width : Width) (value : Int) : Bool :=
  width.low ≤ value && value < width.high

/-- What fits a width lies between its bounds. -/
theorem holds_iff (width : Width) (value : Int) :
    width.holds value = true ↔ width.low ≤ value ∧ value < width.high := by
  simp [holds]

end Width

end LogConsumer
