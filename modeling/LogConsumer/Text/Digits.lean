/-!
# Digits

The value of a numeral in a base up to sixteen, and the two-digit text of a byte. Letters count
as digits in either case.
-/
namespace LogConsumer

/-- The value of a digit, be it a decimal digit or one of the letters up to F. -/
def digitValue? (char : Char) : Option Nat :=
  if '0' ≤ char ∧ char ≤ '9' then some (char.toNat - '0'.toNat)
  else if 'a' ≤ char ∧ char ≤ 'f' then some (char.toNat - 'a'.toNat + 10)
  else if 'A' ≤ char ∧ char ≤ 'F' then some (char.toNat - 'A'.toNat + 10)
  else none

/-- The character is a digit of a base. -/
def isDigitOf (base : Nat) (char : Char) : Bool :=
  (digitValue? char).any (· < base)

/-- The value of a list of digits, the highest first. -/
def numeralValue (base : Nat) (digits : List Char) : Nat :=
  digits.foldl (fun value digit => value * base + (digitValue? digit).getD 0) 0

/-- The value of a list of characters, all of which must be digits. -/
def numeral? (base : Nat) (digits : List Char) : Option Nat :=
  if !digits.isEmpty && digits.all (isDigitOf base) then some (numeralValue base digits) else none

/-- The digit of a value below sixteen. -/
def hexDigit (value : Nat) : Char :=
  if value < 10 then Char.ofNat ('0'.toNat + value) else Char.ofNat ('a'.toNat + (value - 10))

/-- The text of a number in sixteens, with at least `width` digits. -/
def hexText : (width : Nat) → (value : Nat) → List Char
  | 0, _ => []
  | width + 1, value => hexText width (value / 16) ++ [hexDigit (value % 16)]

/-- The character of a code point, which must be a scalar value. -/
def charOfCode? (code : Nat) : Option Char :=
  if code < 0xD800 ∨ (0xE000 ≤ code ∧ code < 0x110000) then some (Char.ofNat code) else none

/-- The digit of a value is read as that value. -/
theorem digitValue?_hexDigit : ∀ value < 16, digitValue? (hexDigit value) = some value := by
  decide

end LogConsumer
