/-!
# Blank text

The characters with the property White_Space, and the texts that consist of them alone.
-/
namespace LogConsumer

/-- The character has the property White_Space. -/
def isBlankChar (char : Char) : Bool :=
  let code := char.toNat
  (0x09 ≤ code && code ≤ 0x0D) || code = 0x20 || code = 0x85 || code = 0xA0 || code = 0x1680 ||
    (0x2000 ≤ code && code ≤ 0x200A) || code = 0x2028 || code = 0x2029 || code = 0x202F ||
    code = 0x205F || code = 0x3000

/-- The text is empty or holds nothing but white space. -/
def isBlank (text : String) : Bool :=
  text.toList.all isBlankChar

/-- Everything that the core library calls white space is blank. -/
theorem isBlankChar_of_isWhitespace (char : Char) (white : char.isWhitespace) :
    isBlankChar char := by
  simp only [Char.isWhitespace, Bool.or_eq_true, decide_eq_true_eq] at white
  rcases white with ((same | same) | same) | same <;> subst same <;> decide

end LogConsumer
