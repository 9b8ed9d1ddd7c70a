/-!
# The text of a duration

A whole number of milliseconds is written in milliseconds below one second and in seconds from
there on, with as many decimals as are needed.
-/
namespace LogConsumer

/-- The decimals of a number of thousandths, without the zeros at the end. -/
def thousandthsText (thousandths : Nat) : List Char :=
  let digits := ((toString (1000 + thousandths % 1000)).toList).drop 1
  (digits.reverse.dropWhile (· = '0')).reverse

/-- The text of a number of milliseconds. -/
def durationText (milliseconds : Nat) : String :=
  if milliseconds < 1000 then toString milliseconds ++ "ms"
  else
    let seconds := toString (milliseconds / 1000)
    match thousandthsText milliseconds with
    | [] => seconds ++ "s"
    | decimals => seconds ++ "." ++ String.ofList decimals ++ "s"

end LogConsumer
