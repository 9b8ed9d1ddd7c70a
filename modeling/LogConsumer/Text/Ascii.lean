/-!
# ASCII comparisons

Comparisons of settings that disregard the case of ASCII letters, and the search for one text
inside another.
-/
namespace LogConsumer

/-- The texts are equal up to the case of ASCII letters. -/
def equalIgnoringCase (left right : String) : Bool :=
  left.toList.map Char.toLower = right.toList.map Char.toLower

/-- The characters occur in a row somewhere in a list. -/
def occursInChars (needle : List Char) : List Char → Bool
  | [] => needle.isEmpty
  | char :: chars => needle.isPrefixOf (char :: chars) || occursInChars needle chars

/-- One text occurs in another. -/
def occursIn (needle text : String) : Bool :=
  occursInChars needle.toList text.toList

end LogConsumer
