/-!
Finding and cutting: whether one text occurs in another, and the pieces of a text between
separators.
-/

namespace PropForge.Text

/-- Whether `needle` occurs in the text. -/
def contains (needle : List Char) : List Char → Bool
  | [] => needle.isEmpty
  | c :: rest => needle.isPrefixOf (c :: rest) || contains needle rest

/-- Whether `needle` occurs in `s`. -/
def occursIn (needle s : String) : Bool := contains needle.toList s.toList

/-- The pieces of a text between separators; an empty text is one empty piece. -/
def splitOn (separates : Char → Bool) : List Char → List (List Char)
  | [] => [[]]
  | c :: rest =>
    if separates c then [] :: splitOn separates rest
    else match splitOn separates rest with
      | piece :: pieces => (c :: piece) :: pieces
      | [] => [[c]]

/-- The nonempty pieces between separators. -/
def words (separates : Char → Bool) (cs : List Char) : List (List Char) :=
  (splitOn separates cs).filter (!·.isEmpty)

/-- The text before the last separator and the text after it, if there is a separator. -/
def splitLast? (separator : Char) (cs : List Char) : Option (List Char × List Char) :=
  if cs.contains separator then
    let after := (cs.reverse.takeWhile (· ≠ separator)).reverse
    some (cs.take (cs.length - after.length - 1), after)
  else none

end PropForge.Text
