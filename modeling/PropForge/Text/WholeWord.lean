import PropForge.Text.WordTable

/-!
Whole words in a text: occurrences with a word boundary on either side.
-/

namespace PropForge.Text

/-- Letters, numbers and the underscore. -/
def isWordChar (c : Char) : Bool :=
  if c < '\u0080' then c.isAlphanum || c = '_' else inRanges c.toNat wordRanges

/-- Whether the character on one side is of a word and the one on the other side is not. -/
def isBoundary (before after : Option Char) : Bool :=
  (before.map isWordChar).getD false != (after.map isWordChar).getD false

/-- Whether `word` stands in a text between two boundaries; `before` is the character before the
text. -/
def hasWordFrom (word : List Char) (before : Option Char) (cs : List Char) : Bool :=
  let rest := cs.drop word.length
  let last := word.getLast?.or before
  let here := word.isPrefixOf cs && isBoundary before cs.head? && isBoundary last rest.head?
  here || match cs with
    | [] => false
    | c :: rest => hasWordFrom word (some c) rest

/-- Whether `word` occurs in `s` as a whole word. -/
def hasWord (word s : String) : Bool := hasWordFrom word.toList none s.toList

end PropForge.Text
