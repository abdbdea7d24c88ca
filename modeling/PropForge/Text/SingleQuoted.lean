import PropForge.Number.Digits
import PropForge.Text.PrintableTable

/-!
Texts in quotes as messages show them: printable characters as they are, the others by number. The
quotes are single unless only double ones leave the text's own quotes alone.
-/

namespace PropForge.Text

def isPrintable (c : Char) : Bool :=
  if c < '\u0080' then ' ' ≤ c && c ≤ '~' else !inRanges c.toNat unprintableRanges

def shownChar (quote c : Char) : List Char :=
  if c = quote || c = '\\' then ['\\', c]
  else if c = '\n' then ['\\', 'n']
  else if c = '\r' then ['\\', 'r']
  else if c = '\t' then ['\\', 't']
  else if isPrintable c then [c]
  else if c.toNat < 0x100 then '\\' :: 'x' :: Number.hexDigits 2 c.toNat
  else if c.toNat < 0x10000 then '\\' :: 'u' :: Number.hexDigits 4 c.toNat
  else '\\' :: 'U' :: Number.hexDigits 8 c.toNat

/-- A text in the quotes of a message. -/
def shown (s : String) : String :=
  let cs := s.toList
  let quote := if cs.contains '\'' && !cs.contains '"' then '"' else '\''
  String.ofList (quote :: (cs.flatMap (shownChar quote) ++ [quote]))

end PropForge.Text
