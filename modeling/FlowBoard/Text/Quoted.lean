import FlowBoard.Text.Hex
import FlowBoard.Text.PrintTable

/-!
# Quoted texts

A text is quoted in messages between apostrophes, or between double quotes if it has apostrophes
but no double quotes. Backslashes, the quote itself and characters that are not printable are
escaped.
-/

namespace FlowBoard.Text

/-- The escape of a character by its number, in the shortest of three widths. -/
def numberEscape (c : Char) : List Char :=
  let n := c.toNat
  if n < 0x100 then '\\' :: 'x' :: hexDigits 2 n
  else if n < 0x10000 then '\\' :: 'u' :: hexDigits 4 n
  else '\\' :: 'U' :: hexDigits 8 n

def quotedChar (quote : Char) (c : Char) : List Char :=
  if c = quote || c = '\\' then ['\\', c]
  else if c = '\n' then ['\\', 'n']
  else if c = '\r' then ['\\', 'r']
  else if c = '\t' then ['\\', 't']
  else if printable.has c then [c]
  else numberEscape c

def quotedChars (cs : List Char) : List Char :=
  let quote := if cs.contains '\'' && !cs.contains '"' then '"' else '\''
  quote :: (cs.flatMap (quotedChar quote) ++ [quote])

def quoted (s : String) : String := String.ofList (quotedChars s.toList)

end FlowBoard.Text
