import FlowBoard.Text.Blank

/-!
# Text inside a flowchart

User text is made safe before it stands in a label, a title or a comment: the characters that
delimit those are replaced or dropped, and blanks are collapsed and trimmed.
-/

namespace FlowBoard.Mermaid

def backtick : Char := Char.ofNat 0x60

/-- Brackets and braces, which delimit shapes. -/
def isDelimiter (c : Char) : Bool := c == '[' || c == ']' || c == '{' || c == '}'

/-- Quotes become apostrophes and a bar becomes a slash. -/
def soften (c : Char) : Char :=
  if c = '"' || c = backtick then '\'' else if c = '|' then '/' else c

def sanitizeChars (cs : List Char) : List Char :=
  Text.trimChars (((Text.collapse cs).map soften).filter (!isDelimiter ·))

def sanitize (s : String) : String := Text.onChars sanitizeChars s

/-- Three backticks, which open and close a fenced block. -/
def fence : String := String.ofList (List.replicate 3 backtick)

/-- The text in a fenced block, without blanks at its end. -/
def block (code : String) : String :=
  fence ++ "mermaid\n" ++ Text.onChars Text.trimRight code ++ "\n" ++ fence ++ "\n"

end FlowBoard.Mermaid
