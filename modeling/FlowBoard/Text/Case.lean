import FlowBoard.Text.CaseTable
import FlowBoard.Text.WordTable

/-!
# Lower case and word characters

`lower` follows the full lower-case mapping of Unicode: one character for one, but a capital I
with a dot becomes two, and a capital sigma that ends a word takes its final form.
-/

namespace FlowBoard.Text

/-- The first letter met, looking through ignorable characters, has a case. -/
def casedNext : List Char → Bool
  | [] => false
  | c :: rest => if caseIgnorable.has c then casedNext rest else casedLetter.has c

def shiftChar (c : Char) (shift : Int) : Char := Char.ofNat (c.toNat + shift).toNat

def lowerChar (c : Char) : Char :=
  match caseRuns.find? (·.has c.toNat) with
  | some run => shiftChar c run.shift
  | none => c

/-- Lowers the text; `before` holds the characters already passed, the nearest first. -/
def lowerFrom (before : List Char) : List Char → List Char
  | [] => []
  | c :: rest =>
    if c.toNat < 0x80 then
      (if c.isUpper then Char.ofNat (c.toNat + 32) else c) :: lowerFrom (c :: before) rest
    else if c.toNat = 0x130 then
      'i' :: Char.ofNat 0x307 :: lowerFrom (c :: before) rest
    else if c.toNat = 0x3A3 then
      (if casedNext before && !casedNext rest then Char.ofNat 0x3C2 else Char.ofNat 0x3C3) ::
        lowerFrom (c :: before) rest
    else lowerChar c :: lowerFrom (c :: before) rest

def lowerChars (cs : List Char) : List Char := lowerFrom [] cs

def lower (s : String) : String := String.ofList (lowerChars s.toList)

/-- Upper case of the letters a to z; other characters stay. -/
def upperAscii (s : String) : String :=
  String.ofList (s.toList.map fun c => if c.isLower then Char.ofNat (c.toNat - 32) else c)

/-- A letter, a number or the underscore. -/
def isWordChar (c : Char) : Bool := c == '_' || letterOrNumber.has c

end FlowBoard.Text
