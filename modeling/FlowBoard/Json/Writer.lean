import FlowBoard.Json.Basic
import FlowBoard.Text.Digits
import FlowBoard.Text.StandIns

/-!
# Writing JSON

Only printable ASCII is written: other characters are escaped as UTF-16 code units, so those
beyond the basic plane take a surrogate pair, and a stand-in is escaped as the half of a pair for
which it stands. A value is written on one line, with a space after commas and colons, or over
several with two more spaces for each level. No number is too long for the functions that give a
text; `dump` refuses the long ones, as it does that writes to a file.
-/

namespace FlowBoard.Json

open Text (StandIns)

def unitEscape (unit : Nat) : List Char := '\\' :: 'u' :: Text.hexDigits 4 unit

/-- A character inside a string that stands for itself. -/
def ownText (c : Char) : List Char :=
  let n := c.toNat
  if c = '"' then ['\\', '"']
  else if c = '\\' then ['\\', '\\']
  else if c = '\n' then ['\\', 'n']
  else if c = '\r' then ['\\', 'r']
  else if c = '\t' then ['\\', 't']
  else if n = 8 then ['\\', 'b']
  else if n = 12 then ['\\', 'f']
  else if 0x20 ≤ n && n < 0x7F then [c]
  else if n < 0x10000 then unitEscape n
  else unitEscape (0xD800 + (n - 0x10000) / 0x400) ++ unitEscape (0xDC00 + (n - 0x10000) % 0x400)

/-- A character inside a string. -/
def charText (c : Char) (lone : StandIns := {}) : List Char :=
  match lone.unit? c with
  | some unit => unitEscape unit
  | none => ownText c

def quoted (s : String) (lone : StandIns := {}) : List Char :=
  '"' :: (s.toList.flatMap (charText · lone) ++ ['"'])

def numberText (n : Number) : List Char := n.text "Infinity".toList "NaN".toList

/-- How values of a collection are set apart: on one line, or each on a line of its own. -/
inductive Style
  | line
  | indented (depth : Nat)
deriving DecidableEq, Repr

namespace Style

def deeper : Style → Style
  | .line => .line
  | .indented depth => .indented (depth + 1)

/-- What stands before the first value inside the brackets and after the last. -/
def margin : Style → List Char
  | .line => []
  | .indented depth => '\n' :: List.replicate (2 * depth) ' '

/-- What stands between two values. -/
def between : Style → List Char
  | .line => [',', ' ']
  | .indented depth => ',' :: '\n' :: List.replicate (2 * depth) ' '

end Style

mutual

def chars (style : Style) (v : Json) (lone : StandIns := {}) : List Char :=
  match v with
  | .null => "null".toList
  | .bool true => "true".toList
  | .bool false => "false".toList
  | .num n => numberText n
  | .str s => quoted s lone
  | .arr [] => ['[', ']']
  | .arr (x :: xs) =>
    '[' :: (style.deeper.margin ++ (chars style.deeper x lone ++
      (itemChars style.deeper xs lone ++ (style.margin ++ [']']))))
  | .obj [] => ['{', '}']
  | .obj ((k, x) :: fs) =>
    '{' :: (style.deeper.margin ++ (quoted k lone ++ (':' :: ' ' :: (chars style.deeper x lone ++
      (fieldChars style.deeper fs lone ++ (style.margin ++ ['}']))))))

/-- Further items, each after a separator. -/
def itemChars (style : Style) (items : List Json) (lone : StandIns := {}) : List Char :=
  match items with
  | [] => []
  | x :: xs => style.between ++ (chars style x lone ++ itemChars style xs lone)

/-- Further members, each after a separator. -/
def fieldChars (style : Style) (fields : List (String × Json)) (lone : StandIns := {}) :
    List Char :=
  match fields with
  | [] => []
  | (k, x) :: fs =>
    style.between ++ (quoted k lone ++
      (':' :: ' ' :: (chars style x lone ++ fieldChars style fs lone)))

end

/-- The value on one line. -/
def compact (v : Json) (lone : StandIns := {}) : String := String.ofList (chars .line v lone)

/-- A whole number with more digits than are converted. -/
def isOverlong : Number → Bool
  | .whole n => Text.digitLimit < (decimalDigits n.natAbs).length
  | .binary _ => false

def overlong : Failure :=
  ⟨.wrongValue, "Exceeds the limit (" ++ toString Text.digitLimit ++
    " digits) for integer string conversion; use sys.set_int_max_str_digits() " ++
    "to increase the limit"⟩

/-- The value as one line of a file. -/
def dump (v : Json) (lone : StandIns := {}) : Except Failure String :=
  if v.anyNumber isOverlong then .error overlong else .ok (v.compact lone ++ "\n")

/-- The value over several lines. -/
def pretty (v : Json) (lone : StandIns := {}) : String :=
  String.ofList (chars (.indented 0) v lone)

end FlowBoard.Json
