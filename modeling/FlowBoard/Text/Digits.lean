import FlowBoard.Text.Blank
import FlowBoard.Text.DigitTable
import FlowBoard.Text.Quoted

/-!
# Digits and whole numerals

A whole numeral is an optional sign and decimal digits of any script, with single underscores
allowed between digits and blanks allowed around it. A numeral of more than `digitLimit` digits
is not read.
-/

namespace FlowBoard.Text

/-- The value of a decimal digit of any script. -/
def decimalDigit? (c : Char) : Option Nat :=
  (zeroDigits.find? fun first => first ≤ c.toNat && c.toNat < first + 10).map (c.toNat - ·)

/-- A decimal digit, or another character with the value of a digit. -/
def isDigit (c : Char) : Bool := (decimalDigit? c).isSome || undecimalDigits.has c

def digitLimit : Nat := 4300

/-- Why a text is no whole number. -/
inductive NumeralError
  | malformed
  | tooLong (digits : Nat)
deriving DecidableEq, Repr

def NumeralError.message (text : String) : NumeralError → String
  | .malformed => "invalid literal for int() with base 10: " ++
      String.ofList ((quotedChars text.toList).take 200)
  | .tooLong digits => "Exceeds the limit (" ++ toString digitLimit ++
      " digits) for integer string conversion: value has " ++ toString digits ++
      " digits; use sys.set_int_max_str_digits() to increase the limit"

/-- Digits with single underscores between them; `wanted` tells that a digit must follow. -/
def digitRun? (wanted : Bool) : List Char → Option (List Nat)
  | [] => if wanted then none else some []
  | c :: rest =>
    if c = '_' then
      if wanted then none else digitRun? true rest
    else
      match decimalDigit? c with
      | some d => (digitRun? false rest).map (d :: ·)
      | none => none

def ofDigits (ds : List Nat) : Nat := ds.foldl (fun n d => 10 * n + d) 0

def readInt (text : String) : Except NumeralError Int :=
  let cs := trimChars text.toList
  let negative := cs.head? == some '-'
  let body := match cs with
    | '-' :: rest => rest
    | '+' :: rest => rest
    | _ => cs
  match digitRun? true body with
  | none => .error .malformed
  | some ds =>
    if digitLimit < ds.length then .error (.tooLong ds.length)
    else .ok (if negative then -(ofDigits ds : Int) else ofDigits ds)

end FlowBoard.Text
