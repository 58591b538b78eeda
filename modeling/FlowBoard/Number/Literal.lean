import FlowBoard.Number.Decimal
import FlowBoard.Text.Digits

/-!
# Decimal literals

A literal is an optional sign, digits with at most one point among them, and an optional exponent.
Digits may be of any script, single underscores may stand between digits, and blanks around the
literal are dropped. `readFinite?` reads a literal of a finite number; the words for infinity and
not-a-number name none.
-/

namespace FlowBoard.Literal

/-- The digits at the front, with single underscores between them, and what follows; `last` tells
that a digit came just before. -/
def spanDigits (last : Bool) : List Char → List Nat × List Char
  | [] => ([], [])
  | '_' :: c :: rest =>
    match Text.decimalDigit? c with
    | some d =>
      if last then
        let (ds, after) := spanDigits true rest
        (d :: ds, after)
      else ([], '_' :: c :: rest)
    | none => ([], '_' :: c :: rest)
  | c :: rest =>
    match Text.decimalDigit? c with
    | some d =>
      let (ds, after) := spanDigits true rest
      (d :: ds, after)
    | none => ([], c :: rest)

/-- An optional sign and what follows it. -/
def sign : List Char → Bool × List Char
  | '-' :: rest => (true, rest)
  | '+' :: rest => (false, rest)
  | cs => (false, cs)

/-- The exponent that ends a literal. -/
def exponent? : List Char → Option Int
  | [] => some 0
  | c :: rest =>
    if c = 'e' || c = 'E' then
      let (negative, body) := sign rest
      match spanDigits false body with
      | ([], _) => none
      | (ds, []) => some (if negative then -(Text.ofDigits ds : Int) else Text.ofDigits ds)
      | (_, _ :: _) => none
    else none

/-- A literal without blanks around it. -/
def read? (cs : List Char) : Option Binary64 :=
  let (negative, body) := sign cs
  let (whole, rest) := spanDigits false body
  let (fraction, rest) := match rest with
    | '.' :: rest => spanDigits false rest
    | _ => ([], rest)
  if whole.isEmpty && fraction.isEmpty then none
  else
    (exponent? rest).map fun e =>
      Binary64.ofDecimal negative (Text.ofDigits (whole ++ fraction)) (e - fraction.length)

/-- The finite number that a text writes. -/
def readFinite? (s : String) : Option Finite :=
  (read? (Text.trimChars s.toList)).bind Binary64.finite?

end FlowBoard.Literal
