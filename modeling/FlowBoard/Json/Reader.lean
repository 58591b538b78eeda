import FlowBoard.Json.Basic
import FlowBoard.Text.Digits
import FlowBoard.Text.Position
import FlowBoard.Text.StandIns

/-!
# Reading JSON

The reader works on the characters that remain. An error names the fault and the number of
characters that were left at its place, from which line and column follow. Besides the standard
it reads the words for not-a-number and the infinities; a repeated key keeps its first place and
its last value. The fuel of `value` bounds the calls between two characters read, so
twice the length of the text is enough of it. Halves of surrogate pairs, which escapes may leave
alone, are read as the stand-ins that `standIns` finds for the text. No depth of nesting is refused:
where a reader that recurses on a bounded stack stops depends on what its caller left of the stack,
not on the text alone.
-/

namespace FlowBoard.Json

open Text (StandIns isHighSurrogate isLowSurrogate)

inductive Fault
  | value
  | propertyName
  | colon
  | comma
  | unterminatedString
  | controlCharacter
  | escape
  | unicodeEscape
  | extraData
  | byteOrderMark
deriving DecidableEq, Repr

inductive ReadError
  | malformed (fault : Fault) (left : Nat)
  | numberTooLong (digits : Nat)
deriving DecidableEq, Repr

def Fault.message : Fault → String
  | .value => "Expecting value"
  | .propertyName => "Expecting property name enclosed in double quotes"
  | .colon => "Expecting ':' delimiter"
  | .comma => "Expecting ',' delimiter"
  | .unterminatedString => "Unterminated string starting at"
  | .controlCharacter => "Invalid control character at"
  | .escape => "Invalid \\escape"
  | .unicodeEscape => "Invalid \\uXXXX escape"
  | .extraData => "Extra data"
  | .byteOrderMark => "Unexpected UTF-8 BOM (decode using utf-8-sig)"

/-- The fault and its place: the line, the column from one and the offset from zero. -/
def ReadError.message (text : List Char) : ReadError → String
  | .malformed fault left =>
    let passed := Text.before text left
    fault.message ++ ": line " ++ toString (Text.lineFeeds passed + 1) ++ " column " ++
      toString (Text.lastLineLength passed + 1) ++ " (char " ++ toString passed.length ++ ")"
  | .numberTooLong digits => (Text.NumeralError.tooLong digits).message ""

/-- A result with the characters that remain. -/
abbrev Read (α : Type) := Except ReadError (α × List Char)

def skipSpace (cs : List Char) : List Char :=
  cs.dropWhile fun c => c = ' ' || c = '\t' || c = '\n' || c = '\r'

/-! ## Strings -/

/-- The character of a one-letter escape. -/
def escaped? (c : Char) : Option Char :=
  if c = '"' || c = '\\' || c = '/' then some c
  else if c = 'b' then some (Char.ofNat 8)
  else if c = 'f' then some (Char.ofNat 12)
  else if c = 'n' then some '\n'
  else if c = 'r' then some '\r'
  else if c = 't' then some '\t'
  else none

def codeUnit? (a b c d : Char) : Option Nat :=
  match Text.hexValue? a, Text.hexValue? b, Text.hexValue? c, Text.hexValue? d with
  | some w, some x, some y, some z => some (((w * 16 + x) * 16 + y) * 16 + z)
  | _, _, _, _ => none

def joinSurrogates (high low : Nat) : Char :=
  Char.ofNat (0x10000 + (high - 0xD800) * 0x400 + (low - 0xDC00))

/-- The character of a code unit of its own. -/
def unitChar (lone : StandIns) (unit : Nat) : Char :=
  if isHighSurrogate unit || isLowSurrogate unit then lone.char unit else Char.ofNat unit

/-- Adds a character in front of a string that was read. -/
def withChar (c : Char) : List Char × List Char → List Char × List Char
  | (text, rest) => (c :: text, rest)

/-- The rest of a string after its opening quote; `opening` are the characters from that quote
on. -/
def stringBody (lone : StandIns) (opening : List Char) : List Char → Read (List Char)
  | [] => .error (.malformed .unterminatedString opening.length)
  | '"' :: rest => .ok ([], rest)
  | '\\' :: 'u' :: a :: b :: c :: d :: '\\' :: 'u' :: e :: f :: g :: h :: next :: rest =>
    match codeUnit? a b c d with
    | none => .error (.malformed .unicodeEscape (rest.length + 12))
    | some first =>
      if isHighSurrogate first then
        match codeUnit? e f g h with
        | none => .error (.malformed .unicodeEscape (rest.length + 6))
        | some second =>
          if isLowSurrogate second then
            (stringBody lone opening (next :: rest)).map
              (withChar (joinSurrogates first second))
          else
            (stringBody lone opening ('\\' :: 'u' :: e :: f :: g :: h :: next :: rest)).map
              (withChar (unitChar lone first))
      else
        (stringBody lone opening ('\\' :: 'u' :: e :: f :: g :: h :: next :: rest)).map
          (withChar (unitChar lone first))
  | '\\' :: 'u' :: a :: b :: c :: d :: next :: rest =>
    match codeUnit? a b c d with
    | none => .error (.malformed .unicodeEscape (rest.length + 6))
    | some unit => (stringBody lone opening (next :: rest)).map (withChar (unitChar lone unit))
  | '\\' :: 'u' :: rest => .error (.malformed .unicodeEscape (rest.length + 1))
  | ['\\'] => .error (.malformed .unterminatedString opening.length)
  | '\\' :: c :: rest =>
    match escaped? c with
    | none => .error (.malformed .escape (rest.length + 2))
    | some x => (stringBody lone opening rest).map (withChar x)
  | c :: rest =>
    if c.toNat < 0x20 then .error (.malformed .controlCharacter (rest.length + 1))
    else (stringBody lone opening rest).map (withChar c)

/-! ## Numbers -/

def isAsciiDigit (c : Char) : Bool := 0x30 ≤ c.toNat && c.toNat ≤ 0x39

def asciiDigits (cs : List Char) : List Char × List Char :=
  (cs.takeWhile isAsciiDigit, cs.dropWhile isAsciiDigit)

def digitsValue (ds : List Char) : Nat := Text.ofDigits (ds.map fun c => c.toNat - 0x30)

/-- A zero by itself, or digits that start with another one. -/
def wholePart? : List Char → Option (List Char × List Char)
  | [] => none
  | c :: rest =>
    if c = '0' then some ([c], rest)
    else if isAsciiDigit c then some (asciiDigits (c :: rest))
    else none

/-- A point and the digits after it; without digits nothing is taken. -/
def fractionPart (cs : List Char) : List Char × List Char :=
  match cs with
  | '.' :: rest => if (asciiDigits rest).1.isEmpty then ([], cs) else asciiDigits rest
  | _ => ([], cs)

/-- The exponent and its digits; without digits nothing is taken. -/
def exponentPart (cs : List Char) : Option Int × List Char :=
  match cs with
  | c :: rest =>
    if c = 'e' || c = 'E' then
      let (negative, body) : Bool × List Char := match rest with
        | '-' :: body => (true, body)
        | '+' :: body => (false, body)
        | _ => (false, rest)
      let (ds, after) := asciiDigits body
      if ds.isEmpty then (none, cs)
      else (some (if negative then -(digitsValue ds : Int) else digitsValue ds), after)
    else (none, cs)
  | [] => (none, cs)

/-- A number after its sign; `start` are the characters with the sign. -/
def number (start : List Char) (negative : Bool) (cs : List Char) : Read Number :=
  match wholePart? cs with
  | none => .error (.malformed .value start.length)
  | some (whole, rest) =>
    let (fraction, rest) := fractionPart rest
    let (exponent, rest) := exponentPart rest
    if fraction.isEmpty && exponent.isNone then
      if Text.digitLimit < whole.length then .error (.numberTooLong whole.length)
      else
        let n : Int := digitsValue whole
        .ok (.whole (if negative then -n else n), rest)
    else
      .ok (.binary (Binary64.ofDecimal negative (digitsValue (whole ++ fraction))
        (exponent.getD 0 - fraction.length)), rest)

/-- A number, or a word that stands for one, with an optional minus. -/
def signedNumber (cs : List Char) : Read Number :=
  match cs with
  | '-' :: 'I' :: 'n' :: 'f' :: 'i' :: 'n' :: 'i' :: 't' :: 'y' :: rest =>
    .ok (.binary (.infinite true), rest)
  | '-' :: rest => number cs true rest
  | 'I' :: 'n' :: 'f' :: 'i' :: 'n' :: 'i' :: 't' :: 'y' :: rest =>
    .ok (.binary (.infinite false), rest)
  | 'N' :: 'a' :: 'N' :: rest => .ok (.binary .nan, rest)
  | _ => number cs false cs

/-! ## Values -/

mutual

def value (lone : StandIns) : Nat → List Char → Read Json
  | 0, cs => .error (.malformed .value cs.length)
  | fuel + 1, cs =>
    match cs with
    | '"' :: rest => (stringBody lone cs rest).map fun r => (.str (String.ofList r.1), r.2)
    | '{' :: rest =>
      match skipSpace rest with
      | '}' :: rest => .ok (.obj [], rest)
      | rest => (members lone fuel [] rest).map fun r => (.obj r.1, r.2)
    | '[' :: rest =>
      match skipSpace rest with
      | ']' :: rest => .ok (.arr [], rest)
      | rest => (items lone fuel rest).map fun r => (.arr r.1, r.2)
    | 'n' :: 'u' :: 'l' :: 'l' :: rest => .ok (.null, rest)
    | 't' :: 'r' :: 'u' :: 'e' :: rest => .ok (.bool true, rest)
    | 'f' :: 'a' :: 'l' :: 's' :: 'e' :: rest => .ok (.bool false, rest)
    | _ => (signedNumber cs).map fun r => (.num r.1, r.2)

/-- The items of an array that has some, and its closing bracket. -/
def items (lone : StandIns) : Nat → List Char → Read (List Json)
  | 0, cs => .error (.malformed .value cs.length)
  | fuel + 1, cs =>
    match value lone fuel cs with
    | .error e => .error e
    | .ok (item, rest) =>
      match skipSpace rest with
      | ']' :: rest => .ok ([item], rest)
      | ',' :: rest => (items lone fuel (skipSpace rest)).map fun r => (item :: r.1, r.2)
      | rest => .error (.malformed .comma rest.length)

/-- The members of an object that has some, put after those already read, and its closing
brace. -/
def members (lone : StandIns) : Nat → Fields → List Char → Read Fields
  | 0, _, cs => .error (.malformed .value cs.length)
  | fuel + 1, fields, cs =>
    match cs with
    | '"' :: rest =>
      match stringBody lone cs rest with
      | .error e => .error e
      | .ok (key, rest) =>
        match skipSpace rest with
        | ':' :: rest =>
          match value lone fuel (skipSpace rest) with
          | .error e => .error e
          | .ok (item, rest) =>
            let fields := Keyed.put (String.ofList key) item fields
            match skipSpace rest with
            | '}' :: rest => .ok (fields, rest)
            | ',' :: rest => members lone fuel fields (skipSpace rest)
            | rest => .error (.malformed .comma rest.length)
        | rest => .error (.malformed .colon rest.length)
    | cs => .error (.malformed .propertyName cs.length)

end

/-- Reads a text that is one value with white space around it. -/
def readWith (lone : StandIns) (cs : List Char) : Except ReadError Json :=
  match value lone (2 * cs.length + 2) (skipSpace cs) with
  | .error e => .error e
  | .ok (v, rest) =>
    match skipSpace rest with
    | [] => .ok v
    | rest => .error (.malformed .extraData rest.length)

/-! ## Stand-ins -/

/-- A run of stand-ins of which the value has none. -/
def spareRun (v : Json) : StandIns :=
  (StandIns.runs.find? fun lone => !v.anyChar lone.isStandIn).getD {}

/-- The stand-ins for a text that is given in terms of them: characters that it does not have
otherwise, or none at all if no half of a pair stands alone in its strings. -/
def standInsFor (text : StandIns → List Char) : StandIns :=
  match readWith {} (text {}) with
  | .error _ => {}
  | .ok plain =>
    match readWith (spareRun plain) (text (spareRun plain)) with
    | .error _ => {}
    | .ok v => if v.anyChar (spareRun plain).isStandIn then spareRun plain else {}

def standIns (cs : List Char) : StandIns := standInsFor fun _ => cs

/-- Reads a text with the stand-ins that it needs. -/
def readDecoded (cs : List Char) : Except ReadError Json := readWith (standIns cs) cs

/-- The characters with these numbers, among which may be halves of pairs. -/
def unitChars (lone : StandIns) (units : List Nat) : List Char := units.map (unitChar lone)

def unitStandIns (units : List Nat) : StandIns := standInsFor fun lone => unitChars lone units

def readUnits (units : List Nat) : Except ReadError Json :=
  readWith (unitStandIns units) (unitChars (unitStandIns units) units)

/-- Reads a text, which may not start with a byte order mark. -/
def readChars (cs : List Char) : Except ReadError Json :=
  if cs.head? == some (Char.ofNat 0xFEFF) then .error (.malformed .byteOrderMark cs.length)
  else readDecoded cs

def read (text : String) : Except ReadError Json := readChars text.toList

end FlowBoard.Json
