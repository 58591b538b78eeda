import FlowBoard.Failure
import FlowBoard.Text.Hex
import FlowBoard.Text.Utf8

/-!
# Unpaired surrogates

A text that names code units of UTF-16 may hold half of a surrogate pair without the other half,
which is no character. In the strings that are read from such a text each half is written by a
stand-in: a character for private use that the text does not have otherwise. It goes wherever its
half would go, and what it stands for counts only where a string is coded, escaped or shown. The
words of the command line are taken to have no such character.
-/

namespace FlowBoard.Text

def isHighSurrogate (n : Nat) : Bool := 0xD800 ≤ n && n < 0xDC00

def isLowSurrogate (n : Nat) : Bool := 0xDC00 ≤ n && n < 0xE000

/-- Which characters stand for halves of pairs: the last two planes, which are for private use, are
64 runs with a character for each surrogate. Without a run, halves of pairs are read as replacement
characters. -/
structure StandIns where
  run : Option (Fin 64) := none
deriving DecidableEq, Repr

namespace StandIns

def runs : List StandIns := (List.finRange 64).map fun i => ⟨some i⟩

/-- The first character of a run. -/
def first (i : Fin 64) : Nat := 0xF0000 + 0x800 * i

/-- The character for half of a pair. -/
def char (lone : StandIns) (unit : Nat) : Char :=
  match lone.run with
  | some i => Char.ofNat (first i + (unit - 0xD800))
  | none => replacement

/-- The half of a pair that a character stands for. -/
def unit? (lone : StandIns) (c : Char) : Option Nat :=
  match lone.run with
  | some i =>
    if first i ≤ c.toNat && c.toNat < first i + 0x800 then some (0xD800 + (c.toNat - first i))
    else none
  | none => none

def isStandIn (lone : StandIns) (c : Char) : Bool := (lone.unit? c).isSome

/-- The string as it is shown to a user, with escapes for halves of pairs. -/
def shown (lone : StandIns) (s : String) : String :=
  String.ofList <| s.toList.flatMap fun c =>
    match lone.unit? c with
    | some unit => '\\' :: 'u' :: hexDigits 4 unit
    | none => [c]

end StandIns

/-! ## Coding -/

/-- The first characters of a kind, with the number of those before them. -/
def firstRun? (isBad : Char → Bool) (cs : List Char) : Option (Nat × List Char) :=
  let plain := cs.takeWhile (!isBad ·)
  match cs.drop plain.length with
  | [] => none
  | rest => some (plain.length, rest.takeWhile isBad)

/-- The failure of a codec at characters that it does not have. -/
def unencodable (codec reason : String) (escape : Char → List Char) (start : Nat)
    (run : List Char) : Failure :=
  let place := match run with
    | [c] => "character '" ++ String.ofList (escape c) ++ "' in position " ++ toString start
    | _ => "characters in position " ++ toString start ++ "-" ++
        toString (start + run.length - 1)
  ⟨.unencodable, "'" ++ codec ++ "' codec can't encode " ++ place ++ ": " ++ reason⟩

/-- The text of a file in UTF-8, which half of a pair cannot be coded in. -/
def StandIns.coded (lone : StandIns) (s : String) : Except Failure String :=
  match firstRun? lone.isStandIn s.toList with
  | none => .ok s
  | some (start, run) =>
    .error (unencodable "utf-8" "surrogates not allowed"
      (fun c => '\\' :: 'u' :: hexDigits 4 ((lone.unit? c).getD 0)) start run)

end FlowBoard.Text
