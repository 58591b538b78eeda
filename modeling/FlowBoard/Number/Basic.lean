import FlowBoard.Number.Decimal

/-!
# Numbers

A number is whole, of any size, or binary. Comparison between the two kinds is exact; a difference
is exact on whole numbers and otherwise rounded, after both sides were made binary.
-/

namespace FlowBoard

inductive Number
  | whole (n : Int)
  | binary (x : Binary64)
deriving DecidableEq, Repr

namespace Number

/-- The exact value of a finite number as a multiple of `2 ^ (-1074)`. -/
def units? : Number → Option Int
  | .whole n => some (n * twoTo 1074)
  | .binary (.finite x) => some x.units
  | .binary _ => none

/-- Strictly less; a not-a-number is less than nothing and above nothing. -/
def less : Number → Number → Bool
  | .binary .nan, _ => false
  | _, .binary .nan => false
  | .binary (.infinite m), .binary (.infinite n) => m && !n
  | .binary (.infinite m), _ => m
  | _, .binary (.infinite n) => !n
  | a, b =>
    match a.units?, b.units? with
    | some u, some v => u < v
    | _, _ => false

/-- Less or equal, by value. -/
def atMost (a b : Number) : Bool :=
  match a, b with
  | .binary .nan, _ => false
  | _, .binary .nan => false
  | a, b => !b.less a

/-- The number in binary form, unless a whole number is beyond all finite ones. -/
def binary? : Number → Option Binary64
  | .whole n => (Binary64.ofInt n).finite?.map .finite
  | .binary x => some x

def sub? : Number → Number → Option Number
  | .whole m, .whole n => some (.whole (m - n))
  | a, b =>
    match a.binary?, b.binary? with
    | some x, some y => some (.binary (x.sub y))
    | _, _ => none

/-- The first of the greatest numbers. -/
def greatest (first : Number) (rest : List Number) : Number :=
  rest.foldl (fun best n => if best.less n then n else best) first

/-- The first of the least numbers. -/
def least (first : Number) (rest : List Number) : Number :=
  rest.foldl (fun best n => if n.less best then n else best) first

def wholeText (n : Int) : List Char :=
  if n < 0 then '-' :: decimalDigits n.natAbs else decimalDigits n.natAbs

/-- The text of a number; infinities and not-a-number have the names given. -/
def text (infinity notNumber : List Char) : Number → List Char
  | .whole n => wholeText n
  | .binary (.finite x) => x.text
  | .binary (.infinite negative) => if negative then '-' :: infinity else infinity
  | .binary .nan => notNumber

/-- Equality by value: both zeros are equal, and a not-a-number equals only itself. -/
def sameValue : Number → Number → Bool
  | .binary .nan, .binary .nan => true
  | .binary .nan, _ => false
  | _, .binary .nan => false
  | .binary (.infinite m), .binary (.infinite n) => m = n
  | a, b =>
    match a.units?, b.units? with
    | some u, some v => u = v
    | _, _ => false

end Number

end FlowBoard
