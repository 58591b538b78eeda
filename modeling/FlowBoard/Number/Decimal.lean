import FlowBoard.Number.Binary64

/-!
# Decimal numerals of binary numbers

`ofDecimal` gives the binary number nearest to a decimal numeral. `digits` gives the numeral with
the fewest digits that reads back, of two with as few digits the nearer one, and of two as near the
even one. The text is positional while the point stands within sixteen digits or after at most
three leading zeros, and carries an exponent otherwise.
-/

namespace FlowBoard

/-- Ten to a power. -/
def tenTo (n : Nat) : Nat := Nat.pow 10 n

def decimalDigits (n : Nat) : List Char := Nat.toDigits 10 n

/-- Past these sizes a numeral is infinite, or too small to be told from zero. -/
def largestSize : Int := 310

def smallestSize : Int := -330

namespace Binary64

/-- The number nearest to `digits · 10 ^ exponent`. -/
def ofDecimal (negative : Bool) (digits : Nat) (exponent : Int) : Binary64 :=
  if digits = 0 then ofRank negative 0
  else
    let size : Int := (decimalDigits digits).length + exponent
    if largestSize < size then .infinite negative
    else if size < smallestSize then ofRank negative 0
    else if 0 ≤ exponent then ofRatio negative (digits * tenTo exponent.toNat) 1
    else ofRatio negative digits (tenTo (-exponent).toNat)

end Binary64

namespace Shortest

/-- `digits · 10 ^ exponent` measured in half units, as a numerator and a denominator. -/
def halfUnits (digits : Nat) (exponent : Int) : Nat × Nat :=
  if 0 ≤ exponent then (digits * tenTo exponent.toNat * twoTo 1075, 1)
  else (digits * twoTo 1075, tenTo (-exponent).toNat)

/-- The numeral rounds to the rank: it lies between the midpoints to the neighbouring ranks, and a
midpoint itself rounds to the even rank. -/
def readsBack (rank digits : Nat) (exponent : Int) : Bool :=
  let (n, d) := halfUnits digits exponent
  let low := (unitsOfRank (rank - 1) + unitsOfRank rank) * d
  let high := (unitsOfRank rank + unitsOfRank (rank + 1)) * d
  if rank % 2 = 0 then low ≤ n && n ≤ high else low < n && n < high

/-- Distance from the numeral to the rank, in half units scaled by the numeral's denominator. -/
def distance (rank digits : Nat) (exponent : Int) : Nat :=
  let (n, d) := halfUnits digits exponent
  let exact := 2 * unitsOfRank rank * d
  if n ≤ exact then exact - n else n - exact

/-- The largest numeral with that exponent that is not above the rank. -/
def floorDigits (rank : Nat) (exponent : Int) : Nat :=
  let (n, d) := halfUnits 1 exponent
  2 * unitsOfRank rank * d / n

/-- The exponent of the leading digit. -/
def leading (rank : Nat) : Int :=
  let guess : Int := (((unitsOfRank rank).log2 : Int) - 1074) * 30103 / 100000
  ([guess + 2, guess + 1, guess, guess - 1].find? fun e => 0 < floorDigits rank e).getD (guess - 2)

/-- The nearer of two neighbouring numerals, and the even one if they are as near. -/
def nearer (rank : Nat) (exponent : Int) (below above : Nat) : Nat :=
  let down := distance rank below exponent
  let up := distance rank above exponent
  if down < up then below else if up < down then above
  else if below % 2 = 0 then below else above

/-- A numeral with that exponent that reads back as the rank, the nearer of the two around it. -/
def atExponent? (rank : Nat) (exponent : Int) : Option Nat :=
  let below := floorDigits rank exponent
  let above := below + 1
  match readsBack rank below exponent, readsBack rank above exponent with
  | true, true => some (nearer rank exponent below above)
  | true, false => some below
  | false, true => some above
  | false, false => none

/-- The first of `count` growing numbers of digits for which a numeral reads back. -/
def search (rank : Nat) (lead : Int) (size : Nat) : Nat → Nat × Int
  | 0 => (floorDigits rank (lead - size + 1), lead - size + 1)
  | count + 1 =>
    match atExponent? rank (lead - size + 1) with
    | some digits => (digits, lead - size + 1)
    | none => search rank lead (size + 1) count

/-- Drops zeros at the end of a numeral, raising the exponent. -/
def dropZeros (exponent : Int) : List Char → List Char × Int
  | [] => ([], exponent)
  | c :: rest => if c = '0' then dropZeros (exponent + 1) rest else (c :: rest, exponent)

/-- The digits of the shortest numeral, and the place of the point counted from the first. -/
def digits (rank : Nat) : List Char × Int :=
  let (n, e) := search rank (leading rank) 1 17
  let (ds, e) := dropZeros e (decimalDigits n).reverse
  (ds.reverse, ds.length + e)

end Shortest

/-- The exponent with a sign and at least two digits. -/
def exponentText (e : Int) : List Char :=
  let ds := decimalDigits e.natAbs
  (if e < 0 then '-' else '+') :: (if ds.length < 2 then '0' :: ds else ds)

/-- Digits with the point after the first `place` of them. -/
def pointedText (ds : List Char) (place : Int) : List Char :=
  if place ≤ -4 || 16 < place then
    let tail := ds.drop 1
    ds.take 1 ++ (if tail.isEmpty then [] else '.' :: tail) ++ 'e' :: exponentText (place - 1)
  else if place ≤ 0 then '0' :: '.' :: (List.replicate (-place).toNat '0' ++ ds)
  else if ds.length ≤ place.toNat then
    ds ++ List.replicate (place.toNat - ds.length) '0' ++ ['.', '0']
  else ds.take place.toNat ++ '.' :: ds.drop place.toNat

def Finite.text (x : Finite) : List Char :=
  let magnitude :=
    if x.rank = 0 then ['0', '.', '0']
    else
      let (ds, place) := Shortest.digits x.rank
      pointedText ds place
  if x.negative then '-' :: magnitude else magnitude

end FlowBoard
