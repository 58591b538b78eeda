/-!
# Binary floating-point numbers

A finite number of the 64-bit format is a sign and the rank of its magnitude among the finite
magnitudes, in increasing order. So there is one representation for each number, and equality and
order are decided on natural numbers. `units` gives the magnitude exactly, as a multiple of the
smallest positive one, and `rankOfRatio` rounds any ratio of such units to the nearest rank, a tie
to the even one.
-/

namespace FlowBoard

/-- Two to a power. -/
def twoTo (n : Nat) : Nat := Nat.pow 2 n

/-- Ranks from zero on stand for finite magnitudes; the rank of this number for infinity. -/
def finiteRanks : Nat := 2047 * twoTo 52

structure Finite where
  negative : Bool
  rank : Nat
  rank_lt : rank < finiteRanks
deriving DecidableEq, Repr

inductive Binary64
  | finite (x : Finite)
  | infinite (negative : Bool)
  | nan
deriving DecidableEq, Repr

/-- The magnitude of a rank as a multiple of `2 ^ (-1074)`. -/
def unitsOfRank (rank : Nat) : Nat :=
  if rank < twoTo 52 then rank
  else (rank % twoTo 52 + twoTo 52) * twoTo (rank / twoTo 52 - 1)

/-- The nearest natural number to a ratio, and the even one of two that are as near. -/
def roundRatio (n d : Nat) : Nat :=
  let q := n / d
  let r := n % d
  if 2 * r < d then q else if d < 2 * r then q + 1 else if q % 2 = 0 then q else q + 1

/-- The rank nearest to a ratio of units. -/
def rankOfRatio (n d : Nat) : Nat :=
  let shift := Nat.log2 (n / d) - 52
  roundRatio n (d * twoTo shift) + shift * twoTo 52

namespace Finite

def zero : Finite := ⟨false, 0, by decide⟩

/-- The exact value as a multiple of `2 ^ (-1074)`. -/
def units (x : Finite) : Int :=
  if x.negative then -(unitsOfRank x.rank : Int) else unitsOfRank x.rank

end Finite

namespace Binary64

/-- The number of a sign and a rank; ranks past the finite ones are infinite. -/
def ofRank (negative : Bool) (rank : Nat) : Binary64 :=
  if h : rank < finiteRanks then .finite ⟨negative, rank, h⟩ else .infinite negative

/-- The number nearest to `n / d`, with a sign. -/
def ofRatio (negative : Bool) (n d : Nat) : Binary64 :=
  ofRank negative (rankOfRatio (n * twoTo 1074) d)

def ofInt (i : Int) : Binary64 := ofRatio (i < 0) i.natAbs 1

def finite? : Binary64 → Option Finite
  | .finite x => some x
  | _ => none

/-- The rounded difference. Only a negative zero less a positive zero is a negative zero. -/
def sub : Binary64 → Binary64 → Binary64
  | .nan, _ => .nan
  | _, .nan => .nan
  | .infinite m, .infinite n => if m = n then .nan else .infinite m
  | .infinite m, .finite _ => .infinite m
  | .finite _, .infinite n => .infinite !n
  | .finite x, .finite y =>
    let d := x.units - y.units
    if d = 0 then ofRank (x.rank = 0 && x.negative && !y.negative) 0
    else ofRank (d < 0) (rankOfRatio d.natAbs 1)

end Binary64

end FlowBoard
