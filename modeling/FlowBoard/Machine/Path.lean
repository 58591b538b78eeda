import FlowBoard.Text.Cut

/-!
# Paths

A path is a list of parts between slashes, from the root or from the working directory. Empty
parts and single dots are dropped; two dots are kept.
-/

namespace FlowBoard

structure Path where
  slashes : Nat := 0
  parts : List String := []
deriving DecidableEq, Repr

namespace Path

def partsOf (cs : List Char) : List String :=
  ((Text.splitOn '/' cs).map String.ofList).filter fun part => !part.isEmpty && part != "."

/-- One slash or more than two start at the root, exactly two at another root. -/
def ofString (s : String) : Path where
  slashes :=
    match (s.toList.takeWhile (· == '/')).length with
    | 0 => 0
    | 2 => 2
    | _ => 1
  parts := partsOf s.toList

def text (p : Path) : String :=
  if p.slashes = 0 && p.parts.isEmpty then "."
  else String.ofList (List.replicate p.slashes '/') ++ String.intercalate "/" p.parts

/-- The last part, if there is one. -/
def name (p : Path) : String := p.parts.getLast?.getD ""

def parent (p : Path) : Path := { p with parts := p.parts.dropLast }

/-- The name before its last dot, unless the dot is its first or its last character. -/
def stemChars (cs : List Char) : List Char :=
  let after := cs.reverse.takeWhile (· != '.')
  let before := (cs.reverse.dropWhile (· != '.')).drop 1
  if after.isEmpty || before.isEmpty then cs else before.reverse

def stem (p : Path) : String := String.ofList (stemChars p.name.toList)

end Path

end FlowBoard
