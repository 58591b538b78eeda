/-!
# Cutting texts at characters
-/

namespace FlowBoard.Text

/-- What stands before the first character that stops, and what follows that character. -/
def cutWhere (stop : Char → Bool) (cs : List Char) : List Char × Option (List Char) :=
  (cs.takeWhile (!stop ·), (cs.dropWhile (!stop ·)).tail?)

/-- What stands before the first place of a character, and what follows it. -/
def cut (c : Char) (cs : List Char) : List Char × Option (List Char) := cutWhere (· == c) cs

/-- What stands before the last place of a character, if it has one, and what follows. -/
def cutLast (c : Char) (cs : List Char) : Option (List Char) × List Char :=
  let (after, before) := cut c cs.reverse
  (before.map List.reverse, after.reverse)

/-- The parts between the places of a character. -/
def splitOn (sep : Char) : List Char → List (List Char)
  | [] => [[]]
  | c :: rest =>
    if c = sep then [] :: splitOn sep rest
    else
      match splitOn sep rest with
      | [] => [[c]]
      | part :: parts => (c :: part) :: parts

end FlowBoard.Text
