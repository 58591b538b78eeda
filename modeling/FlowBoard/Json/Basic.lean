import FlowBoard.Keyed
import FlowBoard.Number.Basic

/-!
# JSON values

Objects keep their members in order of first arrival, one for each key. Numbers are whole or
binary as they were written. A string that was read has stand-ins for halves of surrogate pairs.
-/

namespace FlowBoard

inductive Json
  | null
  | bool (b : Bool)
  | num (n : Number)
  | str (s : String)
  | arr (items : List Json)
  | obj (fields : List (String × Json))
deriving Repr

namespace Json

abbrev Fields := Keyed String Json

/-- The value of a member, if the value is an object that has it. -/
def field? (key : String) : Json → Option Json
  | .obj fields => Keyed.find? key fields
  | _ => none

def isObject : Json → Bool
  | .obj _ => true
  | _ => false

def isString : Json → Bool
  | .str _ => true
  | _ => false

def int (n : Int) : Json := .num (.whole n)

def nat (n : Nat) : Json := .num (.whole n)

/-- The string, or null where there is none. -/
def ofString? : Option String → Json
  | some s => .str s
  | none => .null

def ofNumber? : Option Number → Json
  | some n => .num n
  | none => .null

mutual

/-- Equality by value: numbers by what they are worth, objects without regard to order. -/
def sameValue : Json → Json → Bool
  | .null, .null => true
  | .bool a, .bool b => a == b
  | .num m, .num n => m.sameValue n
  | .str s, .str t => s == t
  | .arr xs, .arr ys => sameItems xs ys
  | .obj fs, .obj gs => fs.length == gs.length && sameFields fs gs
  | _, _ => false

def sameItems : List Json → List Json → Bool
  | [], [] => true
  | x :: xs, y :: ys => sameValue x y && sameItems xs ys
  | _, _ => false

/-- Every member of the first list has its value in the second. -/
def sameFields : List (String × Json) → List (String × Json) → Bool
  | [], _ => true
  | (k, x) :: fs, gs =>
    (match Keyed.find? k gs with
      | some y => sameValue x y
      | none => false) && sameFields fs gs

end

mutual

/-- There is such a number in the value. -/
def anyNumber (p : Number → Bool) : Json → Bool
  | .null | .bool _ | .str _ => false
  | .num n => p n
  | .arr items => anyNumberItems p items
  | .obj fields => anyNumberFields p fields

def anyNumberItems (p : Number → Bool) : List Json → Bool
  | [] => false
  | x :: xs => anyNumber p x || anyNumberItems p xs

def anyNumberFields (p : Number → Bool) : List (String × Json) → Bool
  | [] => false
  | (_, x) :: fs => anyNumber p x || anyNumberFields p fs

end

mutual

/-- A string or a key of the value has such a character. -/
def anyChar (p : Char → Bool) : Json → Bool
  | .null | .bool _ | .num _ => false
  | .str s => s.toList.any p
  | .arr items => anyCharItems p items
  | .obj fields => anyCharFields p fields

def anyCharItems (p : Char → Bool) : List Json → Bool
  | [] => false
  | x :: xs => anyChar p x || anyCharItems p xs

def anyCharFields (p : Char → Bool) : List (String × Json) → Bool
  | [] => false
  | (k, x) :: fs => k.toList.any p || anyChar p x || anyCharFields p fs

end

end Json

end FlowBoard
