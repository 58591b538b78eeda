/-!
# Entries by key, in order of first arrival

`put` replaces the value of a key where it first stood, and appends a new key at the end.
`distinct` keeps the first occurrence of every member.
-/

namespace FlowBoard

variable {κ α : Type} [DecidableEq κ]

/-- Entries with their keys, in order of the first arrival of each key. -/
abbrev Keyed (κ α : Type) := List (κ × α)

namespace Keyed

def put (k : κ) (a : α) : Keyed κ α → Keyed κ α
  | [] => [(k, a)]
  | (k', a') :: rest => if k' = k then (k, a) :: rest else (k', a') :: put k a rest

def find? (k : κ) : Keyed κ α → Option α
  | [] => none
  | (k', a) :: rest => if k' = k then some a else find? k rest

def keys (entries : Keyed κ α) : List κ := entries.map (·.1)

def values (entries : Keyed κ α) : List α := entries.map (·.2)

/-- Puts the entries one after the other. -/
def ofList (entries : List (κ × α)) : Keyed κ α := entries.foldl (fun m e => put e.1 e.2 m) []

/-- Changes the value of a key that is there. -/
def update (k : κ) (f : α → α) : Keyed κ α → Keyed κ α
  | [] => []
  | (k', a) :: rest => if k' = k then (k', f a) :: rest else (k', a) :: update k f rest

end Keyed

/-- The members in order of first occurrence, each once. -/
def distinct : List κ → List κ
  | [] => []
  | k :: rest => k :: (distinct rest).filter (· ≠ k)

end FlowBoard
