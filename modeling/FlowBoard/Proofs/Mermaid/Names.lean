import FlowBoard.Proofs.Mermaid.Blocks
import Mathlib.Data.List.Basic

/-!
# Names in a flowchart

The rank of a node id is its place among the distinct ids, so ranks and names tell ids apart. The
node lines of a flowchart define the name of every node id once, and edge lines use no other names.
-/

namespace FlowBoard

namespace Mermaid

theorem toString_injective : Function.Injective (toString : Nat → String) := by
  intro m n h
  have hdigits : Nat.toDigits 10 m = Nat.toDigits 10 n := by
    rw [← Nat.toList_repr, ← Nat.toList_repr, ← Nat.toString_eq_repr, ← Nat.toString_eq_repr, h]
  rw [← Nat.ofDigitChars_ten_toDigits (n := m), hdigits, Nat.ofDigitChars_ten_toDigits]

theorem nodeName_injective : Function.Injective nodeName := fun _ _ h =>
  toString_injective ((String.append_right_inj _).mp h)

namespace Line

/-- The name that a node line gives to a node. -/
def definedName? : Line → Option String
  | .node _ rank _ _ => some (nodeName rank)
  | _ => none

/-- The name that a node line outside all blocks gives to a node. -/
def topName? : Line → Option String
  | .node false rank _ _ => some (nodeName rank)
  | _ => none

/-- The names between which an edge line draws. -/
def usedNames : Line → List String
  | .edge source target _ _ => [nodeName source, nodeName target]
  | _ => []

/-- The name that an opening line gives to a block. -/
def blockName? : Line → Option String
  | .opening number _ => some ("s" ++ toString number)
  | _ => none

end Line

end Mermaid

open Mermaid

namespace Page

theorem rankIn_getElem {ids : List String} (h : ids.Nodup) {i : Nat} (hi : i < ids.length) :
    rankIn ids ids[i] = i + 1 := by
  have hidx : ids.idxOf? ids[i] = some i := by
    refine List.idxOf?_eq_some_iff.mpr ⟨hi, rfl, fun j hj he => ?_⟩
    have hji := h.getElem_inj_iff.mp he
    omega
  rw [rankIn, hidx]

/-- The distinct ids have the ranks from one on. -/
theorem map_rankIn {ids : List String} (h : ids.Nodup) :
    ids.map (rankIn ids) = List.range' 1 ids.length := by
  apply List.ext_getElem
  · simp
  · intro i hi _
    rw [List.length_map] at hi
    rw [List.getElem_map, rankIn_getElem h hi, List.getElem_range']
    omega

/-- The name of a node id in the flowchart of a page. -/
def nameOf (page : Page) (id : String) : String := nodeName (rankIn page.shownIds id)

variable {page : Page}

theorem eq_of_nameOf_eq {id id' : String} (hid : id ∈ page.nodeIds) (hid' : id' ∈ page.nodeIds)
    (h : page.nameOf id = page.nameOf id') : id = id' := by
  have hnodup : page.shownIds.Nodup := nodup_distinct _
  have hranks : rankIn page.shownIds id = rankIn page.shownIds id' := nodeName_injective h
  obtain ⟨i, hi, rfl⟩ := List.getElem_of_mem (mem_distinct.mpr hid)
  obtain ⟨j, hj, rfl⟩ := List.getElem_of_mem (mem_distinct.mpr hid')
  change rankIn page.shownIds page.shownIds[i] = rankIn page.shownIds page.shownIds[j] at hranks
  rw [rankIn_getElem hnodup hi, rankIn_getElem hnodup hj] at hranks
  obtain rfl : i = j := by omega
  rfl

theorem nodup_map_nameOf {ids : List String} (h : ids.Nodup)
    (hmem : ∀ id ∈ ids, id ∈ page.nodeIds) : (ids.map page.nameOf).Nodup :=
  h.map_on fun id hid id' hid' => eq_of_nameOf_eq (hmem id hid) (hmem id' hid')

theorem exists_nodeOf? {id : String} (h : id ∈ page.nodeIds) :
    ∃ node, page.nodeOf? id = some node := by
  obtain ⟨node, hn, rfl⟩ := List.mem_map.mp h
  apply Option.isSome_iff_exists.mp
  rw [nodeOf?, List.find?_isSome]
  exact ⟨node, hn, by simp⟩

theorem definedNames_nodeLines {ids : List String} (h : ∀ id ∈ ids, id ∈ page.nodeIds)
    (inside : Bool) :
    (page.nodeLines page.shownIds inside ids).filterMap Line.definedName? =
      ids.map page.nameOf := by
  rw [nodeLines, List.filterMap_filterMap, ← List.filterMap_eq_map]
  apply List.filterMap_congr
  intro id hid
  obtain ⟨node, hn⟩ := exists_nodeOf? (h id hid)
  rw [hn]
  rfl

end Page

end FlowBoard
