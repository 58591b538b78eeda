import FlowBoard.Proofs.Text.Collapsed
import FlowBoard.Proofs.Tree.Alike
import FlowBoard.Proofs.Tree.FlatPage

/-!
# Text found by a scan

The items of a tree are listed in pre-order, each before those below it. The text that is found in a
tree is the first text in that list that is not empty: items with blank text are passed over, but
not what is below them.
-/

namespace FlowBoard

/-- The first of the texts that is not empty; empty if there is none. -/
def firstGiven (texts : List String) : String := (texts.find? (· ≠ "")).getD ""

theorem firstGiven_eq_empty_iff {texts : List String} :
    firstGiven texts = "" ↔ ∀ s ∈ texts, s = "" := by
  rw [firstGiven]
  cases hfound : texts.find? (· ≠ "") with
  | none => simpa using List.find?_eq_none.mp hfound
  | some s =>
    have hs : s ≠ "" := by simpa using List.find?_some hfound
    exact iff_of_false hs fun h => hs (h s (List.mem_of_find?_eq_some hfound))

/-- When nothing is given in the first texts, those after them are scanned. -/
theorem firstGiven_append (texts rest : List String) :
    firstGiven (texts ++ rest) =
      if (firstGiven texts).isEmpty then firstGiven rest else firstGiven texts := by
  unfold firstGiven
  rw [List.find?_append]
  cases hfound : texts.find? (· ≠ "") with
  | none => rfl
  | some s =>
    have hs : s.isEmpty = false := by
      have hne : s ≠ "" := by simpa using List.find?_some hfound
      simpa using hne
    rw [Option.some_or, Option.getD_some, hs, if_neg Bool.false_ne_true]

theorem firstGiven_singleton (s : String) : firstGiven [s] = s := by
  by_cases hs : s = ""
  · subst hs
    rfl
  · simp [firstGiven, hs]

namespace Tree

mutual

/-- The items of a tree in pre-order. -/
def items : Tree → List Item
  | .node item none => [item]
  | .node item (some children) => item :: itemsOf children

def itemsOf : List Tree → List Item
  | [] => []
  | tree :: rest => tree.items ++ itemsOf rest

end

theorem items_node (item : Item) (children : Option (List Tree)) :
    items (.node item children) = item :: itemsOf (children.getD []) := by
  cases children with
  | none => rw [items, Option.getD_none, itemsOf]
  | some trees => rw [items, Option.getD_some]

/-! ## The walk and the scan -/

mutual

theorem firstText_eq_firstGiven :
    (tree : Tree) → tree.firstText = firstGiven (tree.items.map Item.ownText)
  | .node item none => by
    rw [firstText, items, List.map_singleton, firstGiven_singleton]
  | .node item (some children) => by
    rw [firstText_node, items_node, Option.getD_some, List.map_cons, ← List.singleton_append,
      firstGiven_append, firstGiven_singleton, firstTextOf_eq_firstGiven children]

theorem firstTextOf_eq_firstGiven :
    (trees : List Tree) → firstTextOf trees = firstGiven ((itemsOf trees).map Item.ownText)
  | [] => rfl
  | tree :: rest => by
    rw [firstTextOf, itemsOf, List.map_append, firstGiven_append, firstText_eq_firstGiven tree,
      firstTextOf_eq_firstGiven rest]

end

/-- The text found in a tree is the first clean text, in pre-order, that is not empty, and it is
empty only if all of them are. It is a clean text, which cleaning leaves as it is; no text changes
when it is cleaned a second time. -/
theorem firstText_scans (tree : Tree) :
    tree.firstText =
        (((tree.items.map fun item => Text.clean (item.characters.getD "")).find?
          (· ≠ "")).getD "") ∧
      (tree.firstText = "" ↔ ∀ item ∈ tree.items, Text.clean (item.characters.getD "") = "") ∧
      Text.clean tree.firstText = tree.firstText ∧ Text.IsClean tree.firstText ∧
      ∀ s, Text.clean (Text.clean s) = Text.clean s := by
  have hclean : Text.IsClean tree.firstText := by
    obtain ⟨s, hs⟩ := tree.exists_clean_firstText
    exact hs ▸ Text.isClean_clean s
  refine ⟨tree.firstText_eq_firstGiven, ?_, Text.clean_eq_self_iff.mpr hclean, hclean,
    Text.clean_clean⟩
  rw [firstText_eq_firstGiven, firstGiven_eq_empty_iff, List.forall_mem_map]
  rfl

/-- What stands below a blank item comes before what stands beside it. -/
example :
    let leaf (text : String) : Tree :=
      .node { id := "t", kind := "TEXT", characters := some text } none
    let group : Tree := .node { id := "g", kind := "GROUP" } (some [leaf " ", leaf "\tdeep "])
    firstText (.node { id := "s", kind := Item.shapeKind, characters := some "\n" }
      (some [group, leaf "beside"])) = "deep" := by
  decide

end Tree

end FlowBoard
