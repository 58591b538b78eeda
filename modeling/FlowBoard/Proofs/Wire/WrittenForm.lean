import FlowBoard.Proofs.Wire.Conformance
import FlowBoard.Proofs.Wire.Records
import FlowBoard.Proofs.Wire.SparseForm

/-!
# The written form passes the checks

A tree file that is not too deep is written with all of its fields, and the check of what is written
gives the tree file back. What a check has taken is never too deep, so it makes no difference to a
payload of either form whether what was taken is written and checked once more.
-/

namespace FlowBoard

namespace Wire

variable {v : Json} {root : String} {file : TreeFile}

theorem TreeFile.check_toJson (h : file.root.depth ≤ maxDepth) (root : String) :
    checkTree file.toJson root = .ok file := by
  rw [checkTree, TreeFile.ofJson_toJson h]
  rfl

theorem depth_of_checkTree (h : checkTree v root = .ok file) : file.root.depth ≤ maxDepth := by
  rw [checkTree, mapError_eq_ok_iff] at h
  exact ((TreeFile.ofJson_exact v file).mp h).2

/-- A step that changes no value that comes out can be left out. -/
theorem bind_eq_self {α ε : Type} {x : Except ε α} {f : α → Except ε α}
    (h : ∀ a, x = .ok a → f a = .ok a) : x >>= f = x := by
  cases x with
  | error e => rfl
  | ok a => exact h a rfl

/-- Both forms are read back as they were written; writing what a check has taken, to check it again
with any root, changes nothing. -/
theorem checks_written_form :
    (∀ file : TreeFile, file.root.depth ≤ maxDepth →
      Full (.record .treeFile) file.toJson ∧ ∀ root, checkTree file.toJson root = .ok file) ∧
    (∀ list : PageList,
      Full (.record .pageList) list.toJson ∧ ∀ root, checkPageList list.toJson root = .ok list) ∧
    (∀ v root root', (do checkTree (← checkTree v root).toJson root') = checkTree v root) ∧
    ∀ v root root',
      (do checkPageList (← checkPageList v root).toJson root') = checkPageList v root := by
  refine ⟨fun file h => ⟨full_treeFile file, TreeFile.check_toJson h⟩,
    fun list => ⟨list.full_toJson, list.check_toJson⟩, fun v root root' => ?_,
    fun v root root' => ?_⟩
  · refine bind_eq_self fun file h => ?_
    exact TreeFile.check_toJson (depth_of_checkTree h) root'
  · exact bind_eq_self fun list _ => list.check_toJson root'

/-- A canvas with a shape that has a place, a connector with one loose end and an empty group. -/
def sketch : TreeFile where
  name := some "Sketch"
  root := .node { id := "0", kind := Item.canvasKind } (some [
    .node { id := "a", kind := Item.shapeKind, characters := some "",
            box := some ⟨{ Finite.zero with negative := true }, three, three, .zero⟩ } none,
    .node { id := "c", kind := Item.connectorKind, start := some ⟨some "a"⟩, finish := some ⟨none⟩,
            finishCap := some "LINE_ARROW" } none,
    .node { id := "s", kind := Item.sectionKind, name := some "Group" } (some [
      .node { id := "t", kind := Item.stickyKind } (some [])])])

theorem checks_written_form_sketch : sketch.root.depth ≤ maxDepth ∧
    Full (.record .treeFile) sketch.toJson ∧ checkTree sketch.toJson treeRoot = .ok sketch := by
  have hdepth : sketch.root.depth ≤ maxDepth := by decide
  obtain ⟨hfull, hcheck⟩ := checks_written_form.1 sketch hdepth
  exact ⟨hdepth, hfull, hcheck treeRoot⟩

end Wire

end FlowBoard
