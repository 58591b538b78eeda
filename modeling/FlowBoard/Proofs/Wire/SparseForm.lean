import FlowBoard.Canvas
import FlowBoard.Ingested
import FlowBoard.Proofs.Wire.RoundTrip

/-!
# The form without absent fields is read back

A field that is left out is read as one without a value, so a page list in the form that leaves
absent fields out is the same list.
-/

namespace FlowBoard.Wire

open Decoder

theorem nodeRecord_sparseJson (r : NodeRecord) : nodeRecord r.sparseJson = .ok r := by
  obtain ⟨id, label, shape, x, y, sectionId⟩ := r
  cases shape <;> cases x <;> cases y <;> cases sectionId <;> rfl

theorem edgeRecord_sparseJson (r : EdgeRecord) : edgeRecord r.sparseJson = .ok r := by
  obtain ⟨source, target, label, kind⟩ := r
  cases label <;> cases kind <;> rfl

theorem pageRecord_sparseJson (r : PageRecord) : pageRecord r.sparseJson = .ok r := by
  refine bind_eq_ok rfl ?_
  refine bind_eq_ok (required_eq_ok rfl rfl) ?_
  refine bind_eq_ok (required_eq_ok rfl rfl) ?_
  refine required_eq_ok rfl ?_
  refine bind_eq_ok rfl ?_
  refine bind_eq_ok (required_eq_ok rfl (list_map fun node _ => nodeRecord_sparseJson node)) ?_
  refine bind_eq_ok (required_eq_ok rfl (list_map fun edge _ => edgeRecord_sparseJson edge)) ?_
  refine bind_eq_ok
    (required_eq_ok rfl (list_map fun group _ => sectionRecord_sectionJson group)) ?_
  refine bind_eq_ok (required_eq_ok rfl (list_map fun note _ => stickyRecord_stickyJson note)) ?_
  rfl

theorem PageList.ofJson_sparseJson (list : PageList) :
    PageList.ofJson list.sparseJson = .ok list := by
  obtain ⟨pages, fileName⟩ := list
  have hpages : Decoder.list pageRecord (.arr (pages.map PageRecord.sparseJson)) = .ok pages :=
    list_map fun record _ => pageRecord_sparseJson record
  cases fileName with
  | none =>
    refine bind_eq_ok rfl ?_
    refine bind_eq_ok (required_eq_ok rfl hpages) ?_
    rfl
  | some name =>
    refine bind_eq_ok rfl ?_
    refine bind_eq_ok (required_eq_ok rfl hpages) ?_
    rfl

theorem PageList.check_sparseJson (list : PageList) (root : String) :
    checkPageList list.sparseJson root = .ok list := by
  rw [checkPageList, PageList.ofJson_sparseJson]
  rfl

theorem PageList.check_toJson (list : PageList) (root : String) :
    checkPageList list.toJson root = .ok list := by
  rw [checkPageList, PageList.ofJson_toJson]
  rfl

end FlowBoard.Wire
