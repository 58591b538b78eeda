import FlowBoard.Wire.PageList
import FlowBoard.Wire.TreeFile
import Mathlib.Data.List.Forall2

/-!
# The records of both wire forms

A table of the records with the fields of each, in order, and of what is expected as the value of a
field. `Full` says of a value that every record in it has all of its fields and no other members;
what is written of a page list or of a tree file is such a value.
-/

namespace FlowBoard

namespace Wire

/-- The records of both forms. -/
inductive RecordKind
  | nodeRecord
  | edgeRecord
  | sectionRecord
  | stickyRecord
  | diagramRecord
  | pageRecord
  | pageList
  | endpoint
  | boundingBox
  | item
  | treeFile

/-- What is expected at a place of a payload: a value without records in it, a list or a record. -/
inductive Place
  | plain
  | list (item : Place)
  | record (kind : RecordKind)

def RecordKind.fields : RecordKind → List (FieldName × Place)
  | nodeRecord => [(.sourceId, .plain), (.label, .plain), (.shapeType, .plain), (.x, .plain),
      (.y, .plain), (.sectionId, .plain)]
  | edgeRecord => [(.sourceId, .plain), (.targetId, .plain), (.label, .plain), (.kind, .plain)]
  | sectionRecord => [(.sourceId, .plain), (.label, .plain), (.nodeIds, .list .plain)]
  | stickyRecord => [(.sourceId, .plain), (.text, .plain)]
  | diagramRecord => [(.nodes, .list (.record nodeRecord)), (.edges, .list (.record edgeRecord)),
      (.sections, .list (.record sectionRecord)), (.stickyNotes, .list (.record stickyRecord))]
  | pageRecord => [(.pageId, .plain), (.pageName, .plain), (.diagram, .record diagramRecord)]
  | pageList => [(.pages, .list (.record pageRecord)), (.fileName, .plain)]
  | endpoint => [(.endpointNodeId, .plain)]
  | boundingBox => [(.boxX, .plain), (.boxY, .plain), (.width, .plain), (.height, .plain)]
  | item => [(.id, .plain), (.type, .plain), (.name, .plain), (.characters, .plain),
      (.itemShape, .plain), (.connectorStart, .record endpoint), (.connectorEnd, .record endpoint),
      (.connectorStartCap, .plain), (.connectorEndCap, .plain), (.boundingBox, .record boundingBox),
      (.children, .list (.record item))]
  | treeFile => [(.document, .record item), (.name, .plain)]

namespace Place

/-- The fields of the record at a place, if one is expected there. -/
def fields : Place → List (FieldName × Place)
  | record kind => kind.fields
  | _ => []

/-- What is expected of the items of an array at a place. -/
def item : Place → Place
  | list item => item
  | _ => plain

end Place

/-! ## Values with all fields -/

/-- Every record has the members of its kind, in their order and in camel case, and no others; a
value that is not there is null. -/
inductive Full : Place → Json → Prop
  | plain (v : Json) : Full .plain v
  | absent (place : Place) : Full place .null
  | list {place : Place} {items : List Json} (h : ∀ v ∈ items, Full place v) :
      Full (.list place) (.arr items)
  | record {kind : RecordKind} {fields : Json.Fields}
      (hkeys : fields.keys = kind.fields.map (·.1.camel))
      (hvalues : List.Forall₂ (fun member field => Full field.2 member.2) fields kind.fields) :
      Full (.record kind) (.obj fields)

namespace Full

variable {α : Type} {place : Place} {write : α → Json}

theorem list_map (h : ∀ a, Full place (write a)) (as : List α) :
    Full (.list place) (.arr (as.map write)) := by
  refine .list fun v hv => ?_
  obtain ⟨a, -, rfl⟩ := List.mem_map.mp hv
  exact h a

theorem ofOption (h : ∀ a, Full place (write a)) (a : Option α) :
    Full place (Json.ofOption write a) := by
  cases a with
  | none => exact .absent place
  | some a => exact h a

end Full

theorem NodeRecord.full_toJson (r : NodeRecord) : Full (.record .nodeRecord) r.toJson :=
  .record rfl (.cons (.plain _) (.cons (.plain _) (.cons (.plain _) (.cons (.plain _)
    (.cons (.plain _) (.cons (.plain _) .nil))))))

theorem EdgeRecord.full_toJson (r : EdgeRecord) : Full (.record .edgeRecord) r.toJson :=
  .record rfl (.cons (.plain _) (.cons (.plain _) (.cons (.plain _) (.cons (.plain _) .nil))))

theorem full_sectionJson (r : Section) : Full (.record .sectionRecord) (sectionJson r) :=
  .record rfl (.cons (.plain _) (.cons (.plain _)
    (.cons (Full.list_map (fun id => .plain (.str id)) r.members) .nil)))

theorem full_stickyJson (r : StickyNote) : Full (.record .stickyRecord) (stickyJson r) :=
  .record rfl (.cons (.plain _) (.cons (.plain _) .nil))

theorem PageRecord.full_toJson (r : PageRecord) : Full (.record .pageRecord) r.toJson :=
  .record rfl (.cons (.plain _) (.cons (.plain _) (.cons (.record rfl
    (.cons (Full.list_map NodeRecord.full_toJson r.nodes)
    (.cons (Full.list_map EdgeRecord.full_toJson r.edges)
    (.cons (Full.list_map full_sectionJson r.sections)
    (.cons (Full.list_map full_stickyJson r.stickies) .nil))))) .nil)))

theorem PageList.full_toJson (list : PageList) : Full (.record .pageList) list.toJson :=
  .record rfl (.cons (Full.list_map PageRecord.full_toJson list.pages) (.cons (.plain _) .nil))

theorem full_endpoint (e : Endpoint) : Full (.record .endpoint) e.toJson :=
  .record rfl (.cons (.plain _) .nil)

theorem full_box (b : Box) : Full (.record .boundingBox) b.toJson :=
  .record rfl (.cons (.plain _) (.cons (.plain _) (.cons (.plain _) (.cons (.plain _) .nil))))

theorem full_item (item : Item) {children : Json}
    (h : Full (.list (.record .item)) children) :
    Full (.record .item) (.obj (item.fields ++ [("children", children)])) :=
  .record rfl (.cons (.plain _) (.cons (.plain _) (.cons (.plain _) (.cons (.plain _)
    (.cons (.plain _) (.cons (Full.ofOption full_endpoint item.start)
    (.cons (Full.ofOption full_endpoint item.finish) (.cons (.plain _) (.cons (.plain _)
    (.cons (Full.ofOption full_box item.box) (.cons h .nil)))))))))))

mutual

theorem full_tree : (t : Tree) → Full (.record .item) t.toJson
  | .node item none => full_item item (.absent _)
  | .node item (some children) => full_item item (.list (full_trees children))

theorem full_trees : (trees : List Tree) → ∀ v ∈ Tree.listToJson trees, Full (.record .item) v
  | [] => List.forall_mem_nil _
  | t :: rest => List.forall_mem_cons.mpr ⟨full_tree t, full_trees rest⟩

end

theorem full_treeFile (file : TreeFile) : Full (.record .treeFile) file.toJson :=
  .record rfl (.cons (full_tree file.root) (.cons (.plain _) .nil))

end Wire

end FlowBoard
