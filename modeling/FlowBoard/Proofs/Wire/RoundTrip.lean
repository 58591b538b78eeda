import FlowBoard.Wire.PageList
import FlowBoard.Wire.TreeFile

/-!
# What is written is read back

A decoder takes back the records that were written, field by field and item by item. Both wire forms
are read as they were written; a tree file must not be deeper than the decoder goes.
-/

namespace FlowBoard

namespace Wire

open Decoder

variable {α : Type} {d : Decoder α} {name : FieldName} {fields : Json.Fields}

theorem bind_eq_ok {β ε : Type} {x : Except ε α} {f : α → Except ε β} {a : α} {b : β}
    (hx : x = .ok a) (hf : f a = .ok b) : x >>= f = .ok b := by
  rw [hx]
  exact hf

theorem below_eq_ok {v : Json} {a : α} (h : d v = .ok a) (step : Step) :
    d.below step v = .ok a := by
  rw [below, h]

theorem required_eq_ok {v : Json} {a : α} (hv : Keyed.find? name.camel fields = some v)
    (h : d v = .ok a) : required name d fields = .ok a := by
  rw [required, FieldName.find?, hv]
  exact below_eq_ok h _

theorem optional_eq_some {v : Json} {a : α} (hv : Keyed.find? name.camel fields = some v)
    (hnull : v ≠ .null) (h : d v = .ok a) : Decoder.optional name d fields = .ok (some a) := by
  have hbelow := below_eq_ok h (.key name.camel)
  rw [Decoder.optional, FieldName.find?, hv]
  cases v with
  | null => exact absurd rfl hnull
  | _ => exact congrArg (Except.map some) hbelow

theorem optional_eq_ok {write : α → Json} {a : Option α}
    (hv : Keyed.find? name.camel fields = some (Json.ofOption write a))
    (h : ∀ b, write b ≠ .null ∧ d (write b) = .ok b) :
    Decoder.optional name d fields = .ok a := by
  cases a with
  | none =>
    rw [Decoder.optional, FieldName.find?, hv]
    rfl
  | some b => exact optional_eq_some hv (h b).1 (h b).2

theorem optional_text_eq_ok {s : Option String}
    (hv : Keyed.find? name.camel fields = some (.ofString? s)) :
    Decoder.optional name text fields = .ok s := by
  rw [Decoder.optional, FieldName.find?, hv]
  cases s <;> rfl

theorem itemsFrom_map {write : α → Json} {as : List α} (h : ∀ a ∈ as, d (write a) = .ok a)
    (i : Nat) : itemsFrom d i (as.map write) = .ok as := by
  induction as generalizing i with
  | nil => rfl
  | cons a rest ih =>
    have hrest := ih (fun b hb => h b (List.mem_cons_of_mem _ hb)) (i + 1)
    rw [List.map_cons, itemsFrom, below_eq_ok (h a List.mem_cons_self), hrest]

theorem list_map {write : α → Json} {as : List α} (h : ∀ a ∈ as, d (write a) = .ok a) :
    list d (.arr (as.map write)) = .ok as := itemsFrom_map h 0

theorem number_toJson (x : Finite) : number x.toJson = .ok x := rfl

theorem optional_number_eq_ok {x : Option Finite}
    (hv : Keyed.find? name.camel fields = some (finiteOrNull x)) :
    Decoder.optional name number fields = .ok x := by
  rw [Decoder.optional, FieldName.find?, hv]
  cases x <;> rfl

/-! ## Page lists -/

theorem nodeRecord_toJson (r : NodeRecord) : nodeRecord r.toJson = .ok r := by
  refine bind_eq_ok rfl ?_
  refine bind_eq_ok (required_eq_ok rfl rfl) ?_
  refine bind_eq_ok (required_eq_ok rfl rfl) ?_
  refine bind_eq_ok (optional_text_eq_ok rfl) ?_
  refine bind_eq_ok (optional_number_eq_ok rfl) ?_
  refine bind_eq_ok (optional_number_eq_ok rfl) ?_
  refine bind_eq_ok (optional_text_eq_ok rfl) ?_
  rfl

theorem edgeKind_name (kind : EdgeKind) : edgeKind (.str kind.name) = .ok kind := by
  cases kind <;> rfl

theorem edgeRecord_toJson (r : EdgeRecord) : edgeRecord r.toJson = .ok r := by
  refine bind_eq_ok rfl ?_
  refine bind_eq_ok (required_eq_ok rfl rfl) ?_
  refine bind_eq_ok (required_eq_ok rfl rfl) ?_
  refine bind_eq_ok (optional_text_eq_ok rfl) ?_
  refine bind_eq_ok (required_eq_ok rfl (edgeKind_name r.kind)) ?_
  rfl

theorem sectionRecord_sectionJson (r : Section) : sectionRecord (sectionJson r) = .ok r := by
  refine bind_eq_ok rfl ?_
  refine bind_eq_ok (required_eq_ok rfl rfl) ?_
  refine bind_eq_ok (required_eq_ok rfl rfl) ?_
  refine bind_eq_ok (required_eq_ok rfl (list_map fun _ _ => rfl)) ?_
  rfl

theorem stickyRecord_stickyJson (r : StickyNote) : stickyRecord (stickyJson r) = .ok r := by
  refine bind_eq_ok rfl ?_
  refine bind_eq_ok (required_eq_ok rfl rfl) ?_
  refine bind_eq_ok (required_eq_ok rfl rfl) ?_
  rfl

theorem pageRecord_toJson (r : PageRecord) : pageRecord r.toJson = .ok r := by
  refine bind_eq_ok rfl ?_
  refine bind_eq_ok (required_eq_ok rfl rfl) ?_
  refine bind_eq_ok (required_eq_ok rfl rfl) ?_
  refine required_eq_ok rfl ?_
  refine bind_eq_ok rfl ?_
  refine bind_eq_ok (required_eq_ok rfl (list_map fun node _ => nodeRecord_toJson node)) ?_
  refine bind_eq_ok (required_eq_ok rfl (list_map fun edge _ => edgeRecord_toJson edge)) ?_
  refine bind_eq_ok
    (required_eq_ok rfl (list_map fun group _ => sectionRecord_sectionJson group)) ?_
  refine bind_eq_ok (required_eq_ok rfl (list_map fun note _ => stickyRecord_stickyJson note)) ?_
  rfl

theorem PageList.ofJson_toJson (list : PageList) : PageList.ofJson list.toJson = .ok list := by
  refine bind_eq_ok rfl ?_
  refine bind_eq_ok (required_eq_ok rfl (list_map fun record _ => pageRecord_toJson record)) ?_
  refine bind_eq_ok (optional_text_eq_ok rfl) ?_
  rfl

/-! ## Tree files -/

theorem endpoint_toJson (e : Endpoint) : endpoint e.toJson = .ok e := by
  refine bind_eq_ok rfl ?_
  refine bind_eq_ok (optional_text_eq_ok rfl) ?_
  rfl

theorem boundingBox_toJson (b : Box) : boundingBox b.toJson = .ok b := by
  refine bind_eq_ok rfl ?_
  refine bind_eq_ok (required_eq_ok rfl (number_toJson b.x)) ?_
  refine bind_eq_ok (required_eq_ok rfl (number_toJson b.y)) ?_
  refine bind_eq_ok (required_eq_ok rfl (number_toJson b.width)) ?_
  refine bind_eq_ok (required_eq_ok rfl (number_toJson b.height)) ?_
  rfl

theorem itemFields_fields (item : Item) (children : Json) :
    itemFields (item.fields ++ [("children", children)]) = .ok item := by
  have hendpoint : ∀ e : Endpoint, e.toJson ≠ .null ∧ endpoint e.toJson = .ok e :=
    fun e => ⟨nofun, endpoint_toJson e⟩
  have hbox : ∀ b : Box, b.toJson ≠ .null ∧ boundingBox b.toJson = .ok b :=
    fun b => ⟨nofun, boundingBox_toJson b⟩
  refine bind_eq_ok (required_eq_ok rfl rfl) ?_
  refine bind_eq_ok (required_eq_ok rfl rfl) ?_
  refine bind_eq_ok (optional_text_eq_ok rfl) ?_
  refine bind_eq_ok (optional_text_eq_ok rfl) ?_
  refine bind_eq_ok (optional_text_eq_ok rfl) ?_
  refine bind_eq_ok (optional_eq_ok rfl hendpoint) ?_
  refine bind_eq_ok (optional_eq_ok rfl hendpoint) ?_
  refine bind_eq_ok (optional_text_eq_ok rfl) ?_
  refine bind_eq_ok (optional_text_eq_ok rfl) ?_
  refine bind_eq_ok (optional_eq_ok rfl hbox) ?_
  rfl

end Wire

namespace Tree

mutual

/-- How many items deep a tree is. -/
def depth : Tree → Nat
  | .node _ none => 1
  | .node _ (some children) => depthOf children + 1

def depthOf : List Tree → Nat
  | [] => 0
  | tree :: rest => max tree.depth (depthOf rest)

end

theorem depthOf_le {trees : List Tree} {n : Nat} (h : ∀ tree ∈ trees, tree.depth ≤ n) :
    depthOf trees ≤ n := by
  induction trees with
  | nil => exact Nat.zero_le n
  | cons tree rest ih =>
    have hrest := ih fun t ht => h t (List.mem_cons_of_mem _ ht)
    rw [depthOf]
    exact Nat.max_le.mpr ⟨h tree List.mem_cons_self, hrest⟩

end Tree

namespace Wire

open Decoder

theorem exists_succ_of_depth_le {t : Tree} {n : Nat} (h : t.depth ≤ n) : ∃ m, n = m + 1 := by
  have hpos : 0 < t.depth := by
    cases t with
    | node item children => cases children <;> exact Nat.succ_pos _
  exact ⟨n - 1, by omega⟩

mutual

/-- A tree is read back by a decoder that goes as deep as it. -/
theorem tree_toJson {n : Nat} : (t : Tree) → t.depth ≤ n → tree n t.toJson = .ok t
  | .node item none, h => by
    obtain ⟨m, rfl⟩ := exists_succ_of_depth_le h
    refine bind_eq_ok rfl ?_
    refine bind_eq_ok (itemFields_fields item _) ?_
    rfl
  | .node item (some children), h => by
    obtain ⟨m, rfl⟩ := exists_succ_of_depth_le h
    have hchildren := itemsFrom_listToJson children (Nat.le_of_succ_le_succ h) 0
    refine bind_eq_ok rfl ?_
    refine bind_eq_ok (itemFields_fields item _) ?_
    refine bind_eq_ok (optional_eq_some rfl nofun hchildren) ?_
    rfl

theorem itemsFrom_listToJson {n : Nat} : (trees : List Tree) → Tree.depthOf trees ≤ n →
    (i : Nat) → itemsFrom (tree n) i (Tree.listToJson trees) = .ok trees
  | [], _, _ => rfl
  | t :: rest, h, i => by
    rw [Tree.depthOf] at h
    obtain ⟨ht, hr⟩ := Nat.max_le.mp h
    have hrest := itemsFrom_listToJson rest hr (i + 1)
    rw [Tree.listToJson, itemsFrom, below_eq_ok (tree_toJson t ht), hrest]

end

end Wire

open Wire in
theorem TreeFile.ofJson_toJson {file : TreeFile} (h : file.root.depth ≤ maxDepth) :
    TreeFile.ofJson file.toJson = .ok file := by
  refine bind_eq_ok rfl ?_
  refine bind_eq_ok (required_eq_ok rfl (tree_toJson file.root h)) ?_
  refine bind_eq_ok (optional_text_eq_ok rfl) ?_
  rfl

end FlowBoard
