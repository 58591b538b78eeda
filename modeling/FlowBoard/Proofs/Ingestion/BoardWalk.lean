import FlowBoard.Proofs.Ingestion.Board
import FlowBoard.Proofs.Tree.Walk

/-!
# Walking a board

Walking the tree of a board gathers exactly the records that its page list holds. `Gathers` says so
of the entries that were met; a part or a section that is met next keeps it, as does a whole run.
-/

namespace FlowBoard

namespace Board

open FlowBoard.Tree Wire

/-! ## Texts -/

theorem clean_empty : Text.clean "" = "" := by decide

theorem isEmpty_text (text : CleanText) : text.val.isEmpty = false := by
  simpa using text.property.2

theorem orElse_text (text : CleanText) (fallback : String) :
    Text.orElse text.val fallback = text.val := by
  rw [Text.orElse, isEmpty_text, if_neg Bool.false_ne_true]

theorem firstText_textTree (owner : String) (text : CleanText) :
    (textTree owner text).firstText = text.val := text.property.1

theorem firstTextOf_textTree (owner : String) (text : CleanText) (rest : List Tree) :
    firstTextOf (textTree owner text :: rest) = text.val := by
  rw [firstTextOf, firstText_textTree, isEmpty_text, if_neg Bool.false_ne_true]

/-- An item without a text of its own has the first text of its children. -/
theorem firstText_of_children {item : Item} (h : item.characters = none) (children : List Tree) :
    firstText (.node item (some children)) = firstTextOf children := by
  have hown : item.ownText.isEmpty = true := by
    rw [Item.ownText, h, Option.getD_none, clean_empty]
    rfl
  rw [firstText, if_pos hown]

/-- Marks without a text are passed over. -/
theorem firstTextOf_marks {marks : List Mark} (h : ∀ mark ∈ marks, mark.text? = none)
    (rest : List Tree) : firstTextOf (marks.map Mark.tree ++ rest) = firstTextOf rest := by
  induction marks with
  | nil => rfl
  | cons mark marks ih =>
    have hempty : mark.tree.firstText = "" := by
      have hnone := h mark List.mem_cons_self
      cases mark with
      | connector id start finish startCap finishCap label =>
        obtain rfl : label = none := hnone
        rfl
      | note id text => cases hnone
    rw [List.map_cons, List.cons_append, firstTextOf, hempty]
    exact ih fun mark hm => h mark (List.mem_cons_of_mem _ hm)

theorem shapeNode_tree (sectionId : Option String) {shape : Shape}
    (h : (Part.shape shape).TextFirst) :
    shapeNode sectionId shape.tree = (shape.record sectionId).toNode := by
  have hlabel : shapeLabel shape.tree = shape.label := by
    rw [shapeLabel, Shape.tree, firstText_of_children rfl, firstTextOf_marks h,
      firstTextOf_textTree, orElse_text]
  rw [shapeNode, hlabel]
  cases hbox : shape.box <;> simp [Shape.tree, Tree.item, Shape.record, NodeRecord.toNode, hbox]

/-! ## Marks and shapes -/

/-- What marks add to what is gathered. -/
def addMarks (out : Gathered) (marks : List Mark) : Gathered :=
  { out with
    edges := out.edges ++ (marks.filterMap Mark.edge?).map EdgeRecord.toEdge
    stickies := out.stickies ++ marks.filterMap Mark.note? }

theorem gather_textTree (sectionId : Option String) (out : Gathered) (owner : String)
    (text : CleanText) : gather sectionId out (textTree owner text) = out := by
  simp [textTree, gather, Gathered.addItem, Tree.item, Item.sectionKind, Item.shapeKind,
    Item.connectorKind, Item.stickyKind]

theorem attached?_key (id : Key) : attached? (some ⟨some id.val⟩) = some id.val := by
  have hid : id.val.isEmpty = false := by simpa using id.property
  simp [attached?, hid]

theorem connectorEdge?_tree (id : String) (start finish : Key) (startCap finishCap : Option String)
    (label : Option CleanText) :
    connectorEdge? (Mark.connector id start finish startCap finishCap label).tree =
      (Mark.connector id start finish startCap finishCap label).edge?.map
        EdgeRecord.toEdge := by
  cases label with
  | none =>
    have htext : firstText (Mark.connector id start finish startCap finishCap none).tree = "" := by
      rfl
    rw [connectorEdge?, htext]
    simp [Mark.tree, Tree.item, attached?_key, Mark.edge?, Connector.edge, EdgeRecord.toEdge]
  | some label =>
    have htext : firstText (Mark.connector id start finish startCap finishCap (some label)).tree =
        label.val := (firstText_of_children rfl _).trans (firstTextOf_textTree id label [])
    rw [connectorEdge?, htext, isEmpty_text]
    simp [Mark.tree, Tree.item, attached?_key, Mark.edge?, Connector.edge, EdgeRecord.toEdge]

theorem stickyNote?_tree (id : String) (text : CleanText) :
    stickyNote? (Mark.note id text).tree = some ⟨id, text⟩ := by
  have htext : firstText (Mark.note id text).tree = text :=
    (firstText_of_children rfl _).trans (firstTextOf_textTree id text [])
  rw [stickyNote?, htext, orElse_text, isEmpty_text]
  rfl

/-- A tree that is no section is visited before the trees in it. -/
theorem gather_eq_gatherAll {tree : Tree} (h : tree.item.kind ≠ Item.sectionKind)
    (sectionId : Option String) (out : Gathered) :
    gather sectionId out tree =
      gatherAll sectionId (out.visit ⟨tree, sectionId⟩) tree.children := by
  obtain ⟨item, children⟩ := tree
  have hkind : item.kind ≠ Item.sectionKind := h
  have hvisit : out.visit ⟨.node item children, sectionId⟩ =
      out.addItem sectionId (.node item children) := by
    rw [Gathered.visit]
    exact congrArg (Gathered.addItem · sectionId _) (if_neg h)
  rw [hvisit]
  cases children with
  | none => simp only [gather, if_neg hkind, Tree.children, Option.getD_none, gatherAll]
  | some trees => simp only [gather, if_neg hkind, Tree.children, Option.getD_some]

theorem kind_mark (mark : Mark) :
    mark.tree.item.kind ≠ Item.sectionKind ∧ mark.tree.item.kind ≠ Item.shapeKind := by
  cases mark with
  | connector => exact ⟨(by decide : Item.connectorKind ≠ Item.sectionKind),
      (by decide : Item.connectorKind ≠ Item.shapeKind)⟩
  | note => exact ⟨(by decide : Item.stickyKind ≠ Item.sectionKind),
      (by decide : Item.stickyKind ≠ Item.shapeKind)⟩

theorem edge?_mark (mark : Mark) (sectionId : Option String) :
    Visit.edge? ⟨mark.tree, sectionId⟩ = mark.edge?.map EdgeRecord.toEdge := by
  cases mark with
  | connector id start finish startCap finishCap label =>
    exact (if_pos rfl).trans (connectorEdge?_tree id start finish startCap finishCap label)
  | note id text =>
    exact if_neg (by decide : Item.stickyKind ≠ Item.connectorKind)

theorem note?_mark (mark : Mark) (sectionId : Option String) :
    Visit.note? ⟨mark.tree, sectionId⟩ = mark.note? := by
  cases mark with
  | connector => exact if_neg (by decide : Item.connectorKind ≠ Item.stickyKind)
  | note id text =>
    exact (if_pos rfl).trans (stickyNote?_tree id text)

theorem gatherAll_children_mark (sectionId : Option String) (out : Gathered) (mark : Mark) :
    gatherAll sectionId out mark.tree.children = out := by
  cases mark with
  | connector id start finish startCap finishCap label =>
    cases label with
    | none => rfl
    | some label => exact gather_textTree sectionId out id label
  | note id text => exact gather_textTree sectionId out id text

theorem gather_mark (sectionId : Option String) (out : Gathered) (mark : Mark) :
    gather sectionId out mark.tree = addMarks out [mark] := by
  obtain ⟨hsection, hshape⟩ := kind_mark mark
  have hvisit := visit_of_other out (v := ⟨mark.tree, sectionId⟩) hsection hshape
  rw [gather_eq_gatherAll hsection, gatherAll_children_mark, hvisit, edge?_mark,
    note?_mark, addMarks, filterMap_singleton, filterMap_singleton]
  cases mark.edge? <;> rfl

theorem addMarks_append (out : Gathered) (marks rest : List Mark) :
    addMarks (addMarks out marks) rest = addMarks out (marks ++ rest) := by
  simp only [addMarks, List.append_assoc, ← List.map_append, ← List.filterMap_append]

theorem gatherAll_marks (sectionId : Option String) (out : Gathered) (marks : List Mark) :
    gatherAll sectionId out (marks.map Mark.tree) = addMarks out marks := by
  induction marks generalizing out with
  | nil => simp [gatherAll, addMarks]
  | cons mark rest ih =>
    rw [List.map_cons, gatherAll, gather_mark, ih, addMarks_append, List.singleton_append]

theorem gatherAll_append (sectionId : Option String) (out : Gathered) (trees rest : List Tree) :
    gatherAll sectionId out (trees ++ rest) =
      gatherAll sectionId (gatherAll sectionId out trees) rest := by
  induction trees generalizing out with
  | nil => rfl
  | cons tree trees ih => rw [List.cons_append, gatherAll, gatherAll, ih]

theorem gather_shape (sectionId : Option String) (out : Gathered) {shape : Shape}
    (h : (Part.shape shape).TextFirst) :
    gather sectionId out shape.tree =
      addMarks (out.addShape sectionId (shape.record sectionId).toNode)
        (shape.front ++ shape.back) := by
  have hkind : shape.tree.item.kind = Item.shapeKind := rfl
  have hvisit := visit_of_shape out (v := ⟨shape.tree, sectionId⟩) hkind
  have hchildren : shape.tree.children = shape.front.map Mark.tree ++
      textTree shape.id shape.label :: shape.back.map Mark.tree := rfl
  rw [gather_eq_gatherAll (by rw [hkind]; decide), hvisit, shapeNode_tree sectionId h, hchildren,
    gatherAll_append, gatherAll_marks, gatherAll, gather_textTree, gatherAll_marks,
    addMarks_append]

/-- What a part adds, inside the section with that id, if any. -/
def addPart (out : Gathered) (sectionId : Option String) (part : Part) : Gathered :=
  addMarks (part.shape?.elim out fun s => out.addShape sectionId (s.record sectionId).toNode)
    part.marks

theorem gather_part (sectionId : Option String) (out : Gathered) {part : Part}
    (h : part.TextFirst) : gather sectionId out part.tree = addPart out sectionId part := by
  cases part with
  | shape s => exact gather_shape sectionId out h
  | mark m => exact gather_mark sectionId out m

/-! ## Records of entries -/

/-- The entry of a section of which only these parts were met so far. -/
def Group.upTo (group : Group) (parts : List Part) : Entry := .group { group with parts }

section Lists

variable (done rest : List Entry) (group : Group) (parts more : List Part) (part : Part)

def Part.records (sectionId : Option String) (part : Part) : List NodeRecord :=
  (part.shape?.map (·.record sectionId)).toList

theorem nodeRecords_append : nodeRecords (done ++ rest) = nodeRecords done ++ nodeRecords rest := by
  simp only [nodeRecords, List.flatMap_append, List.filterMap_append]

theorem marks_append : marks (done ++ rest) = marks done ++ marks rest := by
  simp only [marks, List.flatMap_append]

theorem groups_append : groups (done ++ rest) = groups done ++ groups rest := by
  simp only [groups, List.filterMap_append]

theorem nodeRecords_part : nodeRecords [.part part] = part.records none := by
  simp only [nodeRecords, List.flatMap_singleton, Entry.parts, filterMap_singleton, Part.records]

theorem marks_part : marks [.part part] = part.marks := by
  simp only [marks, List.flatMap_singleton, Entry.parts]

theorem nodeRecords_upTo_append : nodeRecords [group.upTo (parts ++ more)] =
    nodeRecords [group.upTo parts] ++ nodeRecords [group.upTo more] := by
  simp only [nodeRecords, List.flatMap_singleton, Group.upTo, Entry.parts, List.map_append,
    List.filterMap_append]

theorem nodeRecords_upTo_singleton :
    nodeRecords [group.upTo [part]] = part.records (some group.id.val) := by
  simp only [nodeRecords, List.flatMap_singleton, Group.upTo, Entry.parts, List.map_cons,
    List.map_nil, filterMap_singleton, Part.records]

theorem marks_upTo_concat : marks [group.upTo (parts ++ [part])] =
    marks [group.upTo parts] ++ part.marks := by
  simp only [marks, List.flatMap_singleton, Group.upTo, Entry.parts, List.map_append,
    List.flatMap_append, List.map_cons, List.map_nil]

theorem record_concat : ({ group with parts := parts ++ [part] } : Group).record =
    { ({ group with parts } : Group).record with
      members := ({ group with parts } : Group).record.members ++
        part.shape?.toList.map Shape.id } := by
  simp only [Group.record, Group.shapes, List.filterMap_append, filterMap_singleton,
    List.map_append]

end Lists

/-- Of records with distinct ids, those before a shape have others than it. -/
theorem id_not_mem_of_nodup {before after : List NodeRecord} {part : Part}
    {sectionId : Option String} {shape : Shape} (hs : part.shape? = some shape)
    (h : ((before ++ (part.records sectionId ++ after)).map NodeRecord.id).Nodup) :
    shape.id ∉ before.map NodeRecord.id := by
  rw [Part.records, hs, List.map_append] at h
  intro hid
  exact (List.nodup_append.mp h).2.2 _ hid _ List.mem_cons_self rfl

/-! ## Entries -/

/-- What is gathered from the entries of a board are its records. -/
structure Gathers (entries : List Entry) (out : Gathered) : Prop where
  nodes : out.nodes = (nodeRecords entries).map fun r => (r.id, r.toNode)
  edges : out.edges = ((marks entries).filterMap Mark.edge?).map EdgeRecord.toEdge
  sections : out.sections = (groups entries).map fun g => (g.id.val, g.record)
  stickies : out.stickies = (marks entries).filterMap Mark.note?

namespace Gathers

variable {done : List Entry} {out : Gathered}

theorem nil : Gathers [] {} := ⟨rfl, rfl, rfl, rfl⟩

theorem keys_nodes (h : Gathers done out) :
    out.nodes.keys = (nodeRecords done).map NodeRecord.id := by
  rw [h.nodes, Keyed.keys, List.map_map]
  rfl

theorem keys_sections (h : Gathers done out) :
    out.sections.keys = (groups done).map (·.id.val) := by
  rw [h.sections, Keyed.keys, List.map_map]
  rfl

/-- A shape with a new id comes last. -/
theorem nodes_addPart (h : Gathers done out) (sectionId : Option String) {part : Part}
    (hnew : ∀ shape, part.shape? = some shape →
      shape.id ∉ (nodeRecords done).map NodeRecord.id) :
    (addPart out sectionId part).nodes =
      (nodeRecords done ++ part.records sectionId).map fun r => (r.id, r.toNode) := by
  rw [List.map_append, ← h.nodes]
  cases part with
  | shape s =>
    have hid := hnew s rfl
    rw [← h.keys_nodes] at hid
    exact Keyed.put_of_not_mem hid _
  | mark m => exact (List.append_nil _).symm

theorem edges_addPart (h : Gathers done out) (sectionId : Option String) (part : Part) :
    (addPart out sectionId part).edges =
      ((marks done ++ part.marks).filterMap Mark.edge?).map EdgeRecord.toEdge := by
  rw [List.filterMap_append, List.map_append, ← h.edges]
  cases part <;> rfl

theorem stickies_addPart (h : Gathers done out) (sectionId : Option String) (part : Part) :
    (addPart out sectionId part).stickies = (marks done ++ part.marks).filterMap Mark.note? := by
  rw [List.filterMap_append, ← h.stickies]
  cases part <;> rfl

theorem loose (h : Gathers done out) {part : Part} (htext : part.TextFirst)
    (hnew : ∀ shape, part.shape? = some shape →
      shape.id ∉ (nodeRecords done).map NodeRecord.id) :
    Gathers (done ++ [.part part]) (gather none out part.tree) := by
  rw [gather_part none out htext]
  constructor
  · rw [nodeRecords_append, nodeRecords_part]
    exact h.nodes_addPart none hnew
  · rw [marks_append, marks_part]
    exact h.edges_addPart none part
  · have hgroups : groups (done ++ [.part part]) = groups done := by
      rw [groups_append]
      exact List.append_nil _
    rw [hgroups, ← h.sections]
    cases part <;> rfl
  · rw [marks_append, marks_part]
    exact h.stickies_addPart none part

theorem openSection (h : Gathers done out) {group : Group}
    (hnew : group.id.val ∉ (groups done).map (·.id.val)) :
    Gathers (done ++ [group.upTo []]) (out.openSection group.item) := by
  have hname : group.item.cleanName = group.name := group.name.property.1
  rw [← h.keys_sections] at hnew
  constructor
  · rw [nodeRecords_append]
    exact h.nodes.trans (congrArg _ (List.append_nil _).symm)
  · rw [marks_append]
    exact h.edges.trans (by simp [marks, Group.upTo, Entry.parts])
  · rw [groups_append, List.map_append, ← h.sections, Gathered.openSection, hname, orElse_text]
    exact Keyed.put_of_not_mem hnew _
  · rw [marks_append]
    exact h.stickies.trans (by simp [marks, Group.upTo, Entry.parts])

theorem sections_upTo {group : Group} {parts : List Part}
    (h : Gathers (done ++ [group.upTo parts]) out) :
    out.sections = (groups done).map (fun g => (g.id.val, g.record)) ++
      [(group.id.val, ({ group with parts } : Group).record)] := by
  rw [h.sections, groups_append, List.map_append]
  rfl

/-- The section that is open is the last, and the shape joins it. -/
theorem sections_addPart {group : Group} {parts : List Part}
    (h : Gathers (done ++ [group.upTo parts]) out)
    (hgroup : group.id.val ∉ (groups done).map (·.id.val)) (part : Part) :
    (addPart out (some group.id.val) part).sections =
      (groups done).map (fun g => (g.id.val, g.record)) ++
        [(group.id.val, ({ group with parts := parts ++ [part] } : Group).record)] := by
  have hkeys : group.id.val ∉ Keyed.keys ((groups done).map fun g => (g.id.val, g.record)) := by
    simpa [Keyed.keys, Function.comp_def] using hgroup
  rw [record_concat]
  cases part with
  | shape s =>
    have hid : ¬ group.id.val.isEmpty = true := by simpa using group.id.property
    refine (if_neg hid).trans ?_
    rw [h.sections_upTo, Keyed.update_concat hkeys]
    rfl
  | mark m =>
    refine h.sections_upTo.trans ?_
    simp [Part.shape?]

theorem inside {group : Group} {parts : List Part} (h : Gathers (done ++ [group.upTo parts]) out)
    (hgroup : group.id.val ∉ (groups done).map (·.id.val)) {part : Part}
    (htext : part.TextFirst)
    (hnew : ∀ shape, part.shape? = some shape →
      shape.id ∉ (nodeRecords (done ++ [group.upTo parts])).map NodeRecord.id) :
    Gathers (done ++ [group.upTo (parts ++ [part])])
      (gather (some group.id.val) out part.tree) := by
  rw [gather_part _ out htext]
  constructor
  · rw [nodeRecords_append, nodeRecords_upTo_append, nodeRecords_upTo_singleton,
      ← List.append_assoc, ← nodeRecords_append]
    exact h.nodes_addPart _ hnew
  · rw [marks_append, marks_upTo_concat, ← List.append_assoc, ← marks_append]
    exact h.edges_addPart _ part
  · rw [h.sections_addPart hgroup, groups_append, List.map_append]
    rfl
  · rw [marks_append, marks_upTo_concat, ← List.append_assoc, ← marks_append]
    exact h.stickies_addPart _ part

/-- The parts of a section, one after the other. -/
theorem inside_parts {group : Group} {parts rest : List Part}
    (h : Gathers (done ++ [group.upTo parts]) out)
    (hgroup : group.id.val ∉ (groups done).map (·.id.val))
    (htexts : ∀ part ∈ rest, part.TextFirst)
    (hnodup : ((nodeRecords (done ++ [group.upTo (parts ++ rest)])).map NodeRecord.id).Nodup) :
    Gathers (done ++ [group.upTo (parts ++ rest)])
      (gatherAll (some group.id.val) out (rest.map Part.tree)) := by
  -- The parts that were met move into the section that is open, the last entry.
  induction rest generalizing parts out with
  | nil => simpa [gatherAll] using h
  | cons part rest ih =>
    have hsplit : parts ++ part :: rest = parts ++ ([part] ++ rest) := rfl
    have hnew : ∀ shape, part.shape? = some shape →
        shape.id ∉ (nodeRecords (done ++ [group.upTo parts])).map NodeRecord.id := by
      intro shape hs
      rw [hsplit, nodeRecords_append, nodeRecords_upTo_append, nodeRecords_upTo_append,
        nodeRecords_upTo_singleton, ← List.append_assoc, ← nodeRecords_append] at hnodup
      exact id_not_mem_of_nodup hs hnodup
    rw [hsplit, ← List.append_assoc] at hnodup ⊢
    rw [List.map_cons, gatherAll]
    exact ih (h.inside hgroup (htexts part List.mem_cons_self) hnew)
      (fun part hp => htexts part (List.mem_cons_of_mem _ hp)) hnodup

theorem gather_group (out : Gathered) (group : Group) : gather none out group.tree =
    gatherAll (some group.id.val) (out.openSection group.item) (group.parts.map Part.tree) := by
  have hvisit := visit_of_section out (v := ⟨group.tree, some group.id.val⟩) rfl
  exact congrArg (gatherAll (some group.id.val) · _) hvisit

theorem concat (h : Gathers done out) {entry : Entry} {rest : List Entry}
    (htexts : ∀ p ∈ entry.parts, p.2.TextFirst)
    (hshapes : ((nodeRecords (done ++ ([entry] ++ rest))).map NodeRecord.id).Nodup)
    (hgroups : ((groups (done ++ ([entry] ++ rest))).map (·.id.val)).Nodup) :
    Gathers (done ++ [entry]) (gather none out entry.tree) := by
  rw [nodeRecords_append, nodeRecords_append] at hshapes
  rw [groups_append, groups_append] at hgroups
  cases entry with
  | part p =>
    rw [nodeRecords_part] at hshapes
    exact h.loose (htexts (none, p) (List.mem_singleton.mpr rfl)) fun shape hs =>
      id_not_mem_of_nodup hs hshapes
  | group g =>
    have hnew : g.id.val ∉ (groups done).map (·.id.val) := by
      rw [List.map_append] at hgroups
      intro hid
      exact (List.nodup_append.mp hgroups).2.2 _ hid _ List.mem_cons_self rfl
    have hparts : ((nodeRecords (done ++ [g.upTo ([] ++ g.parts)])).map NodeRecord.id).Nodup := by
      rw [← List.append_assoc, List.map_append] at hshapes
      rw [nodeRecords_append]
      exact (List.nodup_append.mp hshapes).1
    rw [Entry.tree, gather_group]
    exact (h.openSection hnew).inside_parts hnew
      (fun part hp => htexts (some g.id.val, part) (List.mem_map_of_mem hp)) hparts

/-- The entries of a board, one after the other. -/
theorem append (h : Gathers done out) {rest : List Entry}
    (htexts : ∀ entry ∈ rest, ∀ p ∈ entry.parts, p.2.TextFirst)
    (hshapes : ((nodeRecords (done ++ rest)).map NodeRecord.id).Nodup)
    (hgroups : ((groups (done ++ rest)).map (·.id.val)).Nodup) :
    Gathers (done ++ rest) (gatherAll none out (rest.map Entry.tree)) := by
  induction rest generalizing done out with
  | nil => simpa [gatherAll] using h
  | cons entry rest ih =>
    have hstep := h.concat (htexts entry List.mem_cons_self) hshapes hgroups
    have hsplit : done ++ entry :: rest = done ++ [entry] ++ rest := by simp
    rw [hsplit] at hshapes hgroups ⊢
    rw [List.map_cons, gatherAll]
    exact ih hstep (fun entry he => htexts entry (List.mem_cons_of_mem _ he)) hshapes hgroups

end Gathers

end Board

end FlowBoard
