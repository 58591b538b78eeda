import FlowBoard.Canvas
import FlowBoard.Proofs.Connector.Stroke
import Mathlib.Data.List.Basic
import Mathlib.Logic.Relation

/-!
# Connectors of a canvas, drawn another way

The attributes of a connector tell its stroke. They are read for the edge of a connector that
stands directly in a canvas and for nothing else, so a page list stays the same however many
connectors are redrawn; when one with two arrowheads or none is turned, its edge is reversed at its
place, and the rest of the page list stays the same.
-/

namespace FlowBoard

namespace Wire

def EdgeRecord.reversed (r : EdgeRecord) : EdgeRecord :=
  { r with source := r.target, target := r.source }

/-- The edge, if any, is reversed at its place; nothing else changes. -/
def PageRecord.TurnsEdge (edge? : Option EdgeRecord) (page page' : PageRecord) : Prop :=
  ∃ before after,
    page.edges = before ++ edge?.toList ++ after ∧
    page' = { page with edges := before ++ (edge?.map EdgeRecord.reversed).toList ++ after }

theorem PageRecord.turnsEdge_none {page : PageRecord} {edges : List EdgeRecord}
    (h : edges = page.edges) : page.TurnsEdge none { page with edges } :=
  ⟨edges, [], by simp [h], by simp⟩

end Wire

namespace Markup

variable {m m' : Markup} {R : Markup → Markup → Prop}

def connectorName : Name := .plain "connector"

def stroke (m : Markup) : Connector.Stroke (Option String) where
  first := m.attribute? "connectorStart"
  last := m.attribute? "connectorEnd"
  firstCap := m.attribute? "connectorStartCap"
  lastCap := m.attribute? "connectorEndCap"

/-- The id of the shape that an end is attached to, unless it is empty. -/
def attached? (id : Option String) : Option String := id.filter (!·.isEmpty)

/-- Connectors with the same inside, whatever their attributes. -/
inductive Restrokes : Markup → Markup → Prop
  | intro (attributes attributes' : List (Name × String)) (content : List Markup) :
      Restrokes (.element connectorName attributes content)
        (.element connectorName attributes' content)

/-- A connector is redrawn. -/
structure Redraws (m m' : Markup) : Prop where
  restrokes : Restrokes m m'
  redrawn : m.stroke.Redrawn m'.stroke

/-! ## One place in a document -/

/-- The markup at one place is replaced by another, to which `R` relates it. -/
inductive Rewrites (R : Markup → Markup → Prop) : Markup → Markup → Prop
  | here {m m' : Markup} (h : R m m') : Rewrites R m m'
  | inside {m m' : Markup} (name : Name) (attributes : List (Name × String))
      (before after : List Markup) (h : Rewrites R m m') :
      Rewrites R (.element name attributes (before ++ m :: after))
        (.element name attributes (before ++ m' :: after))

theorem charsOf_append (ms ns : List Markup) : charsOf (ms ++ ns) = charsOf ms ++ charsOf ns := by
  induction ms with
  | nil => rfl
  | cons m ms ih => rw [List.cons_append, charsOf, charsOf, ih, List.append_assoc]

theorem leadingChars_append_of_isElement (before after after' : List Markup)
    (h : m.isElement = true) (h' : m'.isElement = true) :
    leadingChars (before ++ m :: after) = leadingChars (before ++ m' :: after') := by
  induction before with
  | nil =>
    cases m with
    | char c => cases h
    | element name attributes content =>
      cases m' with
      | char c => cases h'
      | element name attributes content => rfl
  | cons first before ih =>
    cases first with
    | char c => exact congrArg (c :: ·) ih
    | element name attributes content => rfl

namespace Rewrites

variable (hR : ∀ {m m'}, R m m' → Restrokes m m') (h : Rewrites R m m')

include hR h

theorem isElement : m.isElement = true ∧ m'.isElement = true := by
  cases h with
  | here h =>
    cases hR h
    exact ⟨rfl, rfl⟩
  | inside => exact ⟨rfl, rfl⟩

theorem isNamed_eq (base : String) : m.isNamed base = m'.isNamed base := by
  cases h with
  | here h =>
    cases hR h
    rfl
  | inside => rfl

theorem chars_eq : m.chars = m'.chars := by
  induction h with
  | here h =>
    cases hR h
    rfl
  | inside name attributes before after _ ih =>
    rw [chars, chars, charsOf_append, charsOf_append, charsOf, charsOf, ih]

theorem leadingChars_eq : leadingChars m.content = leadingChars m'.content := by
  cases h with
  | here h =>
    cases hR h
    rfl
  | inside name attributes before after h =>
    exact leadingChars_append_of_isElement before after after (h.isElement hR).1 (h.isElement hR).2

/-- The attributes of other elements stay. -/
theorem attribute?_eq {base : String} (hname : m.isNamed base = true) (hbase : base ≠ "connector")
    (key : String) : m.attribute? key = m'.attribute? key := by
  cases h with
  | here h =>
    cases hR h
    have hbase' : "connector" = base := congrArg Name.base (eq_of_beq hname)
    exact absurd hbase'.symm hbase
  | inside => rfl

/-- Of the elements that are picked from an inside, one at most changes. -/
theorem filter_content {p : Markup → Bool} (hp : ∀ {m m'}, Rewrites R m m' → p m = p m') :
    m'.content.filter p = m.content.filter p ∨
      ∃ before x x' after, Rewrites R x x' ∧ p x = true ∧
        m.content.filter p = before ++ x :: after ∧
        m'.content.filter p = before ++ x' :: after := by
  cases h with
  | here h =>
    cases hR h
    exact .inl rfl
  | @inside x x' name attributes before after h =>
    simp only [content, List.filter_append]
    cases hx : p x with
    | true =>
      rw [List.filter_cons_of_pos hx, List.filter_cons_of_pos (hp h ▸ hx)]
      exact .inr ⟨_, x, x', _, h, hx, rfl, rfl⟩
    | false =>
      have hnot : ¬p x = true := by simp [hx]
      rw [List.filter_cons_of_neg hnot, List.filter_cons_of_neg (hp h ▸ hnot)]
      exact .inl rfl

theorem named (base : String) :
    m'.named base = m.named base ∨
      ∃ before x x' after, Rewrites R x x' ∧ x.isNamed base = true ∧
        m.named base = before ++ x :: after ∧ m'.named base = before ++ x' :: after :=
  filter_content hR h fun h => h.isNamed_eq hR base

/-- What is read of the elements of a name stays, if it stays at the place. -/
theorem filterMap_named {α : Type} {base : String} {f : Markup → Option α}
    (hf : ∀ {x x'}, Rewrites R x x' → x.isNamed base = true → f x = f x') :
    (m'.named base).filterMap f = (m.named base).filterMap f := by
  obtain hsame | ⟨before, x, x', after, hx, hname, heq, heq'⟩ := h.named hR base
  · rw [hsame]
  · rw [heq, heq', List.filterMap_append, List.filterMap_append, List.filterMap_cons,
      List.filterMap_cons, hf hx hname]

theorem map_named {α : Type} {base : String} {f : Markup → α}
    (hf : ∀ {x x'}, Rewrites R x x' → x.isNamed base = true → f x = f x') :
    (m'.named base).map f = (m.named base).map f := by
  have hsome := h.filterMap_named hR fun hx hname => congrArg some (hf hx hname)
  rwa [List.filterMap_eq_map'] at hsome

end Rewrites

end Markup

namespace Canvas

open Markup Wire

variable {m m' : Markup} {R : Markup → Markup → Prop}

/-! ## Records -/

theorem edgeRecord?_eq (m : Markup) :
    edgeRecord? m = (m.stroke.resolve? attached?).map fun (source, target, kind) =>
      { source, target, kind,
        label := if (cleanText m).isEmpty then none else some (cleanText m) } := by
  change (do
    let first ← attached? m.stroke.first
    let last ← attached? m.stroke.last
    let (source, target, kind) := Connector.resolve first last m.stroke.firstCap m.stroke.lastCap
    let label := if (cleanText m).isEmpty then none else some (cleanText m)
    return ({ source, target, label, kind } : EdgeRecord)) = _
  rw [Connector.Stroke.resolve?]
  cases attached? m.stroke.first with
  | none => rfl
  | some first => cases attached? m.stroke.last <;> rfl

/-- The sections that are read of elements follow from these fields. -/
theorem sectionRecords_congr {ms ms' : List Markup}
    (h : ms.map (fun m => (m.given? "id", m.attribute? "name", memberIds m)) =
      ms'.map fun m => (m.given? "id", m.attribute? "name", memberIds m)) (number : Nat) :
    sectionRecords number ms = sectionRecords number ms' := by
  induction ms generalizing ms' number with
  | nil =>
    rw [List.map_nil] at h
    rw [List.map_eq_nil_iff.mp h.symm]
  | cons m ms ih =>
    obtain ⟨m', ms', rfl, hm, hms⟩ := List.map_eq_cons_iff.mp h.symm
    simp only [Prod.mk.injEq] at hm
    rw [sectionRecords, sectionRecords, hm.1, hm.2.1, hm.2.2]
    cases m.given? "id" with
    | none => exact ih hms.symm number
    | some id => exact congrArg _ (ih hms.symm (number + 1))

section Rewrites

variable (hR : ∀ {m m'}, R m m' → Restrokes m m') (h : Rewrites R m m')

include hR h

theorem cleanText_eq : cleanText m = cleanText m' := by
  rw [cleanText, cleanText, h.chars_eq hR]

theorem given?_eq {base : String} (hname : m.isNamed base = true) (hbase : base ≠ "connector")
    (key : String) : m.given? key = m'.given? key := by
  rw [given?, given?, h.attribute?_eq hR hname hbase]

theorem nodeRecord?_eq (hname : m.isNamed "shape-with-text" = true) :
    nodeRecord? m = nodeRecord? m' := by
  have hbase : "shape-with-text" ≠ "connector" := by decide
  rw [nodeRecord?, nodeRecord?, given?_eq hR h hname hbase, given?_eq hR h hname hbase,
    cleanText_eq hR h, coordinate?, coordinate?, coordinate?, coordinate?,
    h.attribute?_eq hR hname hbase, h.attribute?_eq hR hname hbase]

theorem stickyRecord?_eq (hname : m.isNamed "sticky" = true) :
    stickyRecord? m = stickyRecord? m' := by
  have hbase : "sticky" ≠ "connector" := by decide
  rw [stickyRecord?, stickyRecord?, given?_eq hR h hname hbase, cleanText_eq hR h]

theorem memberIds_eq : memberIds m' = memberIds m := by
  have hleading : ∀ {x x'}, Rewrites R x x' → x.isNamed "section-node" = true →
      cleanLeadingText x = cleanLeadingText x' := by
    intro x x' hx _
    rw [cleanLeadingText, cleanLeadingText, hx.leadingChars_eq hR]
  rw [memberIds, memberIds, h.map_named hR hleading]

/-- Of the page of a canvas only the edges may change. -/
theorem pageRecord_eq (hname : m.isNamed "canvas" = true) (number : Nat) :
    pageRecord number m' =
      { pageRecord number m with edges := (m'.named "connector").filterMap edgeRecord? } := by
  have hbase : "canvas" ≠ "connector" := by decide
  have hnodes := h.filterMap_named hR fun hx hname => nodeRecord?_eq hR hx hname
  have hstickies := h.filterMap_named hR fun hx hname => stickyRecord?_eq hR hx hname
  have hsections :
      sectionRecords 1 (m'.named "section") = sectionRecords 1 (m.named "section") := by
    refine sectionRecords_congr (h.map_named hR fun hx hname => ?_) 1
    have hbase : "section" ≠ "connector" := by decide
    rw [given?_eq hR hx hname hbase, hx.attribute?_eq hR hname hbase, memberIds_eq hR hx]
  rw [pageRecord, pageRecord, hnodes, hstickies, hsections, ← given?_eq hR h hname hbase,
    ← given?_eq hR h hname hbase]

/-- A change somewhere in a document is a change in one canvas at most. -/
theorem canvases_eq : canvases m' = canvases m ∨
    ∃ before canvas canvas' after, Rewrites R canvas canvas' ∧ canvas.isNamed "canvas" = true ∧
      canvases m = before ++ canvas :: after ∧ canvases m' = before ++ canvas' :: after := by
  rw [canvases, canvases]
  obtain hsame | ⟨before, x, x', after, hx, hname, heq, heq'⟩ := h.named hR "canvas"
  · rw [hsame]
    by_cases hnone : (m.named "canvas").isEmpty = true
    · rw [if_pos hnone, if_pos hnone, elements, elements]
      have helement : ∀ {x x'}, Rewrites R x x' → x.isElement = x'.isElement := fun hx =>
        (hx.isElement hR).1.trans (hx.isElement hR).2.symm
      obtain hsame | ⟨before, x, x', after, hx, -, heq, heq'⟩ := h.filter_content hR helement
      · exact .inl (by rw [hsame])
      · rw [heq, heq']
        match before, after with
        | [], [] => exact hx.named hR "canvas"
        | [], _ :: _ => exact .inl rfl
        | [_], _ => exact .inl rfl
        | _ :: _ :: _, _ => exact .inl rfl
    · rw [if_neg hnone, if_neg hnone]
      exact .inl rfl
  · rw [heq, heq', if_neg (by simp), if_neg (by simp)]
    exact .inr ⟨before, x, x', after, hx, hname, rfl, rfl⟩

end Rewrites

/-! ## Redrawn connectors -/

theorem edgeRecord?_redraw (h : Rewrites Redraws m m') : edgeRecord? m = edgeRecord? m' := by
  have htext := cleanText_eq Redraws.restrokes h
  rw [edgeRecord?_eq, edgeRecord?_eq, htext]
  cases h with
  | here h => rw [Connector.Stroke.resolve?_of_redrawn attached? h.redrawn]
  | inside => rfl

theorem pageRecord_redraw (h : Rewrites Redraws m m') (hname : m.isNamed "canvas" = true)
    (number : Nat) : pageRecord number m' = pageRecord number m := by
  have hedges : (m'.named "connector").filterMap edgeRecord? =
      (m.named "connector").filterMap edgeRecord? :=
    h.filterMap_named Redraws.restrokes fun hx _ => edgeRecord?_redraw hx
  rw [pageRecord_eq Redraws.restrokes h hname, hedges]
  rfl

theorem pageList_redraw (h : Rewrites Redraws m m') :
    pageList (canvases m) = pageList (canvases m') := by
  obtain hsame | ⟨before, canvas, canvas', after, hcanvas, hname, heq, heq'⟩ :=
    canvases_eq Redraws.restrokes h
  · rw [hsame]
  · rw [pageList, pageList, heq, heq']
    simp only [List.zipIdx_append, List.zipIdx_cons, List.map_append, List.map_cons,
      pageRecord_redraw hcanvas hname]

/-- Any number of connectors may be redrawn, one after the other. -/
theorem pageList_of_redrawn (h : Relation.ReflTransGen (Rewrites Redraws) m m') :
    pageList (canvases m') = pageList (canvases m) := by
  induction h with
  | refl => rfl
  | tail _ hlast ih => rw [← pageList_redraw hlast, ih]

/-! ## A turned connector -/

theorem edgeRecord?_turned (h : Restrokes m m') (htwo : ¬m.stroke.OneWay)
    (hturned : m'.stroke = m.stroke.turned) :
    edgeRecord? m' = (edgeRecord? m).map EdgeRecord.reversed := by
  have htext : cleanText m = cleanText m' := cleanText_eq (fun h => h) (.here h)
  rw [edgeRecord?_eq, edgeRecord?_eq, htext, hturned,
    Connector.Stroke.resolve?_turned attached? htwo, Option.map_map, Option.map_map]
  rfl

/-- In a canvas one connector is turned, which has two arrowheads or none if its edge is read. One
that is not directly in the canvas has no edge, and any other attributes do as well. -/
inductive Turns : Option EdgeRecord → Markup → Markup → Prop
  | directly {c c' : Markup} (name : Name) (attributes : List (Name × String))
      (before after : List Markup) (h : Restrokes c c') (htwo : ¬c.stroke.OneWay)
      (hturned : c'.stroke = c.stroke.turned) :
      Turns (edgeRecord? c) (.element name attributes (before ++ c :: after))
        (.element name attributes (before ++ c' :: after))
  | deeper {c c' : Markup} (name inner : Name) (attributes attributes' : List (Name × String))
      (before after before' after' : List Markup) (h : Rewrites Restrokes c c') :
      Turns none
        (.element name attributes
          (before ++ .element inner attributes' (before' ++ c :: after') :: after))
        (.element name attributes
          (before ++ .element inner attributes' (before' ++ c' :: after') :: after))

theorem Turns.rewrites {edge? : Option EdgeRecord} (h : Turns edge? m m') :
    Rewrites Restrokes m m' := by
  cases h with
  | directly name attributes before after h => exact .inside name attributes before after (.here h)
  | deeper name inner attributes attributes' before after before' after' h =>
    exact .inside name attributes before after (.inside inner attributes' before' after' h)

/-- What is read of the elements of a name around a place and at it. -/
theorem filterMap_named_inside {α : Type} (base : String) (f : Markup → Option α) (name : Name)
    (attributes : List (Name × String)) (before after : List Markup) (m : Markup) :
    ((Markup.element name attributes (before ++ m :: after)).named base).filterMap f =
      (before.filter (isNamed base)).filterMap f ++
        (if m.isNamed base then f m else none).toList ++
        (after.filter (isNamed base)).filterMap f := by
  rw [Markup.named, content, List.filter_append, List.filterMap_append, List.append_assoc]
  cases h : m.isNamed base with
  | true =>
    rw [List.filter_cons_of_pos h, List.filterMap_cons, if_pos rfl]
    cases f m <;> rfl
  | false =>
    rw [List.filter_cons_of_neg (by simp [h]), if_neg (by simp), Option.toList_none,
      List.nil_append]

theorem Turns.pageRecord {edge? : Option EdgeRecord} (h : Turns edge? m m')
    (hname : m.isNamed "canvas" = true) (number : Nat) :
    PageRecord.TurnsEdge edge? (Canvas.pageRecord number m) (Canvas.pageRecord number m') := by
  rw [pageRecord_eq (fun h => h) h.rewrites hname]
  cases h with
  | @directly c c' name attributes before after h htwo hturned =>
    have hc : c.isNamed "connector" = true ∧ c'.isNamed "connector" = true := by
      cases h
      exact ⟨rfl, rfl⟩
    refine ⟨(before.filter (isNamed "connector")).filterMap edgeRecord?,
      (after.filter (isNamed "connector")).filterMap edgeRecord?, ?_, ?_⟩
    · refine (filterMap_named_inside _ _ _ _ _ _ _).trans ?_
      rw [if_pos hc.1]
    · rw [filterMap_named_inside, if_pos hc.2, edgeRecord?_turned h htwo hturned]
  | @deeper c c' name inner attributes attributes' before after before' after' h =>
    have hx : Rewrites Restrokes (.element inner attributes' (before' ++ c :: after'))
        (.element inner attributes' (before' ++ c' :: after')) := .inside _ _ _ _ h
    have hedge : edgeRecord? (.element inner attributes' (before' ++ c' :: after')) =
        edgeRecord? (.element inner attributes' (before' ++ c :: after')) := by
      rw [edgeRecord?_eq, edgeRecord?_eq, cleanText_eq (fun h => h) hx]
      rfl
    refine PageRecord.turnsEdge_none ?_
    change _ =
      (Markup.named "connector" (.element name attributes (before ++ _ :: after))).filterMap
        edgeRecord?
    rw [filterMap_named_inside, filterMap_named_inside, hedge]
    rfl

/-- The name of a file follows from the names of its pages. -/
theorem fileName_congr {pages pages' : List PageRecord}
    (h : pages.map PageRecord.name = pages'.map PageRecord.name) :
    fileName pages = fileName pages' := by
  have hlength : pages.length = pages'.length := by simpa using congrArg List.length h
  match pages, pages' with
  | [], [] => rfl
  | [_], [_] => exact List.head_eq_of_cons_eq h
  | _ :: _ :: _, _ :: _ :: _ => rw [fileName, fileName, hlength] <;> simp

/-- The page of the canvas is the only one that changes. -/
theorem pageList_of_turned {edge? : Option EdgeRecord} (h : Turns edge? m m')
    (hname : m.isNamed "canvas" = true) (before after : List Markup) :
    (pageList (before ++ m' :: after)).fileName = (pageList (before ++ m :: after)).fileName ∧
      ∃ pages₁ page page' pages₂, page.TurnsEdge edge? page' ∧
        (pageList (before ++ m :: after)).pages = pages₁ ++ page :: pages₂ ∧
        (pageList (before ++ m' :: after)).pages = pages₁ ++ page' :: pages₂ := by
  have hpages : ∀ x : Markup, (pageList (before ++ x :: after)).pages =
      (before.zipIdx.map fun p => Canvas.pageRecord (p.2 + 1) p.1) ++
        Canvas.pageRecord (before.length + 1) x ::
        (after.zipIdx (before.length + 1)).map fun p => Canvas.pageRecord (p.2 + 1) p.1 := by
    intro x
    simp [pageList, List.zipIdx_append]
  have hturns := h.pageRecord hname (before.length + 1)
  refine ⟨?_, _, _, _, _, hturns, hpages m, hpages m'⟩
  obtain ⟨_, _, _, hpage⟩ := hturns
  refine congrArg some (fileName_congr ?_)
  change (pageList _).pages.map PageRecord.name = (pageList _).pages.map PageRecord.name
  rw [hpages, hpages, List.map_append, List.map_append, List.map_cons, List.map_cons, hpage]

end Canvas

end FlowBoard
