import FlowBoard.Ingested
import FlowBoard.Proofs.Wire.Shape

/-!
# Refusals tell of the first flaw

The shapes of both wire forms, with the fields of each record in order, and their decoders: a
decoder takes the values that have the shape and reports the first flaw of all others. So the path
of a refused payload leads to what is wrong, and all that comes before it conforms.
-/

namespace FlowBoard

namespace Wire

/-! ## The shapes of both forms -/

namespace Shape

def nodeRecord : Shape :=
  record "NodeRecord" [.must .sourceId text, .must .label text, .may .shapeType text,
    .may .x number, .may .y number, .may .sectionId text]

def edgeRecord : Shape :=
  record "EdgeRecord" [.must .sourceId text, .must .targetId text, .may .label text,
    .must .kind edgeKind]

def sectionRecord : Shape :=
  record "SectionRecord" [.must .sourceId text, .must .label text, .must .nodeIds text.list]

def stickyRecord : Shape := record "StickyRecord" [.must .sourceId text, .must .text text]

def diagramRecord : Shape :=
  record "DiagramRecord" [.must .nodes nodeRecord.list, .must .edges edgeRecord.list,
    .must .sections sectionRecord.list, .must .stickyNotes stickyRecord.list]

def pageRecord : Shape :=
  record "PageRecord" [.must .pageId text, .must .pageName text, .must .diagram diagramRecord]

def pageList : Shape :=
  record "PageListDocument" [.must .pages pageRecord.list, .may .fileName text]

def endpoint : Shape := record "Endpoint" [.may .endpointNodeId text]

def boundingBox : Shape :=
  record "BoundingBox" [.must .boxX number, .must .boxY number, .must .width number,
    .must .height number]

/-- The fields of an item but its children. -/
def itemRules : List Rule :=
  [.must .id text, .must .type text, .may .name text, .may .characters text, .may .itemShape text,
    .may .connectorStart endpoint, .may .connectorEnd endpoint, .may .connectorStartCap text,
    .may .connectorEndCap text, .may .boundingBox boundingBox]

/-- Trees with at most `depth` levels. -/
def tree : Nat → Shape
  | 0 => bottom
  | depth + 1 => record "TreeNode" (itemRules ++ [.may .children (tree depth).list])

def treeFile : Shape := record "TreeFile" [.must .document (tree maxDepth), .may .name text]

end Shape

/-! ## Decoders that check a shape -/

variable {α β : Type}

/-- The decoder takes what has the shape, and reports the first flaw of what has not. -/
structure Decoder.Checks (d : Decoder α) (s : Shape) : Prop where
  fits : ∀ {v a}, d v = .ok a → s.Fits v
  flaw : ∀ {v e}, d v = .error e → s.Flaw v e.steps e.reason

/-- Reading some fields ends at the first rule that does not hold. -/
structure Follows (fields : Json.Fields) (rules : List Rule) (x : Except Violation α) : Prop where
  holds : ∀ {a}, x = .ok a → ∀ rule ∈ rules, rule.Holds fields
  flaw : ∀ {e}, x = .error e → ∃ before rule after, rules = before ++ rule :: after ∧
    (∀ r ∈ before, r.Holds fields) ∧ rule.Flaw fields e.steps e.reason

namespace Decoder

variable {d : Decoder α} {s : Shape}

theorem below_eq_error_iff {step : Step} {v : Json} {e : Violation} :
    d.below step v = .error e ↔ ∃ e', d v = .error e' ∧ e = e'.under step := by
  rw [below]
  cases d v with
  | ok a => simp
  | error found => simp [eq_comm]

namespace Checks

theorem error_iff (h : d.Checks s) {v : Json} {e : Violation} :
    d v = .error e ↔ s.Flaw v e.steps e.reason := by
  refine ⟨h.flaw, fun hflaw => ?_⟩
  cases hv : d v with
  | ok a => exact absurd (h.fits hv) (s.unfit hflaw)
  | error found =>
    obtain ⟨steps, reason⟩ := e
    obtain ⟨steps', reason'⟩ := found
    obtain ⟨rfl, rfl⟩ := s.unique hflaw (h.flaw hv)
    rfl

theorem exists_ok_iff (h : d.Checks s) {v : Json} : (∃ a, d v = .ok a) ↔ s.Fits v := by
  refine ⟨fun ⟨a, ha⟩ => h.fits ha, fun hfits => ?_⟩
  cases hv : d v with
  | ok a => exact ⟨a, rfl⟩
  | error e => exact absurd hfits (s.unfit (h.flaw hv))

end Checks

/-! ### Leaves -/

theorem Checks.leaf {Fits : Json → Prop} {why : Json → Reason}
    {hwhy : ∀ v, ¬Fits v → why v ≠ .tooDeep → Misfit (why v) v}
    (hfits : ∀ v, (∃ a, d v = .ok a) ↔ Fits v)
    (herror : ∀ v e, d v = .error e → e = .here (why v)) : d.Checks (.leaf Fits why hwhy) where
  fits {v a} h := (hfits v).mp ⟨a, h⟩
  flaw {v e} h := by
    have hunfit : ¬Fits v := by
      rw [← hfits v, h]
      exact nofun
    rw [herror v e h]
    exact ⟨hunfit, rfl, rfl⟩

theorem text_checks : text.Checks .text :=
  .leaf (fun v => exists_congr (text_exact v)) fun v e h => by
    cases v <;> cases h <;> rfl

theorem number_checks : number.Checks .number :=
  .leaf (fun v => exists_congr (number_exact v)) fun v e h => by
    cases v with
    | num n =>
      rw [number] at h
      cases n with
      | binary x => cases x <;> cases h <;> rfl
      | whole n =>
        rw [Number.binary?] at h
        cases hfinite : (Binary64.ofInt n).finite? with
        | none =>
          rw [hfinite] at h
          cases h
          rfl
        | some x =>
          rw [hfinite] at h
          cases h
    | _ =>
      cases h
      rfl

theorem edgeKind_checks : edgeKind.Checks .edgeKind :=
  .leaf (fun v => exists_congr (edgeKind_exact v)) fun v e h => by
    cases v with
    | str s =>
      rw [edgeKind] at h
      split at h <;> cases h
      rfl
    | _ =>
      cases h
      rfl

theorem bottom_checks : (tree 0).Checks .bottom :=
  .leaf (fun v => ⟨nofun, nofun⟩) fun v e h => by
    cases h
    rfl

/-! ### Lists and records -/

/-- By induction on the items, of which the first has the index `i`. -/
theorem itemsFrom_checks (h : d.Checks s) {i : Nat} {items : List Json} :
    (∀ {as}, itemsFrom d i items = .ok as → ∀ x ∈ items, s.Fits x) ∧
    ∀ {e}, itemsFrom d i items = .error e → ∃ before x after steps, items = before ++ x :: after ∧
      e.steps = .index (i + before.length : Nat) :: steps ∧ (∀ y ∈ before, s.Fits y) ∧
      s.Flaw x steps e.reason := by
  induction items generalizing i with
  | nil => simp [itemsFrom]
  | cons v rest ih =>
    rw [itemsFrom]
    cases hv : d.below (.index i) v with
    | error e' =>
      obtain ⟨found, hflaw, rfl⟩ := below_eq_error_iff.mp hv
      refine ⟨by simp, fun he => ?_⟩
      cases he
      exact ⟨[], v, rest, found.steps, rfl, rfl, List.forall_mem_nil _, h.flaw hflaw⟩
    | ok a =>
      have hfits := h.fits (below_eq_ok_iff.mp hv)
      cases hrest : itemsFrom d (i + 1) rest with
      | error e' =>
        refine ⟨by simp, fun he => ?_⟩
        cases he
        obtain ⟨before, x, after, steps, rfl, hsteps, hbefore, hx⟩ := ih.2 hrest
        refine ⟨v :: before, x, after, steps, rfl, ?_,
          List.forall_mem_cons.mpr ⟨hfits, hbefore⟩, hx⟩
        rw [hsteps, List.length_cons, Nat.add_assoc, Nat.add_comm 1]
      | ok as =>
        exact ⟨fun _ => List.forall_mem_cons.mpr ⟨hfits, ih.1 hrest⟩, by simp⟩

theorem Checks.list (h : d.Checks s) : (Decoder.list d).Checks s.list where
  fits {v as} hread := by
    cases v with
    | arr items => exact ⟨items, rfl, (itemsFrom_checks h).1 hread⟩
    | _ => cases hread
  flaw {v e} hread := by
    cases v with
    | arr items =>
      obtain ⟨before, x, after, steps, rfl, hsteps, hbefore, hx⟩ := (itemsFrom_checks h).2 hread
      rw [hsteps, Nat.zero_add]
      exact .item hbefore hx
    | _ =>
      cases hread
      exact .noList nofun

theorem Checks.record {decode : Json.Fields → Except Violation α} {name : String}
    {rules : List Rule} (h : ∀ fields, Follows fields rules (decode fields)) :
    Checks (fun v => do decode (← members name v)) (.record name rules) where
  fits {v a} hread := by
    obtain ⟨fields, hfields, hread⟩ := bind_eq_ok_iff.mp hread
    exact ⟨fields, members_eq_ok_iff.mp hfields, (h fields).holds hread⟩
  flaw {v e} hread := by
    cases v with
    | obj fields =>
      obtain ⟨before, rule, after, hrules, hbefore, hrule⟩ := (h fields).flaw hread
      exact .field hrules hbefore hrule
    | _ =>
      cases hread
      exact .noRecord nofun

end Decoder

/-! ### Fields -/

namespace Follows

variable {fields : Json.Fields} {rules rules' : List Rule} {x : Except Violation α}
  {f : α → Except Violation β} {d : Decoder α} {s : Shape} {name : FieldName}

theorem pure {a : α} : Follows fields [] (Pure.pure a) where
  holds _ _ hrule := absurd hrule List.not_mem_nil
  flaw h := nomatch h

theorem ok {rule : Rule} {a : α} (h : rule.Holds fields) : Follows fields [rule] (.ok a) where
  holds _ := by simpa using h
  flaw h := by cases h

theorem error {rule : Rule} {e : Violation} (h : rule.Flaw fields e.steps e.reason) :
    Follows fields [rule] (.error e : Except Violation α) where
  holds h := by cases h
  flaw he := by
    cases he
    exact ⟨[], rule, [], rfl, List.forall_mem_nil _, h⟩

theorem required (h : d.Checks s) :
    Follows fields [.must name s] (Decoder.required name d fields) := by
  cases hfound : name.find? fields with
  | none =>
    rw [Decoder.required, hfound]
    exact .error (.missing rfl hfound)
  | some found =>
    obtain ⟨shown, v⟩ := found
    rw [Decoder.required_of_find? hfound, Decoder.below]
    cases hv : d v with
    | ok a => exact .ok (Rule.holds_of_fits hfound (h.fits hv))
    | error e => exact .error (.value hfound (.inl rfl) (h.flaw hv))

theorem optional (h : d.Checks s) :
    Follows fields [.may name s] (Decoder.optional name d fields) := by
  cases hfound : name.find? fields with
  | none =>
    rw [Decoder.optional, hfound]
    exact .ok (Rule.holds_of_find?_eq_none rfl hfound)
  | some found =>
    obtain ⟨shown, v⟩ := found
    by_cases hnull : v = .null
    · subst hnull
      rw [Decoder.optional, hfound]
      exact .ok (Rule.holds_of_null rfl hfound)
    · rw [Decoder.optional_of_find? hfound hnull, Decoder.below]
      cases hv : d v with
      | ok a => exact .ok (Rule.holds_of_fits hfound (h.fits hv))
      | error e => exact .error (.value hfound (.inr hnull) (h.flaw hv))

theorem bind (hx : Follows fields rules x) (hf : ∀ a, Follows fields rules' (f a)) :
    Follows fields (rules ++ rules') (x >>= f) where
  holds h := by
    obtain ⟨a, ha, hb⟩ := bind_eq_ok_iff.mp h
    exact List.forall_mem_append.mpr ⟨hx.holds ha, (hf a).holds hb⟩
  flaw h := by
    cases x with
    | error e =>
      cases h
      obtain ⟨before, rule, after, rfl, hbefore, hrule⟩ := hx.flaw rfl
      exact ⟨before, rule, after ++ rules', by simp, hbefore, hrule⟩
    | ok a =>
      obtain ⟨before, rule, after, rfl, hbefore, hrule⟩ := (hf a).flaw h
      exact ⟨rules ++ before, rule, after, by simp,
        List.forall_mem_append.mpr ⟨hx.holds rfl, hbefore⟩, hrule⟩

theorem field {rule : Rule} (hx : Follows fields [rule] x)
    (hf : ∀ a, Follows fields rules (f a)) : Follows fields (rule :: rules) (x >>= f) :=
  hx.bind hf

end Follows

/-! ## The decoders of both forms -/

namespace Decoder

theorem nodeRecord_checks : nodeRecord.Checks .nodeRecord :=
  .record fun _ =>
    .field (.required text_checks) fun _ =>
    .field (.required text_checks) fun _ =>
    .field (.optional text_checks) fun _ =>
    .field (.optional number_checks) fun _ =>
    .field (.optional number_checks) fun _ =>
    .field (.optional text_checks) fun _ => .pure

theorem edgeRecord_checks : edgeRecord.Checks .edgeRecord :=
  .record fun _ =>
    .field (.required text_checks) fun _ =>
    .field (.required text_checks) fun _ =>
    .field (.optional text_checks) fun _ =>
    .field (.required edgeKind_checks) fun _ => .pure

theorem sectionRecord_checks : sectionRecord.Checks .sectionRecord :=
  .record fun _ =>
    .field (.required text_checks) fun _ =>
    .field (.required text_checks) fun _ =>
    .field (.required text_checks.list) fun _ => .pure

theorem stickyRecord_checks : stickyRecord.Checks .stickyRecord :=
  .record fun _ =>
    .field (.required text_checks) fun _ =>
    .field (.required text_checks) fun _ => .pure

theorem diagramRecord_checks (id name : String) :
    (diagramRecord id name).Checks .diagramRecord :=
  .record fun _ =>
    .field (.required nodeRecord_checks.list) fun _ =>
    .field (.required edgeRecord_checks.list) fun _ =>
    .field (.required sectionRecord_checks.list) fun _ =>
    .field (.required stickyRecord_checks.list) fun _ => .pure

theorem pageRecord_checks : pageRecord.Checks .pageRecord :=
  .record fun _ =>
    .field (.required text_checks) fun id =>
    .field (.required text_checks) fun name =>
    .required (diagramRecord_checks id name)

theorem pageList_checks : Checks PageList.ofJson .pageList :=
  .record fun _ =>
    .field (.required pageRecord_checks.list) fun _ =>
    .field (.optional text_checks) fun _ => .pure

theorem endpoint_checks : endpoint.Checks .endpoint :=
  .record fun _ => .field (.optional text_checks) fun _ => .pure

theorem boundingBox_checks : boundingBox.Checks .boundingBox :=
  .record fun _ =>
    .field (.required number_checks) fun _ =>
    .field (.required number_checks) fun _ =>
    .field (.required number_checks) fun _ =>
    .field (.required number_checks) fun _ => .pure

theorem itemFields_follows (fields : Json.Fields) :
    Follows fields Shape.itemRules (itemFields fields) :=
  .field (.required text_checks) fun _ =>
  .field (.required text_checks) fun _ =>
  .field (.optional text_checks) fun _ =>
  .field (.optional text_checks) fun _ =>
  .field (.optional text_checks) fun _ =>
  .field (.optional endpoint_checks) fun _ =>
  .field (.optional endpoint_checks) fun _ =>
  .field (.optional text_checks) fun _ =>
  .field (.optional text_checks) fun _ =>
  .field (.optional boundingBox_checks) fun _ => .pure

/-- By induction on the depth; the children of an item are one level less deep. -/
theorem tree_checks (depth : Nat) : (tree depth).Checks (.tree depth) := by
  induction depth with
  | zero => exact bottom_checks
  | succ depth ih =>
    exact .record fun fields =>
      (itemFields_follows fields).bind fun _ =>
      .field (.optional ih.list) fun _ => .pure

theorem treeFile_checks : Checks TreeFile.ofJson .treeFile :=
  .record fun _ =>
    .field (.required (tree_checks maxDepth)) fun _ =>
    .field (.optional text_checks) fun _ => .pure

end Decoder

/-! ## Refusals -/

/-- A failure tells of the one first flaw of a value, by its place below the root. The place leads
to what is wrong, unless the value is refused for its depth. -/
structure Reports (s : Shape) (form : WireForm) (root : String) (v : Json) (steps : List Step)
    (reason : Reason) (e : Failure) : Prop where
  first : s.Flaw v steps reason
  only : ∀ steps' reason', s.Flaw v steps' reason' → steps' = steps ∧ reason' = reason
  path : e.kind = .payload (some (pathText root steps))
  message : e.message = "Invalid " ++ form.name ++ " payload at " ++ pathText root steps ++ ": " ++
    reason.message ++ "."
  located : reason ≠ .tooDeep → Locates v steps reason

theorem Shape.reports (s : Shape) (form : WireForm) (root : String) {v : Json} {e : Violation}
    (h : s.Flaw v e.steps e.reason) :
    Reports s form root v e.steps e.reason (e.failure form root) where
  first := h
  only _ _ h' := s.unique h h'
  path := rfl
  message := rfl
  located := s.located h

namespace Decoder.Checks

variable {d : Decoder α} {s : Shape} {form : WireForm} {root : String} {v : Json}

theorem mapError_eq_error_iff (h : d.Checks s) {e : Failure} :
    (d v).mapError (·.failure form root) = .error e ↔
      ∃ steps reason, Reports s form root v steps reason e := by
  constructor
  · intro hread
    cases hv : d v with
    | ok a =>
      rw [hv] at hread
      cases hread
    | error found =>
      rw [hv] at hread
      cases hread
      exact ⟨found.steps, found.reason, s.reports form root (h.flaw hv)⟩
  · rintro ⟨steps, reason, hreport⟩
    obtain ⟨kind, message⟩ := e
    obtain rfl := hreport.path
    obtain rfl := hreport.message
    have hv : d v = .error ⟨steps, reason⟩ := h.error_iff.mpr hreport.first
    rw [hv]
    rfl

theorem exists_mapError_eq_ok_iff (h : d.Checks s) :
    (∃ a, (d v).mapError (·.failure form root) = .ok a) ↔ s.Fits v := by
  rw [← h.exists_ok_iff]
  cases d v <;> simp [Except.mapError]

end Decoder.Checks

/-- Values that conform are taken. Of every other value the failure tells the first flaw, in the
order of fields and items: its path leads there through the value. -/
theorem checks_report_first_flaw :
    (∀ v root, (∃ list, checkPageList v root = .ok list) ↔ Shape.pageList.Fits v) ∧
    (∀ v root e, checkPageList v root = .error e ↔
      ∃ steps reason, Reports .pageList .structured root v steps reason e) ∧
    (∀ v root, (∃ file, checkTree v root = .ok file) ↔ Shape.treeFile.Fits v) ∧
    ∀ v root e, checkTree v root = .error e ↔
      ∃ steps reason, Reports .treeFile .tree root v steps reason e :=
  ⟨fun _ _ => Decoder.pageList_checks.exists_mapError_eq_ok_iff,
    fun _ _ _ => Decoder.pageList_checks.mapError_eq_error_iff,
    fun _ _ => Decoder.treeFile_checks.exists_mapError_eq_ok_iff,
    fun _ _ _ => Decoder.treeFile_checks.mapError_eq_error_iff⟩

/-- A page list whose second edge is of no kind; besides, it has no list of sections, and the name
of the file is no text. -/
def flawedPages : Json :=
  .obj [("fileName", .int 5), ("pages", .arr [.obj [("page_id", .str "p"), ("pageName", .str "P"),
    ("diagram", .obj [("nodes", .arr []), ("edges", .arr [
      .obj [("sourceId", .str "a"), ("targetId", .str "b"), ("kind", .str "arrow")],
      .obj [("sourceId", .str "a"), ("targetId", .str "b"), ("kind", .str "dotted")]]),
      ("stickyNotes", .arr [])])]])]

def flawedPagesFailure : Failure :=
  ⟨.payload (some "document.pages[0].diagram.edges[1].kind"),
    "Invalid structured payload at document.pages[0].diagram.edges[1].kind: " ++
      "Input should be 'arrow', 'line' or 'bidirectional'."⟩

theorem checks_report_first_flaw_kind : ∃ steps reason,
    Reports .pageList .structured "document" flawedPages steps reason flawedPagesFailure ∧
      Locates flawedPages steps reason := by
  have hrefused : checkPageList flawedPages "document" = .error flawedPagesFailure := by
    decide +kernel
  obtain ⟨steps, reason, hreport⟩ := (checks_report_first_flaw.2.1 _ _ _).mp hrefused
  refine ⟨steps, reason, hreport, hreport.located ?_⟩
  rintro rfl
  have hpath := Option.some.inj (FailureKind.payload.inj hreport.path)
  have hmessage := hreport.message
  rw [← hpath] at hmessage
  exact absurd hmessage (by decide +kernel)

end Wire

end FlowBoard
