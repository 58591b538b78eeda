import FlowBoard.Ingested
import FlowBoard.Proofs.Keyed
import FlowBoard.Proofs.Wire.Records
import FlowBoard.Proofs.Wire.Shape

/-!
# Restated payloads

Two values say the same at a place if the fields of every record in them do, whatever other members
there are and in whatever order members come; a field in camel case may also be respelled with
underscores where that spelling is free. A check does not tell such values apart: it takes both as
the same, or refuses both for one reason at one place, up to the spelling of fields on the way. If
no field is respelled, the failures are the same.
-/

namespace FlowBoard

namespace Wire

/-! ## Restatements -/

mutual

/-- At a place, the second value says the same as the first. The fields that count are those of the
record that is expected at the place; where none is expected, no member counts. -/
inductive Restated (respells : Prop) : Place → Json → Json → Prop
  | same (place : Place) (v : Json) : Restated respells place v v
  | items {place : Place} {xs ys : List Json} (hlength : xs.length = ys.length)
      (hitems : ∀ pair ∈ xs.zip ys, Restated respells place.item pair.1 pair.2) :
      Restated respells place (.arr xs) (.arr ys)
  | members {place : Place} {fs gs : Json.Fields}
      (hfields : ∀ field ∈ place.fields, FieldRestated respells field.1 field.2 fs gs) :
      Restated respells place (.obj fs) (.obj gs)

/-- A field keeps its spellings; or it is respelled, and stands under one name in each object. -/
inductive FieldRestated (respells : Prop) : FieldName → Place → Json.Fields → Json.Fields → Prop
  | kept {name : FieldName} {place : Place} {fs gs : Json.Fields}
      (hcamel : MemberRestated respells name.camel place fs gs)
      (hsnake : MemberRestated respells name.snake place fs gs) :
      FieldRestated respells name place fs gs
  | respelled {name : FieldName} {place : Place} {fs gs : Json.Fields} {x y : Json} (h : respells)
      (hcamel : Keyed.find? name.camel fs = some x) (hfree : Keyed.find? name.snake fs = none)
      (hgone : Keyed.find? name.camel gs = none) (hsnake : Keyed.find? name.snake gs = some y)
      (hvalue : Restated respells place x y) : FieldRestated respells name place fs gs

/-- Both objects lack a member, or its values say the same. -/
inductive MemberRestated (respells : Prop) : String → Place → Json.Fields → Json.Fields → Prop
  | absent {key : String} {place : Place} {fs gs : Json.Fields} (hfs : Keyed.find? key fs = none)
      (hgs : Keyed.find? key gs = none) : MemberRestated respells key place fs gs
  | present {key : String} {place : Place} {fs gs : Json.Fields} {x y : Json}
      (hfs : Keyed.find? key fs = some x) (hgs : Keyed.find? key gs = some y)
      (hvalue : Restated respells place x y) : MemberRestated respells key place fs gs

end

variable {respells : Prop} {α β : Type}

def FieldName.spellings (name : FieldName) : List String := [name.camel, name.snake]

theorem MemberRestated.of_eq {key : String} {place : Place} {fs gs : Json.Fields}
    (h : Keyed.find? key gs = Keyed.find? key fs) : MemberRestated respells key place fs gs := by
  cases hfs : Keyed.find? key fs with
  | none => exact .absent hfs (h.trans hfs)
  | some x => exact .present hfs (h.trans hfs) (.same place x)

theorem FieldRestated.unchanged {name : FieldName} {place : Place} {fs gs : Json.Fields}
    (hcamel : Keyed.find? name.camel gs = Keyed.find? name.camel fs)
    (hsnake : Keyed.find? name.snake gs = Keyed.find? name.snake fs) :
    FieldRestated respells name place fs gs := .kept (.of_eq hcamel) (.of_eq hsnake)

/-- A name of one word has one spelling. -/
theorem FieldRestated.word {word : String} {place : Place} {fs gs : Json.Fields}
    (h : MemberRestated respells word place fs gs) :
    FieldRestated respells (.word word) place fs gs := .kept h h

namespace Restated

variable {place : Place} {fs gs : Json.Fields}

theorem single {x y : Json} (h : Restated respells place.item x y) :
    Restated respells place (.arr [x]) (.arr [y]) := .items rfl (by simpa using h)

theorem of_find?_eq (h : ∀ field ∈ place.fields, ∀ key ∈ field.1.spellings,
    Keyed.find? key gs = Keyed.find? key fs) : Restated respells place (.obj fs) (.obj gs) := by
  refine .members fun field hfield => .unchanged ?_ ?_
  · exact h field hfield _ List.mem_cons_self
  · exact h field hfield _ (List.mem_cons_of_mem _ List.mem_cons_self)

/-- The order of members does not matter. -/
theorem of_perm (hkeys : fs.keys.Nodup) (h : fs.Perm gs) :
    Restated respells place (.obj fs) (.obj gs) := by
  have hkeys' : gs.keys.Nodup := (h.map Prod.fst).nodup hkeys
  refine of_find?_eq fun field _ key _ => ?_
  cases hfs : Keyed.find? key fs with
  | some x => exact Keyed.find?_of_mem hkeys' (h.mem_iff.mp (Keyed.mem_of_find? hfs))
  | none =>
    cases hgs : Keyed.find? key gs with
    | none => rfl
    | some x =>
      have hfound := Keyed.find?_of_mem hkeys (h.mem_iff.mpr (Keyed.mem_of_find? hgs))
      exact hgs ▸ hfound.symm.trans hfs

end Restated

/-! ## Places that answer to each other -/

/-- The same place in two values, but for fields in camel case of the first that the second has with
underscores. A field that both lack is shown in camel case. -/
inductive SamePlace (respells : Prop) : Json → Json → List Step → List Step → Prop
  | same (v : Json) (steps : List Step) : SamePlace respells v v steps steps
  | here (v w : Json) : SamePlace respells v w [] []
  | missing {name : FieldName} {fs gs : Json.Fields}
      (hfs : name.find? fs = none) (hgs : name.find? gs = none) :
      SamePlace respells (.obj fs) (.obj gs) [.key name.camel] [.key name.camel]
  | step {v w x y : Json} {step : Step} {steps steps' : List Step} (hv : v.step? step = some x)
      (hw : w.step? step = some y) (h : SamePlace respells x y steps steps') :
      SamePlace respells v w (step :: steps) (step :: steps')
  | respelled {name : FieldName} {fs gs : Json.Fields} {x y : Json} {steps steps' : List Step}
      (hrespells : respells) (hcamel : Keyed.find? name.camel fs = some x)
      (hfree : Keyed.find? name.snake fs = none) (hgone : Keyed.find? name.camel gs = none)
      (hsnake : Keyed.find? name.snake gs = some y) (h : SamePlace respells x y steps steps') :
      SamePlace respells (.obj fs) (.obj gs) (.key name.camel :: steps) (.key name.snake :: steps')

theorem SamePlace.steps_eq {v w : Json} {steps steps' : List Step}
    (h : SamePlace False v w steps steps') : steps' = steps := by
  induction h with
  | same => rfl
  | here => rfl
  | missing => rfl
  | step _ _ _ ih => rw [ih]
  | respelled hrespells => exact hrespells.elim

/-- Two readings of values give the same, or end for one reason at the same place. -/
def Agree (respells : Prop) (v w : Json) (x y : Except Violation α) : Prop :=
  (∃ a, x = .ok a ∧ y = .ok a) ∨ ∃ e e', x = .error e ∧ y = .error e' ∧ e'.reason = e.reason ∧
    SamePlace respells v w e.steps e'.steps

namespace Agree

variable {v w : Json} {x y : Except Violation α}

theorem refl (v : Json) (x : Except Violation α) : Agree respells v v x x := by
  cases x with
  | ok a => exact .inl ⟨a, rfl, rfl⟩
  | error e => exact .inr ⟨e, e, rfl, rfl, rfl, .same v e.steps⟩

theorem here (reason : Reason) :
    Agree respells v w (.error (.here reason) : Except Violation α) (.error (.here reason)) :=
  .inr ⟨_, _, rfl, rfl, rfl, .here v w⟩

theorem bind {f g : α → Except Violation β} (h : Agree respells v w x y)
    (hf : ∀ a, Agree respells v w (f a) (g a)) : Agree respells v w (x >>= f) (y >>= g) := by
  obtain ⟨a, rfl, rfl⟩ | ⟨e, e', rfl, rfl, hreason, hplace⟩ := h
  · exact hf a
  · exact .inr ⟨e, e', rfl, rfl, hreason, hplace⟩

theorem map (f : α → β) (h : Agree respells v w x y) :
    Agree respells v w (x.map f) (y.map f) := by
  obtain ⟨a, rfl, rfl⟩ | ⟨e, e', rfl, rfl, hreason, hplace⟩ := h
  · exact .inl ⟨f a, rfl, rfl⟩
  · exact .inr ⟨e, e', rfl, rfl, hreason, hplace⟩

end Agree

/-! ## Decoders that do not tell restated values apart -/

/-- The decoder reads restated values alike. -/
def Decoder.Blind (respells : Prop) (d : Decoder α) (place : Place) : Prop :=
  ∀ v w, Restated respells place v w → Agree respells v w (d v) (d w)

namespace Decoder

variable {d : Decoder α} {place : Place}

/-- A step down keeps what two readings have in common. -/
theorem agree_below {v w x y : Json} {step step' : Step}
    (hstep : ∀ steps steps', SamePlace respells x y steps steps' →
      SamePlace respells v w (step :: steps) (step' :: steps'))
    (h : Agree respells x y (d x) (d y)) :
    Agree respells v w (d.below step x) (d.below step' y) := by
  rw [below, below]
  obtain ⟨a, hx, hy⟩ | ⟨e, e', hx, hy, hreason, hplace⟩ := h
  · rw [hx, hy]
    exact .inl ⟨a, rfl, rfl⟩
  · rw [hx, hy]
    exact .inr ⟨_, _, rfl, rfl, hreason, hstep _ _ hplace⟩

/-- A decoder of single values refuses arrays and objects without looking into them. -/
theorem Blind.leaf {reason : Reason} (harr : ∀ items, d (.arr items) = .error (.here reason))
    (hobj : ∀ fields, d (.obj fields) = .error (.here reason)) : d.Blind respells place := by
  rintro v w (_ | _ | _)
  · exact .refl _ _
  · rw [harr, harr]
    exact .here reason
  · rw [hobj, hobj]
    exact .here reason

theorem text_blind : text.Blind respells .plain := .leaf (fun _ => rfl) fun _ => rfl

theorem number_blind : number.Blind respells .plain := .leaf (fun _ => rfl) fun _ => rfl

theorem edgeKind_blind : edgeKind.Blind respells .plain := .leaf (fun _ => rfl) fun _ => rfl

/-- By induction on the items that are left; those before them are of the same number. -/
theorem itemsFrom_agree (h : d.Blind respells place) {xs ys : List Json}
    (hlength : xs.length = ys.length)
    (hitems : ∀ pair ∈ xs.zip ys, Restated respells place pair.1 pair.2)
    (before before' : List Json) {i : Nat} (hi : before.length = i) (hi' : before'.length = i) :
    Agree respells (.arr (before ++ xs)) (.arr (before' ++ ys)) (itemsFrom d i xs)
      (itemsFrom d i ys) := by
  induction xs generalizing ys before before' i with
  | nil =>
    obtain rfl := List.length_eq_zero_iff.mp hlength.symm
    exact .inl ⟨[], rfl, rfl⟩
  | cons x xs ih =>
    obtain ⟨y, ys, rfl⟩ := List.exists_cons_of_length_eq_add_one hlength.symm
    rw [List.zip_cons_cons, List.forall_mem_cons] at hitems
    have hfirst : Agree respells (.arr (before ++ x :: xs)) (.arr (before' ++ y :: ys))
        (d.below (.index i) x) (d.below (.index i) y) := by
      refine agree_below (fun steps steps' hplace => ?_) (h x y hitems.1)
      refine .step (x := x) (y := y) ?_ ?_ hplace
      · simp [Json.step?, Json.item?, ← hi]
      · simp [Json.step?, Json.item?, ← hi']
    have hbefore : (before ++ [x]).length = i + 1 := by rw [List.length_append, hi]; rfl
    have hbefore' : (before' ++ [y]).length = i + 1 := by rw [List.length_append, hi']; rfl
    have hrest :=
      ih (Nat.succ.inj hlength) hitems.2 (before ++ [x]) (before' ++ [y]) hbefore hbefore'
    rw [List.append_assoc, List.append_assoc, List.singleton_append, List.singleton_append] at hrest
    rw [itemsFrom, itemsFrom]
    obtain ⟨a, hx, hy⟩ | ⟨e, e', hx, hy, hfound⟩ := hfirst
    · obtain ⟨as, hxs, hys⟩ | ⟨e, e', hxs, hys, hfound⟩ := hrest
      · exact .inl ⟨a :: as, by rw [hx, hxs], by rw [hy, hys]⟩
      · exact .inr ⟨e, e', by rw [hx, hxs], by rw [hy, hys], hfound⟩
    · exact .inr ⟨e, e', by rw [hx], by rw [hy], hfound⟩

theorem Blind.list (h : d.Blind respells place) :
    (Decoder.list d).Blind respells (.list place) := by
  rintro v w (_ | ⟨hlength, hitems⟩ | _)
  · exact .refl _ _
  · exact itemsFrom_agree h hlength hitems [] [] rfl rfl
  · exact .here .noList

end Decoder

/-! ## Fields -/

/-- The values that are read for a restated field say the same, and its place is the same. -/
theorem FieldRestated.find? {name : FieldName} {place : Place} {fs gs : Json.Fields}
    (h : FieldRestated respells name place fs gs) :
    (name.find? fs = none ∧ name.find? gs = none) ∨ ∃ shown shown' x y,
      name.find? fs = some (shown, x) ∧ name.find? gs = some (shown', y) ∧
      Restated respells place x y ∧ ∀ steps steps', SamePlace respells x y steps steps' →
        SamePlace respells (.obj fs) (.obj gs) (.key shown :: steps) (.key shown' :: steps') := by
  simp only [FieldName.find?]
  cases h with
  | respelled hrespells hcamel hfree hgone hsnake hvalue =>
    refine .inr ⟨name.camel, name.snake, _, _, by rw [hcamel], by rw [hgone, hsnake]; rfl, hvalue,
      fun _ _ hplace => ?_⟩
    exact .respelled hrespells hcamel hfree hgone hsnake hplace
  | kept hcamel hsnake =>
    cases hcamel with
    | present hfs hgs hvalue =>
      exact .inr ⟨name.camel, name.camel, _, _, by rw [hfs], by rw [hgs], hvalue,
        fun _ _ hplace => .step hfs hgs hplace⟩
    | absent hfs hgs =>
      cases hsnake with
      | present hfs' hgs' hvalue =>
        exact .inr ⟨name.snake, name.snake, _, _, by rw [hfs, hfs']; rfl, by rw [hgs, hgs']; rfl,
          hvalue, fun _ _ hplace => .step hfs' hgs' hplace⟩
      | absent hfs' hgs' => exact .inl ⟨by rw [hfs, hfs']; rfl, by rw [hgs, hgs']; rfl⟩

/-- Reading some fields of two objects, in which these fields are restated, agrees. -/
def ReadAlike (respells : Prop) (fs gs : Json.Fields) (fields : List (FieldName × Place))
    (x y : Except Violation α) : Prop :=
  (∀ field ∈ fields, FieldRestated respells field.1 field.2 fs gs) →
    Agree respells (.obj fs) (.obj gs) x y

namespace ReadAlike

variable {fs gs : Json.Fields} {fields fields' : List (FieldName × Place)} {name : FieldName}
  {place : Place} {x y : Except Violation α} {f g : α → Except Violation β} {d : Decoder α}

theorem pure (a : α) : ReadAlike respells fs gs [] (Pure.pure a) (Pure.pure a) :=
  fun _ => .inl ⟨a, rfl, rfl⟩

theorem bind (hx : ReadAlike respells fs gs fields x y)
    (hf : ∀ a, ReadAlike respells fs gs fields' (f a) (g a)) :
    ReadAlike respells fs gs (fields ++ fields') (x >>= f) (y >>= g) := by
  intro h
  rw [List.forall_mem_append] at h
  exact (hx h.1).bind fun a => hf a h.2

theorem field {read : FieldName × Place} (hx : ReadAlike respells fs gs [read] x y)
    (hf : ∀ a, ReadAlike respells fs gs fields (f a) (g a)) :
    ReadAlike respells fs gs (read :: fields) (x >>= f) (y >>= g) := hx.bind hf

theorem required (hd : d.Blind respells place) :
    ReadAlike respells fs gs [(name, place)] (Decoder.required name d fs)
      (Decoder.required name d gs) := by
  intro h
  rw [Decoder.required, Decoder.required]
  obtain ⟨hfs, hgs⟩ | ⟨shown, shown', x, y, hfs, hgs, hvalue, hstep⟩ :=
    (List.forall_mem_singleton.mp h).find?
  · rw [hfs, hgs]
    exact .inr ⟨_, _, rfl, rfl, rfl, .missing hfs hgs⟩
  · rw [hfs, hgs]
    exact Decoder.agree_below hstep (hd x y hvalue)

theorem optional (hd : d.Blind respells place) :
    ReadAlike respells fs gs [(name, place)] (Decoder.optional name d fs)
      (Decoder.optional name d gs) := by
  intro h
  obtain ⟨hfs, hgs⟩ | ⟨shown, shown', x, y, hfs, hgs, hvalue, hstep⟩ :=
    (List.forall_mem_singleton.mp h).find?
  · rw [Decoder.optional, Decoder.optional, hfs, hgs]
    exact .inl ⟨none, rfl, rfl⟩
  by_cases hnull : x = .null
  · -- Null is restated by itself only.
    subst hnull
    cases hvalue
    rw [Decoder.optional, Decoder.optional, hfs, hgs]
    exact .inl ⟨none, rfl, rfl⟩
  · have hnull' : y ≠ .null := by
      rintro rfl
      cases hvalue
      exact hnull rfl
    rw [Decoder.optional_of_find? hfs hnull, Decoder.optional_of_find? hgs hnull']
    exact (Decoder.agree_below hstep (hd x y hvalue)).map some

end ReadAlike

/-! ## The decoders of both forms -/

namespace Decoder

theorem Blind.record {decode : Json.Fields → Except Violation α} {name : String}
    {kind : RecordKind}
    (h : ∀ fs gs, ReadAlike respells fs gs kind.fields (decode fs) (decode gs)) :
    Blind respells (fun v => do decode (← members name v)) (.record kind) := by
  rintro v w (_ | _ | hfields)
  · exact .refl _ _
  · exact .here (.noRecord name)
  · exact h _ _ hfields

theorem nodeRecord_blind : nodeRecord.Blind respells (.record .nodeRecord) :=
  .record fun _ _ =>
    .field (.required text_blind) fun _ =>
    .field (.required text_blind) fun _ =>
    .field (.optional text_blind) fun _ =>
    .field (.optional number_blind) fun _ =>
    .field (.optional number_blind) fun _ =>
    .field (.optional text_blind) fun _ => .pure _

theorem edgeRecord_blind : edgeRecord.Blind respells (.record .edgeRecord) :=
  .record fun _ _ =>
    .field (.required text_blind) fun _ =>
    .field (.required text_blind) fun _ =>
    .field (.optional text_blind) fun _ =>
    .field (.required edgeKind_blind) fun _ => .pure _

theorem sectionRecord_blind : sectionRecord.Blind respells (.record .sectionRecord) :=
  .record fun _ _ =>
    .field (.required text_blind) fun _ =>
    .field (.required text_blind) fun _ =>
    .field (.required text_blind.list) fun _ => .pure _

theorem stickyRecord_blind : stickyRecord.Blind respells (.record .stickyRecord) :=
  .record fun _ _ =>
    .field (.required text_blind) fun _ =>
    .field (.required text_blind) fun _ => .pure _

theorem diagramRecord_blind (id name : String) :
    (diagramRecord id name).Blind respells (.record .diagramRecord) :=
  .record fun _ _ =>
    .field (.required nodeRecord_blind.list) fun _ =>
    .field (.required edgeRecord_blind.list) fun _ =>
    .field (.required sectionRecord_blind.list) fun _ =>
    .field (.required stickyRecord_blind.list) fun _ => .pure _

theorem pageRecord_blind : pageRecord.Blind respells (.record .pageRecord) :=
  .record fun _ _ =>
    .field (.required text_blind) fun id =>
    .field (.required text_blind) fun name =>
    .required (diagramRecord_blind id name)

theorem pageList_blind : Blind respells PageList.ofJson (.record .pageList) :=
  .record fun _ _ =>
    .field (.required pageRecord_blind.list) fun _ =>
    .field (.optional text_blind) fun _ => .pure _

theorem endpoint_blind : endpoint.Blind respells (.record .endpoint) :=
  .record fun _ _ => .field (.optional text_blind) fun _ => .pure _

theorem boundingBox_blind : boundingBox.Blind respells (.record .boundingBox) :=
  .record fun _ _ =>
    .field (.required number_blind) fun _ =>
    .field (.required number_blind) fun _ =>
    .field (.required number_blind) fun _ =>
    .field (.required number_blind) fun _ => .pure _

/-- The fields of an item but its children, which are the last. -/
theorem itemFields_alike (fs gs : Json.Fields) :
    ReadAlike respells fs gs (RecordKind.item.fields.take 10) (itemFields fs) (itemFields gs) :=
  .field (.required text_blind) fun _ =>
  .field (.required text_blind) fun _ =>
  .field (.optional text_blind) fun _ =>
  .field (.optional text_blind) fun _ =>
  .field (.optional text_blind) fun _ =>
  .field (.optional endpoint_blind) fun _ =>
  .field (.optional endpoint_blind) fun _ =>
  .field (.optional text_blind) fun _ =>
  .field (.optional text_blind) fun _ =>
  .field (.optional boundingBox_blind) fun _ => .pure _

/-- By induction on the depth; what is too deep is refused unseen. -/
theorem tree_blind (depth : Nat) : (tree depth).Blind respells (.record .item) := by
  induction depth with
  | zero => exact fun _ _ _ => .here .tooDeep
  | succ depth ih =>
    exact .record fun fs gs =>
      (itemFields_alike fs gs).bind fun _ =>
      .field (.optional ih.list) fun _ => .pure _

theorem treeFile_blind : Blind respells TreeFile.ofJson (.record .treeFile) :=
  .record fun _ _ =>
    .field (.required (tree_blind maxDepth)) fun _ =>
    .field (.optional text_blind) fun _ => .pure _

end Decoder

/-! ## The checks -/

/-- Two checks give the same, or failures that differ in the spelling of their places only. -/
def CheckedAlike (form : WireForm) (root : String) (v w : Json) (x y : Except Failure α) : Prop :=
  (∃ a, x = .ok a ∧ y = .ok a) ∨ ∃ e e' : Violation, x = .error (e.failure form root) ∧
    y = .error (e'.failure form root) ∧ e'.reason = e.reason ∧ SamePlace True v w e.steps e'.steps

namespace Decoder.Blind

variable {d : Decoder α} {place : Place} {v w : Json}

theorem eq (hd : d.Blind False place) (h : Restated False place v w) : d w = d v := by
  obtain ⟨a, hv, hw⟩ | ⟨⟨steps, reason⟩, ⟨steps', reason'⟩, hv, hw, rfl, hplace⟩ := hd v w h
  · rw [hv, hw]
  · obtain rfl := hplace.steps_eq
    rw [hv, hw]

theorem checkedAlike (hd : d.Blind True place) (h : Restated True place v w) (form : WireForm)
    (root : String) : CheckedAlike form root v w ((d v).mapError (·.failure form root))
      ((d w).mapError (·.failure form root)) := by
  obtain ⟨a, hv, hw⟩ | ⟨e, e', hv, hw, hreason, hplace⟩ := hd v w h
  · rw [hv, hw]
    exact .inl ⟨a, rfl, rfl⟩
  · rw [hv, hw]
    exact .inr ⟨e, e', rfl, rfl, hreason, hplace⟩

end Decoder.Blind

/-- The checks do not see members that name no field, nor the order of members; respelled fields
make no difference but in the place that a failure tells. -/
theorem checks_restated :
    (∀ v w root, Restated False (.record .pageList) v w →
      checkPageList w root = checkPageList v root) ∧
    (∀ v w root, Restated False (.record .treeFile) v w → checkTree w root = checkTree v root) ∧
    (∀ v w root, Restated True (.record .pageList) v w →
      CheckedAlike .structured root v w (checkPageList v root) (checkPageList w root)) ∧
    ∀ v w root, Restated True (.record .treeFile) v w →
      CheckedAlike .tree root v w (checkTree v root) (checkTree w root) := by
  refine ⟨fun v w root h => ?_, fun v w root h => ?_, fun v w root h => ?_, fun v w root h => ?_⟩
  · rw [checkPageList, checkPageList, Decoder.pageList_blind.eq h]
  · rw [checkTree, checkTree, Decoder.treeFile_blind.eq h]
  · exact Decoder.pageList_blind.checkedAlike h .structured root
  · exact Decoder.treeFile_blind.checkedAlike h .tree root

/-- A page list with a sticky note that has no text. -/
def textlessNote : Json :=
  .obj [("pages", .arr [.obj [("pageId", .str "p"), ("pageName", .str "P"),
    ("diagram", .obj [("nodes", .arr []), ("edges", .arr []), ("sections", .arr []),
      ("stickyNotes", .arr [.obj [("sourceId", .str "s")]])])]])]

/-- The same with members that name no field, at three depths, and in another order. -/
def textlessNoteMixed : Json :=
  .obj [("version", .int 2), ("pages", .arr [.obj [("zoom", .null), ("diagram", .obj [
      ("stickyNotes", .arr [.obj [("color", .str "red"), ("sourceId", .str "s")]]),
      ("sections", .arr []), ("nodes", .arr []), ("edges", .arr [])]),
    ("pageName", .str "P"), ("pageId", .str "p")]])]

/-- The same with three fields respelled. -/
def textlessNoteRespelled : Json :=
  .obj [("pages", .arr [.obj [("page_id", .str "p"), ("pageName", .str "P"),
    ("diagram", .obj [("nodes", .arr []), ("edges", .arr []), ("sections", .arr []),
      ("sticky_notes", .arr [.obj [("source_id", .str "s")]])])]])]

theorem restated_textlessNoteMixed :
    Restated False (.record .pageList) textlessNote textlessNoteMixed := by
  refine .members ?_
  simp only [Place.fields, RecordKind.fields, List.forall_mem_cons]
  refine ⟨.word (.present rfl rfl (.single ?_)), .unchanged rfl rfl, List.forall_mem_nil _⟩
  refine .members ?_
  simp only [Place.fields, Place.item, RecordKind.fields, List.forall_mem_cons]
  refine ⟨.unchanged rfl rfl, .unchanged rfl rfl, .word (.present rfl rfl ?_),
    List.forall_mem_nil _⟩
  refine .members ?_
  simp only [Place.fields, RecordKind.fields, List.forall_mem_cons]
  refine ⟨.unchanged rfl rfl, .unchanged rfl rfl, .unchanged rfl rfl,
    .kept (.present rfl rfl (.single ?_)) (.absent rfl rfl), List.forall_mem_nil _⟩
  refine .members ?_
  simp only [Place.fields, Place.item, RecordKind.fields, List.forall_mem_cons]
  exact ⟨.unchanged rfl rfl, .unchanged rfl rfl, List.forall_mem_nil _⟩

theorem restated_textlessNoteRespelled :
    Restated True (.record .pageList) textlessNote textlessNoteRespelled := by
  refine .members ?_
  simp only [Place.fields, RecordKind.fields, List.forall_mem_cons]
  refine ⟨.word (.present rfl rfl (.single ?_)), .unchanged rfl rfl, List.forall_mem_nil _⟩
  refine .members ?_
  simp only [Place.fields, Place.item, RecordKind.fields, List.forall_mem_cons]
  refine ⟨.respelled trivial rfl rfl rfl rfl (.same _ _), .unchanged rfl rfl,
    .word (.present rfl rfl ?_), List.forall_mem_nil _⟩
  refine .members ?_
  simp only [Place.fields, RecordKind.fields, List.forall_mem_cons]
  refine ⟨.unchanged rfl rfl, .unchanged rfl rfl, .unchanged rfl rfl,
    .respelled trivial rfl rfl rfl rfl (.single ?_), List.forall_mem_nil _⟩
  refine .members ?_
  simp only [Place.fields, Place.item, RecordKind.fields, List.forall_mem_cons]
  exact ⟨.respelled trivial rfl rfl rfl rfl (.same _ _), .unchanged rfl rfl, List.forall_mem_nil _⟩

/-- A tree file in which a connector starts at no record. -/
def brokenStart : Json.Fields :=
  [("document", .obj [("id", .str "c"), ("type", .str "CONNECTOR"), ("connectorStart", .nat 5)]),
    ("name", .str "Flow")]

def brokenStartRespelled : Json.Fields :=
  [("document", .obj [("id", .str "c"), ("type", .str "CONNECTOR"), ("connector_start", .nat 5)]),
    ("name", .str "Flow")]

theorem restated_brokenStartRespelled :
    Restated True (.record .treeFile) (.obj brokenStart) (.obj brokenStartRespelled) := by
  refine .members ?_
  simp only [Place.fields, RecordKind.fields, List.forall_mem_cons]
  refine ⟨.word (.present rfl rfl ?_), .unchanged rfl rfl, List.forall_mem_nil _⟩
  refine .members ?_
  simp only [Place.fields, RecordKind.fields, List.forall_mem_cons]
  exact ⟨.unchanged rfl rfl, .unchanged rfl rfl, .unchanged rfl rfl, .unchanged rfl rfl,
    .unchanged rfl rfl, .respelled trivial rfl rfl rfl rfl (.same _ _), .unchanged rfl rfl,
    .unchanged rfl rfl, .unchanged rfl rfl, .unchanged rfl rfl, .unchanged rfl rfl,
    List.forall_mem_nil _⟩

theorem checks_restated_samples :
    checkPageList textlessNoteMixed pageListRoot = checkPageList textlessNote pageListRoot ∧
    checkTree (.obj brokenStart.reverse) treeRoot = checkTree (.obj brokenStart) treeRoot ∧
    CheckedAlike .structured pageListRoot textlessNote textlessNoteRespelled
      (checkPageList textlessNote pageListRoot)
      (checkPageList textlessNoteRespelled pageListRoot) ∧
    CheckedAlike .tree treeRoot (.obj brokenStart) (.obj brokenStartRespelled)
      (checkTree (.obj brokenStart) treeRoot) (checkTree (.obj brokenStartRespelled) treeRoot) := by
  have hkeys : brokenStart.keys.Nodup := by decide
  obtain ⟨hpages, htree, hpages', htree'⟩ := checks_restated
  refine ⟨hpages _ _ _ restated_textlessNoteMixed, ?_,
    hpages' _ _ _ restated_textlessNoteRespelled, htree' _ _ _ restated_brokenStartRespelled⟩
  exact htree _ _ _ (.of_perm hkeys brokenStart.reverse_perm.symm)

end Wire

end FlowBoard
