import FlowBoard.Proofs.Wire.Grammar

/-!
# Shapes and their first flaws

A shape says which values conform and, of those that do not, where the first flaw is: in the order
of a record's rules, and of a list's items, all that comes before it conforms. `Locates` says where
a place leads in a value, without regard to any shape. Every shape carries the proof that a flawed
value does not conform, that no other place is first, and that the place leads to what is wrong.
-/

namespace FlowBoard

namespace Json

/-- The item with that index, if the value is an array that has it. -/
def item? (i : Int) : Json → Option Json
  | .arr items => if 0 ≤ i then items[i.toNat]? else none
  | _ => none

open Wire in
/-- The value one step further down. -/
def step? (v : Json) : Step → Option Json
  | .key name => v.field? name
  | .index i => v.item? i

/-- The value that steps lead to. -/
def follow? (v : Json) : List Wire.Step → Option Json
  | [] => some v
  | step :: rest => (v.step? step).bind (·.follow? rest)

end Json

namespace Wire

/-! ## Places -/

/-- What is wrong with a value that is refused for a reason: it has another type, is a number but no
finite one, or none of the words. A whole number that is too large is near no finite one. -/
def Misfit : Reason → Json → Prop
  | .missing, _ => False
  | .noText, v => v.isString = false
  | .noNumber, v =>
    (∀ n, v ≠ .num n) ∨ ∃ n, v = .num (.whole n) ∧ Binary64.wholeLimit ≤ n.natAbs
  | .notFinite, v => ∃ x, v = .num (.binary x) ∧ x.finite? = none
  | .noKind, v => ∀ kind, v ≠ .str (EdgeKind.name kind)
  | .noList, v => ∀ items, v ≠ .arr items
  | .noRecord _, v => ∀ fields, v ≠ .obj fields
  | .tooDeep, _ => False

/-- The steps lead to a value that is wrong, or to an object and on to a field that it lacks under
both names; then the name in camel case is shown. -/
inductive Locates (v : Json) : List Step → Reason → Prop
  | missing {before : List Step} {fields : Json.Fields} {name : FieldName}
      (hobject : v.follow? before = some (.obj fields))
      (hcamel : Keyed.find? name.camel fields = none)
      (hsnake : Keyed.find? name.snake fields = none) :
      Locates v (before ++ [.key name.camel]) .missing
  | misfit {steps : List Step} {x : Json} {reason : Reason} (hvalue : v.follow? steps = some x)
      (hwrong : Misfit reason x) : Locates v steps reason

theorem Locates.under {v x : Json} {step : Step} {steps : List Step} {reason : Reason}
    (hstep : v.step? step = some x) (h : Locates x steps reason) :
    Locates v (step :: steps) reason := by
  have hfollow : ∀ rest, v.follow? (step :: rest) = x.follow? rest := fun rest => by
    rw [Json.follow?, hstep, Option.bind_some]
  cases h with
  | missing hobject hcamel hsnake =>
    exact @Locates.missing v (step :: _) _ _ ((hfollow _).trans hobject) hcamel hsnake
  | misfit hvalue hwrong => exact .misfit ((hfollow _).trans hvalue) hwrong

/-! ## Shapes -/

/-- Which values conform, and where the first flaw of the others is and for what reason. -/
structure Shape where
  Fits : Json → Prop
  Flaw : Json → List Step → Reason → Prop
  unfit : ∀ {v steps reason}, Flaw v steps reason → ¬Fits v
  unique : ∀ {v steps reason steps' reason'}, Flaw v steps reason → Flaw v steps' reason' →
    steps' = steps ∧ reason' = reason
  located : ∀ {v steps reason}, Flaw v steps reason → reason ≠ .tooDeep → Locates v steps reason

variable {α : Type} {before before' after after' : List α} {x x' : α}

/-- A list has one first member that lacks a property. -/
theorem split_unique {P : α → Prop} (h : before ++ x :: after = before' ++ x' :: after')
    (hbefore : ∀ y ∈ before, P y) (hbefore' : ∀ y ∈ before', P y) (hx : ¬P x) (hx' : ¬P x') :
    before' = before ∧ x' = x := by
  induction before generalizing before' with
  | nil =>
    cases before' with
    | nil =>
      rw [List.nil_append, List.nil_append] at h
      exact ⟨rfl, (List.cons.inj h).1.symm⟩
    | cons y rest =>
      obtain ⟨rfl, -⟩ := List.cons.inj h
      exact absurd (hbefore' x List.mem_cons_self) hx
  | cons y rest ih =>
    cases before' with
    | nil =>
      obtain ⟨rfl, -⟩ := List.cons.inj h
      exact absurd (hbefore y List.mem_cons_self) hx'
    | cons y' rest' =>
      obtain ⟨rfl, htail⟩ := List.cons.inj h
      obtain ⟨rfl, rfl⟩ := ih htail (fun z hz => hbefore z (List.mem_cons_of_mem _ hz))
        fun z hz => hbefore' z (List.mem_cons_of_mem _ hz)
      exact ⟨rfl, rfl⟩

namespace Shape

/-- A shape of values that have nothing below them that could be flawed. -/
def leaf (Fits : Json → Prop) (why : Json → Reason)
    (hwhy : ∀ v, ¬Fits v → why v ≠ .tooDeep → Misfit (why v) v) : Shape where
  Fits := Fits
  Flaw v steps reason := ¬Fits v ∧ steps = [] ∧ reason = why v
  unfit h := h.1
  unique := by
    rintro v _ _ _ _ ⟨-, rfl, rfl⟩ ⟨-, rfl, rfl⟩
    exact ⟨rfl, rfl⟩
  located := by
    rintro v _ _ ⟨hunfit, rfl, rfl⟩ hdeep
    exact .misfit rfl (hwhy v hunfit hdeep)

def text : Shape :=
  leaf (fun v => ∃ s, v = .str s) (fun _ => .noText) fun v hunfit _ => by
    cases v with
    | str s => exact absurd ⟨s, rfl⟩ hunfit
    | _ => rfl

def number : Shape :=
  leaf (fun v => ∃ x, Grammar.number v x)
    (fun v => match v with
      | .num (.binary _) => .notFinite
      | _ => .noNumber)
    fun v hunfit _ => by
      cases v with
      | num n =>
        cases n with
        | binary x =>
          refine ⟨x, rfl, ?_⟩
          cases x with
          | finite x => exact absurd ⟨x, .binary x⟩ hunfit
          | _ => rfl
        | whole n =>
          refine .inr ⟨n, rfl, ?_⟩
          by_contra! hsmall
          obtain ⟨x, hx⟩ := Binary64.exists_isNearest hsmall
          exact hunfit ⟨x, .whole n x hsmall hx⟩
      | _ => exact .inl nofun

def edgeKind : Shape :=
  leaf (fun v => ∃ kind, Grammar.edgeKind v kind) (fun _ => .noKind)
    fun _ hunfit _ kind hv => hunfit ⟨kind, hv⟩

/-- No value is as deep as this. -/
def bottom : Shape := leaf (fun _ => False) (fun _ => .tooDeep) fun _ _ hdeep => absurd rfl hdeep

/-! ## Lists -/

/-- The first flaw of a list is in its first item that does not conform. -/
inductive ListFlaw (s : Shape) : Json → List Step → Reason → Prop
  | noList {v : Json} (h : ∀ items, v ≠ .arr items) : ListFlaw s v [] .noList
  | item {before after : List Json} {x : Json} {steps : List Step} {reason : Reason}
      (hbefore : ∀ y ∈ before, s.Fits y) (hx : s.Flaw x steps reason) :
      ListFlaw s (.arr (before ++ x :: after)) (.index before.length :: steps) reason

def list (s : Shape) : Shape where
  Fits v := ∃ items, v = .arr items ∧ ∀ x ∈ items, s.Fits x
  Flaw := s.ListFlaw
  unfit := by
    rintro v _ _ (h | ⟨hbefore, hx⟩) ⟨items, hitems, hall⟩
    · exact h items hitems
    · obtain rfl := Json.arr.inj hitems
      exact s.unfit hx (hall _ (by simp))
  unique := by
    intro v steps reason steps' reason' h h'
    cases h with
    | noList h =>
      cases h' with
      | noList => exact ⟨rfl, rfl⟩
      | item => exact absurd rfl (h _)
    | @item before after x steps reason hbefore hx =>
      generalize hv : Json.arr (before ++ x :: after) = v at h'
      cases h' with
      | noList h' => exact absurd hv.symm (h' _)
      | item hbefore' hx' =>
        obtain ⟨rfl, rfl⟩ :=
          split_unique (Json.arr.inj hv) hbefore hbefore' (s.unfit hx) (s.unfit hx')
        obtain ⟨rfl, rfl⟩ := s.unique hx hx'
        exact ⟨rfl, rfl⟩
  located := by
    rintro v _ _ (h | ⟨hbefore, hx⟩) hdeep
    · exact .misfit rfl h
    · refine (s.located hx hdeep).under ?_
      simp [Json.step?, Json.item?]

end Shape

/-! ## Records -/

namespace FieldName

variable {name : FieldName} {fields : Json.Fields}

theorem find?_shown {shown : String} {v : Json} (h : name.find? fields = some (shown, v)) :
    Keyed.find? shown fields = some v := by
  rw [find?] at h
  cases hcamel : Keyed.find? name.camel fields with
  | some w =>
    rw [hcamel] at h
    obtain ⟨rfl, rfl⟩ := Prod.mk.inj (Option.some.inj h)
    exact hcamel
  | none =>
    rw [hcamel] at h
    obtain ⟨w, hsnake, hpair⟩ := Option.map_eq_some_iff.mp h
    obtain ⟨rfl, rfl⟩ := Prod.mk.inj hpair
    exact hsnake

theorem find?_eq_none_iff : name.find? fields = none ↔
    Keyed.find? name.camel fields = none ∧ Keyed.find? name.snake fields = none := by
  rw [find?]
  cases Keyed.find? name.camel fields <;> simp

end FieldName

/-- A field of a record, with the shape of its value. -/
structure Rule where
  name : FieldName
  required : Bool
  shape : Shape

namespace Rule

/-- A field that must be there. -/
def must (name : FieldName) (shape : Shape) : Rule := ⟨name, true, shape⟩

/-- A field that may be absent or null. -/
def may (name : FieldName) (shape : Shape) : Rule := ⟨name, false, shape⟩

variable {rule : Rule} {fields : Json.Fields} {steps steps' : List Step} {reason reason' : Reason}

/-- The field has a value that conforms; one that is not required may be absent or null. -/
def Holds (rule : Rule) (fields : Json.Fields) : Prop :=
  match rule.name.find? fields with
  | none => rule.required = false
  | some (_, v) => (rule.required = false ∧ v = .null) ∨ rule.shape.Fits v

theorem holds_of_find?_eq_none (hrequired : rule.required = false)
    (habsent : rule.name.find? fields = none) : rule.Holds fields := by
  rw [Holds, habsent]
  exact hrequired

theorem holds_of_null {shown : String} (hrequired : rule.required = false)
    (hfound : rule.name.find? fields = some (shown, .null)) : rule.Holds fields := by
  rw [Holds, hfound]
  exact .inl ⟨hrequired, rfl⟩

theorem holds_of_fits {shown : String} {v : Json}
    (hfound : rule.name.find? fields = some (shown, v)) (hv : rule.shape.Fits v) :
    rule.Holds fields := by
  rw [Holds, hfound]
  exact .inr hv

/-- A required field is missing, or the value of a field has a flaw. Its place has the spelling
under which the value was found. -/
inductive Flaw (rule : Rule) (fields : Json.Fields) : List Step → Reason → Prop
  | missing (hrequired : rule.required = true) (habsent : rule.name.find? fields = none) :
      Flaw rule fields [.key rule.name.camel] .missing
  | value {shown : String} {v : Json} {steps : List Step} {reason : Reason}
      (hfound : rule.name.find? fields = some (shown, v))
      (hgiven : rule.required = true ∨ v ≠ .null) (hv : rule.shape.Flaw v steps reason) :
      Flaw rule fields (.key shown :: steps) reason

theorem Flaw.not_holds (h : rule.Flaw fields steps reason) : ¬rule.Holds fields := by
  unfold Holds
  cases h with
  | missing hrequired habsent => simp [habsent, hrequired]
  | value hfound hgiven hv =>
    rw [hfound]
    rintro (⟨hrequired, hnull⟩ | hfits)
    · exact hgiven.elim (by simp [hrequired]) (· hnull)
    · exact rule.shape.unfit hv hfits

theorem Flaw.unique (h : rule.Flaw fields steps reason) (h' : rule.Flaw fields steps' reason') :
    steps' = steps ∧ reason' = reason := by
  cases h with
  | missing hrequired habsent =>
    cases h' with
    | missing => exact ⟨rfl, rfl⟩
    | value hfound => simp [habsent] at hfound
  | value hfound hgiven hv =>
    cases h' with
    | missing hrequired habsent => simp [habsent] at hfound
    | value hfound' hgiven' hv' =>
      obtain ⟨rfl, rfl⟩ := Prod.mk.inj (Option.some.inj (hfound.symm.trans hfound'))
      obtain ⟨rfl, rfl⟩ := rule.shape.unique hv hv'
      exact ⟨rfl, rfl⟩

theorem Flaw.located (h : rule.Flaw fields steps reason) (hdeep : reason ≠ .tooDeep) :
    Locates (.obj fields) steps reason := by
  cases h with
  | missing hrequired habsent =>
    obtain ⟨hcamel, hsnake⟩ := FieldName.find?_eq_none_iff.mp habsent
    exact @Locates.missing _ [] fields rule.name rfl hcamel hsnake
  | value hfound hgiven hv =>
    exact (rule.shape.located hv hdeep).under (FieldName.find?_shown hfound)

end Rule

namespace Shape

/-- The first flaw of a record is in its first field that does not conform, in the order of the
rules. -/
inductive RecordFlaw (record : String) (rules : List Rule) : Json → List Step → Reason → Prop
  | noRecord {v : Json} (h : ∀ fields, v ≠ .obj fields) :
      RecordFlaw record rules v [] (.noRecord record)
  | field {fields : Json.Fields} {before after : List Rule} {rule : Rule} {steps : List Step}
      {reason : Reason} (hrules : rules = before ++ rule :: after)
      (hbefore : ∀ r ∈ before, r.Holds fields) (hrule : rule.Flaw fields steps reason) :
      RecordFlaw record rules (.obj fields) steps reason

/-- Objects whose fields keep all rules; members that no rule names do not matter. -/
def record (name : String) (rules : List Rule) : Shape where
  Fits v := ∃ fields, v = .obj fields ∧ ∀ rule ∈ rules, rule.Holds fields
  Flaw := RecordFlaw name rules
  unfit := by
    rintro v _ _ (h | ⟨rfl, hbefore, hrule⟩) ⟨fields, hfields, hall⟩
    · exact h fields hfields
    · obtain rfl := Json.obj.inj hfields
      exact hrule.not_holds (hall _ (by simp))
  unique := by
    intro v steps reason steps' reason' h h'
    cases h with
    | noRecord h =>
      cases h' with
      | noRecord => exact ⟨rfl, rfl⟩
      | field => exact absurd rfl (h _)
    | field hrules hbefore hrule =>
      cases h' with
      | noRecord h' => exact absurd rfl (h' _)
      | field hrules' hbefore' hrule' =>
        obtain ⟨rfl, rfl⟩ := split_unique (hrules.symm.trans hrules') hbefore hbefore'
          hrule.not_holds hrule'.not_holds
        exact hrule.unique hrule'
  located := by
    rintro v _ _ (h | ⟨hrules, hbefore, hrule⟩) hdeep
    · exact .misfit rfl h
    · exact hrule.located hdeep

end Shape

end Wire

end FlowBoard
