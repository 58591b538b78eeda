import FlowBoard.Proofs.Number.Nearest
import FlowBoard.Wire.Decoder
import Mathlib.Data.List.Forall2

/-!
# Grammars of wire forms

A grammar relates a JSON value to the typed value that is its copy; it says nothing of decoders. A
decoder is exact for a grammar if it takes the values that have a copy, and gives that copy.
-/

namespace FlowBoard.Wire

variable {α β : Type}

/-- The value of a field: by its name in camel case, or else by the one with underscores. -/
def FieldName.value? (name : FieldName) (fields : Json.Fields) : Option Json :=
  (Keyed.find? name.camel fields).or (Keyed.find? name.snake fields)

abbrev Grammar (α : Type) := Json → α → Prop

namespace Grammar

def text : Grammar String := fun v s => v = .str s

/-- Finite numbers are copied; whole ones that are not too large become the nearest finite ones. -/
inductive number : Grammar Finite
  | binary (x : Finite) : number (.num (.binary (.finite x))) x
  | whole (n : Int) (x : Finite) (small : n.natAbs < Binary64.wholeLimit)
      (nearest : x.IsNearest n) : number (.num (.whole n)) x

def edgeKind : Grammar EdgeKind := fun v kind => v = .str kind.name

/-- Arrays, item by item. -/
def list (g : Grammar α) : Grammar (List α) := fun v as =>
  ∃ items, v = .arr items ∧ List.Forall₂ g items as

/-- Objects whose fields make up a record. -/
def object (record : Json.Fields → α → Prop) : Grammar α := fun v a =>
  ∃ fields, v = .obj fields ∧ record fields a

/-- A field that must be there. -/
def Required (name : FieldName) (g : Grammar α) (fields : Json.Fields) (a : α) : Prop :=
  ∃ v, name.value? fields = some v ∧ g v a

/-- A field that may be absent or null. -/
inductive Optional (name : FieldName) (g : Grammar α) (fields : Json.Fields) : Option α → Prop
  | absent (h : name.value? fields = none) : Optional name g fields none
  | null (h : name.value? fields = some .null) : Optional name g fields none
  | given (v : Json) (a : α) (h : name.value? fields = some v) (hnull : v ≠ .null) (hv : g v a) :
      Optional name g fields (some a)

end Grammar

/-- A decoder takes exactly the values of a grammar, and copies them. -/
def Decoder.Exact (d : Decoder α) (g : Grammar α) : Prop := ∀ v a, d v = .ok a ↔ g v a

theorem bind_eq_ok_iff {ε : Type} {x : Except ε α} {f : α → Except ε β} {b : β} :
    x >>= f = .ok b ↔ ∃ a, x = .ok a ∧ f a = .ok b := by
  cases x with
  | ok a => exact ⟨fun h => ⟨a, rfl, h⟩, fun ⟨_, ha, h⟩ => by cases ha; exact h⟩
  | error e => exact ⟨nofun, nofun⟩

theorem pure_eq_ok_iff {ε : Type} {a b : α} : (pure a : Except ε α) = .ok b ↔ a = b := by
  constructor
  · rintro ⟨⟩
    rfl
  · rintro rfl
    rfl

namespace Decoder

theorem below_eq_ok_iff {d : Decoder α} {step : Step} {v : Json} {a : α} :
    d.below step v = .ok a ↔ d v = .ok a := by
  rw [below]
  cases d v with
  | ok b => exact Iff.rfl
  | error e => exact ⟨nofun, nofun⟩

theorem members_eq_ok_iff {record : String} {v : Json} {fields : Json.Fields} :
    members record v = .ok fields ↔ v = .obj fields := by
  cases v <;> simp [members]

theorem find?_of_value?_eq_none {name : FieldName} {fields : Json.Fields}
    (h : name.value? fields = none) : name.find? fields = none := by
  rw [FieldName.value?, Option.or_eq_none_iff] at h
  rw [FieldName.find?, h.1, h.2]
  rfl

theorem exists_find?_of_value?_eq_some {name : FieldName} {fields : Json.Fields} {v : Json}
    (h : name.value? fields = some v) : ∃ shown, name.find? fields = some (shown, v) := by
  rw [FieldName.value?] at h
  rw [FieldName.find?]
  cases hcamel : Keyed.find? name.camel fields with
  | some w =>
    rw [hcamel] at h
    cases h
    exact ⟨name.camel, rfl⟩
  | none =>
    rw [hcamel, Option.none_or] at h
    exact ⟨name.snake, by rw [h]; rfl⟩

/-! ## Leaves -/

theorem text_exact : text.Exact Grammar.text := by
  intro v s
  cases v <;> simp [text, Grammar.text]

theorem number_num_eq_ok_iff {n : Number} {x : Finite} :
    number (.num n) = .ok x ↔ n.binary? = some (.finite x) := by
  rw [number]
  cases n.binary? with
  | none => exact ⟨nofun, nofun⟩
  | some y =>
    cases y with
    | finite y => exact ⟨fun h => by cases h; rfl, fun h => by cases h; rfl⟩
    | infinite negative => exact ⟨nofun, nofun⟩
    | nan => exact ⟨nofun, nofun⟩

theorem finite?_eq_some_iff {y : Binary64} {x : Finite} : y.finite? = some x ↔ y = .finite x := by
  cases y with
  | finite y => exact ⟨fun h => by cases h; rfl, fun h => by cases h; rfl⟩
  | infinite negative => exact ⟨nofun, nofun⟩
  | nan => exact ⟨nofun, nofun⟩

theorem binary?_whole_eq_some_iff {n : Int} {x : Finite} :
    (Number.whole n).binary? = some (.finite x) ↔ Binary64.ofInt n = .finite x := by
  rw [Number.binary?, Option.map_eq_some_iff, ← finite?_eq_some_iff]
  exact ⟨fun ⟨y, hy, h⟩ => by cases h; exact hy, fun h => ⟨x, h, rfl⟩⟩

theorem number_exact : number.Exact Grammar.number := by
  intro v x
  cases v with
  | num n =>
    rw [number_num_eq_ok_iff]
    cases n with
    | binary y =>
      unfold Number.binary?
      constructor
      · intro h
        obtain rfl := Option.some.inj h
        exact .binary x
      · intro h
        cases h
        rfl
    | whole n =>
      rw [binary?_whole_eq_some_iff, Binary64.ofInt_eq_finite_iff]
      exact ⟨fun h => .whole n x h.1 h.2, fun h => by cases h; exact ⟨‹_›, ‹_›⟩⟩
  | _ => exact ⟨nofun, nofun⟩

theorem edgeKind_exact : edgeKind.Exact Grammar.edgeKind := by
  intro v kind
  constructor
  · intro h
    cases v with
    | str s =>
      rw [edgeKind] at h
      cases hname : EdgeKind.ofName? s with
      | none => simp [hname] at h
      | some found =>
        simp only [hname, Except.ok.injEq] at h
        subst h
        have hs := List.find?_some (p := fun kind : EdgeKind => kind.name == s) hname
        rw [Grammar.edgeKind, eq_of_beq hs]
    | _ => simp [edgeKind] at h
  · rintro rfl
    cases kind <;> rfl

/-! ## Lists and fields -/

variable {d : Decoder α} {g : Grammar α}

theorem itemsFrom_eq_ok_iff (h : d.Exact g) {i : Nat} {items : List Json} {as : List α} :
    itemsFrom d i items = .ok as ↔ List.Forall₂ g items as := by
  induction items generalizing i as with
  | nil =>
    rw [itemsFrom, Except.ok.injEq, List.forall₂_nil_left_iff]
    exact eq_comm
  | cons v rest ih =>
    constructor
    · intro hread
      rw [itemsFrom] at hread
      cases hv : d.below (.index i) v with
      | error e => simp [hv] at hread
      | ok a =>
        cases hrest : itemsFrom d (i + 1) rest with
        | error e => simp [hv, hrest] at hread
        | ok bs =>
          simp only [hv, hrest, Except.ok.injEq] at hread
          subst hread
          exact .cons ((h v a).mp (below_eq_ok_iff.mp hv)) (ih.mp hrest)
    · rintro (_ | ⟨hv, hrest⟩)
      rw [itemsFrom, below_eq_ok_iff.mpr ((h _ _).mpr hv), ih.mpr hrest]

theorem Exact.list (h : d.Exact g) : (Decoder.list d).Exact g.list := by
  intro v as
  cases v with
  | arr items => simp [Decoder.list, Grammar.list, itemsFrom_eq_ok_iff h]
  | _ => simp [Decoder.list, Grammar.list]

/-- A record is decoded from the members of an object. -/
theorem Exact.object {decode : Json.Fields → Except Violation α}
    {record : Json.Fields → α → Prop} (name : String)
    (h : ∀ fields a, decode fields = .ok a ↔ record fields a) :
    Exact (fun v => do decode (← members name v)) (Grammar.object record) := by
  intro v a
  simp only [bind_eq_ok_iff, members_eq_ok_iff, h]
  exact Iff.rfl

variable {name : FieldName} {fields : Json.Fields}

theorem required_of_find? {shown : String} {v : Json} (h : name.find? fields = some (shown, v)) :
    Decoder.required name d fields = d.below (.key shown) v := by
  rw [Decoder.required, h]

theorem Exact.required (h : d.Exact g) {a : α} :
    Decoder.required name d fields = .ok a ↔ g.Required name fields a := by
  cases hv : name.value? fields with
  | none =>
    rw [Decoder.required, find?_of_value?_eq_none hv]
    exact ⟨nofun, fun ⟨v, hsome, _⟩ => by rw [hv] at hsome; cases hsome⟩
  | some v =>
    obtain ⟨shown, hshown⟩ := exists_find?_of_value?_eq_some hv
    rw [required_of_find? hshown, below_eq_ok_iff, h v a]
    exact ⟨fun ha => ⟨v, hv, ha⟩, fun ⟨w, hw, ha⟩ => by rw [hv] at hw; cases hw; exact ha⟩

theorem optional_of_value?_eq_none (h : name.value? fields = none) :
    Decoder.optional name d fields = .ok none := by
  rw [Decoder.optional, find?_of_value?_eq_none h]

theorem optional_of_null (h : name.value? fields = some .null) :
    Decoder.optional name d fields = .ok none := by
  obtain ⟨shown, hshown⟩ := exists_find?_of_value?_eq_some h
  rw [Decoder.optional, hshown]

theorem optional_of_find? {shown : String} {v : Json} (h : name.find? fields = some (shown, v))
    (hnull : v ≠ .null) :
    Decoder.optional name d fields = (d.below (.key shown) v).map some := by
  rw [Decoder.optional, h]
  cases v with
  | null => exact absurd rfl hnull
  | _ => rfl

theorem optional_of_given {v : Json} (h : name.value? fields = some v) (hnull : v ≠ .null)
    {a : Option α} :
    Decoder.optional name d fields = .ok a ↔ ∃ b, d v = .ok b ∧ some b = a := by
  obtain ⟨shown, hshown⟩ := exists_find?_of_value?_eq_some h
  rw [optional_of_find? hshown hnull, below]
  cases d v with
  | ok b => simp [Except.map]
  | error e => simp [Except.map]

theorem Exact.optional (h : d.Exact g) {a : Option α} :
    Decoder.optional name d fields = .ok a ↔ g.Optional name fields a := by
  constructor
  · intro hread
    cases hv : name.value? fields with
    | none =>
      rw [optional_of_value?_eq_none hv] at hread
      cases hread
      exact .absent hv
    | some v =>
      by_cases hnull : v = .null
      · subst hnull
        rw [optional_of_null hv] at hread
        cases hread
        exact .null hv
      · obtain ⟨b, hb, rfl⟩ := (optional_of_given hv hnull).mp hread
        exact .given v b hv hnull ((h v b).mp hb)
  · rintro (hv | hv | ⟨v, b, hv, hnull, hb⟩)
    · exact optional_of_value?_eq_none hv
    · exact optional_of_null hv
    · exact (optional_of_given hv hnull).mpr ⟨b, (h v b).mpr hb, rfl⟩

end Decoder

end FlowBoard.Wire
