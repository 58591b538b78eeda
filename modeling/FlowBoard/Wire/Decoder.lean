import FlowBoard.Graph.Basic
import FlowBoard.Json.Basic
import FlowBoard.Wire.Violation

/-!
# Decoders

A decoder turns a JSON value into a typed one or reports the first violation: in the order of a
record's fields, and of a list's items. Nothing is converted but whole numbers, which become the
binary number of the same value. A field is looked up by its name in camel case and then by the
one with underscores; members that name no field are ignored.
-/

namespace FlowBoard.Wire

abbrev Decoder (α : Type) := Json → Except Violation α

/-- The two spellings of a field's name. -/
structure FieldName where
  camel : String
  snake : String
deriving DecidableEq, Repr

/-- A name of one word, which is spelled in one way. -/
def FieldName.word (name : String) : FieldName := ⟨name, name⟩

/-- The value of a field, with the spelling by which it was found. -/
def FieldName.find? (name : FieldName) (fields : Json.Fields) : Option (String × Json) :=
  match Keyed.find? name.camel fields with
  | some v => some (name.camel, v)
  | none => (Keyed.find? name.snake fields).map (name.snake, ·)

namespace Decoder

/-- Decodes a value one step further down. -/
def below (step : Step) (d : Decoder α) (v : Json) : Except Violation α :=
  match d v with
  | .ok a => .ok a
  | .error e => .error (e.under step)

def text : Decoder String
  | .str s => .ok s
  | _ => .error (.here .noText)

def number : Decoder Finite
  | .num n =>
    match n.binary? with
    | none => .error (.here .noNumber)
    | some x =>
      match x.finite? with
      | some x => .ok x
      | none => .error (.here .notFinite)
  | _ => .error (.here .noNumber)

def edgeKind : Decoder EdgeKind
  | .str s =>
    match EdgeKind.ofName? s with
    | some kind => .ok kind
    | none => .error (.here .noKind)
  | _ => .error (.here .noKind)

/-- The members of an object. -/
def members (record : String) : Decoder Json.Fields
  | .obj fields => .ok fields
  | _ => .error (.here (.noRecord record))

/-- Items from the index `i` on. -/
def itemsFrom (d : Decoder α) (i : Nat) : List Json → Except Violation (List α)
  | [] => .ok []
  | v :: rest =>
    match d.below (.index i) v, itemsFrom d (i + 1) rest with
    | .error e, _ => .error e
    | .ok _, .error e => .error e
    | .ok a, .ok as => .ok (a :: as)

def list (d : Decoder α) : Decoder (List α)
  | .arr items => itemsFrom d 0 items
  | _ => .error (.here .noList)

/-- A field that must be there. -/
def required (name : FieldName) (d : Decoder α) (fields : Json.Fields) : Except Violation α :=
  match name.find? fields with
  | none => .error ⟨[.key name.camel], .missing⟩
  | some (shown, v) => d.below (.key shown) v

/-- A field that may be absent or null. -/
def optional (name : FieldName) (d : Decoder α) (fields : Json.Fields) :
    Except Violation (Option α) :=
  match name.find? fields with
  | none => .ok none
  | some (_, .null) => .ok none
  | some (shown, v) => (d.below (.key shown) v).map some

end Decoder

end FlowBoard.Wire
