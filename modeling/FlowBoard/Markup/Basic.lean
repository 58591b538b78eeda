import FlowBoard.Text.Position

/-!
# Markup

A document in markup is a tree of elements with attributes and characters between them. A name has
a space, which is empty for a plain name.
-/

namespace FlowBoard

namespace Markup

structure Name where
  space : String := ""
  base : String
deriving DecidableEq, Repr

/-- A name without a space. -/
def Name.plain (base : String) : Name := ⟨"", base⟩

end Markup

inductive Markup
  | char (c : Char)
  | element (name : Markup.Name) (attributes : List (Markup.Name × String)) (content : List Markup)
deriving Repr

namespace Markup

mutual

def decEq : (m m' : Markup) → Decidable (m = m')
  | .char c, .char d => decidable_of_iff (c = d) (by rw [char.injEq])
  | .char _, .element .. => .isFalse nofun
  | .element .., .char _ => .isFalse nofun
  | .element name attributes content, .element name' attributes' content' =>
    match decEqAll content content' with
    | .isTrue h => decidable_of_iff (name = name' ∧ attributes = attributes') (by simp [h])
    | .isFalse h => .isFalse fun he => h (element.inj he).2.2

def decEqAll : (ms ms' : List Markup) → Decidable (ms = ms')
  | [], [] => .isTrue rfl
  | [], _ :: _ => .isFalse nofun
  | _ :: _, [] => .isFalse nofun
  | m :: ms, m' :: ms' =>
    match decEq m m', decEqAll ms ms' with
    | .isTrue h, .isTrue hs => .isTrue (by rw [h, hs])
    | .isFalse h, _ => .isFalse fun he => h (List.cons.inj he).1
    | _, .isFalse hs => .isFalse fun he => hs (List.cons.inj he).2

end

instance : DecidableEq Markup := decEq

def isNamed (base : String) : Markup → Bool
  | .char _ => false
  | .element name _ _ => name == Name.plain base

def isElement : Markup → Bool
  | .char _ => false
  | .element .. => true

def content : Markup → List Markup
  | .char _ => []
  | .element _ _ content => content

/-- The value of the attribute with that plain name. -/
def attribute? (base : String) : Markup → Option String
  | .char _ => none
  | .element _ attributes _ => attributes.lookup (Name.plain base)

/-- The value of an attribute, unless it is empty. -/
def given? (base : String) (m : Markup) : Option String := (m.attribute? base).filter (!·.isEmpty)

/-- The elements directly inside. -/
def elements (m : Markup) : List Markup := m.content.filter isElement

/-- The elements directly inside that have that plain name. -/
def named (base : String) (m : Markup) : List Markup := m.content.filter (isNamed base)

/-- The characters before the first element inside. -/
def leadingChars : List Markup → List Char
  | .char c :: rest => c :: leadingChars rest
  | _ => []

mutual

/-- All characters, at any depth. -/
def chars : Markup → List Char
  | .char c => [c]
  | .element _ _ content => charsOf content

def charsOf : List Markup → List Char
  | [] => []
  | m :: rest => chars m ++ charsOf rest

end

end Markup

end FlowBoard
