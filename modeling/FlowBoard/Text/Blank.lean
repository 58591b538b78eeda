/-!
# Blank characters and clean text

Blank characters are the separators of Unicode, the control characters that break lines or
fields, and the no-break spaces. `clean` turns every run of them into one plain space and drops
those at the ends; a text is blank when nothing else is in it.
-/

namespace FlowBoard.Text

def isBlank (c : Char) : Bool :=
  let n := c.toNat
  (0x09 ≤ n && n ≤ 0x0D) || (0x1C ≤ n && n ≤ 0x20) || n == 0x85 || n == 0xA0 || n == 0x1680 ||
    (0x2000 ≤ n && n ≤ 0x200A) || n == 0x2028 || n == 0x2029 || n == 0x202F || n == 0x205F ||
    n == 0x3000

@[simp] theorem isBlank_space : isBlank ' ' = true := by decide

/-- Drops blanks at the end. -/
def trimRight : List Char → List Char
  | [] => []
  | c :: rest =>
    match trimRight rest with
    | [] => if isBlank c then [] else [c]
    | kept => c :: kept

/-- Drops blanks at both ends. -/
def trimChars (cs : List Char) : List Char := trimRight (cs.dropWhile isBlank)

/-- Turns each run of blanks into one plain space; `inRun` tells that a blank came just before. -/
def collapseFrom (inRun : Bool) : List Char → List Char
  | [] => []
  | c :: rest =>
    if isBlank c then
      if inRun then collapseFrom true rest else ' ' :: collapseFrom true rest
    else c :: collapseFrom false rest

def collapse (cs : List Char) : List Char := collapseFrom false cs

def cleanChars (cs : List Char) : List Char := trimChars (collapse cs)

/-- The text with `f` applied to its characters. -/
def onChars (f : List Char → List Char) (s : String) : String := String.ofList (f s.toList)

@[simp] theorem toList_onChars (f : List Char → List Char) (s : String) :
    (onChars f s).toList = f s.toList := by simp [onChars]

def trim (s : String) : String := onChars trimChars s

/-- One plain space for every run of blanks, and none at the ends. -/
def clean (s : String) : String := onChars cleanChars s

def isBlankText (s : String) : Bool := s.toList.all isBlank

/-- The text, unless it is empty. -/
def orElse (s : String) (fallback : String) : String := if s.isEmpty then fallback else s

/-- The trimmed text, unless nothing is left of it. -/
def given? (s : Option String) : Option String :=
  match s with
  | none => none
  | some s => if (trim s).isEmpty then none else some (trim s)

end FlowBoard.Text
