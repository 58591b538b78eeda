import FlowBoard.Markup.Basic
import FlowBoard.Markup.Scanner

/-!
# Reading markup

The reader keeps a stack of open elements, each with the content that it has so far and the
prefixes that are bound in it. Prefixes stand for the spaces of names. A fault is reported with the
number of characters left at its place, from which the line and the column follow; every line end
counts once, whether it is a carriage return, a line feed or both.
-/

namespace FlowBoard.Markup

inductive Fault
  | invalidToken
  | unclosedToken
  | mismatchedTag
  | noElement
  | junkAfterElement
  | undefinedEntity
  | badCharacterReference
  | duplicateAttribute
  | misplacedDeclaration
  | unclosedSection
  | unboundPrefix
  | undeclaredPrefix
  | reservedXml
  | reservedXmlns
  | reservedSpace
  | badSpace
deriving DecidableEq, Repr

def Fault.message : Fault → String
  | .invalidToken => "not well-formed (invalid token)"
  | .unclosedToken => "unclosed token"
  | .mismatchedTag => "mismatched tag"
  | .noElement => "no element found"
  | .junkAfterElement => "junk after document element"
  | .undefinedEntity => "undefined entity"
  | .badCharacterReference => "reference to invalid character number"
  | .duplicateAttribute => "duplicate attribute"
  | .misplacedDeclaration => "XML or text declaration not at start of entity"
  | .unclosedSection => "unclosed CDATA section"
  | .unboundPrefix => "unbound prefix"
  | .undeclaredPrefix => "must not undeclare prefix"
  | .reservedXml =>
    "reserved prefix (xml) must not be undeclared or bound to another namespace name"
  | .reservedXmlns => "reserved prefix (xmlns) must not be declared or undeclared"
  | .reservedSpace => "prefix must not be bound to one of the reserved namespace names"
  | .badSpace => "syntax error"

structure ReadError where
  fault : Fault
  left : Nat
deriving DecidableEq, Repr

/-- The fault and its place: the line from one and the column from zero. -/
def ReadError.message (text : List Char) (e : ReadError) : String :=
  let passed := Text.unifyNewlines (Text.before text e.left)
  e.fault.message ++ ": line " ++ toString (Text.lineFeeds passed + 1) ++ ", column " ++
    toString (Text.lastLineLength passed)

/-- A token that stops in the middle is reported where it stops, one that the text ends in where
it starts. -/
def Stop.error (start : Nat) : Stop → ReadError
  | .invalid left => ⟨.invalidToken, left⟩
  | .ended => ⟨.unclosedToken, start⟩

/-! ## References -/

/-- The character of a reference; `start` tells where the reference is reported if it names an
unknown entity, and `own` where it stands. -/
def Reference.resolve (start own : Nat) : Reference → Except ReadError Char
  | .entity name =>
    match entities.lookup name with
    | some c => .ok c
    | none => .error ⟨.undefinedEntity, start⟩
  | .character n =>
    if h : n.isValidChar then
      let c := Char.ofNatAux n h
      if isMarkupChar c then .ok c else .error ⟨.badCharacterReference, own⟩
    else .error ⟨.badCharacterReference, own⟩

/-! ## Prefixes and spaces -/

/-- The spaces that prefixes stand for, the innermost first; the empty prefix is the default. -/
abbrev Scope := List (String × String)

def xmlSpace : String := "http://www.w3.org/XML/1998/namespace"

def xmlnsSpace : String := "http://www.w3.org/2000/xmlns/"

def Scope.initial : Scope := [("xml", xmlSpace)]

/-- The space of a prefix, which must be bound. -/
def Scope.space (scope : Scope) (start : Nat) (pre : String) : Except ReadError String :=
  match scope.lookup pre with
  | some space => .ok space
  | none => .error ⟨.unboundPrefix, start⟩

/-- Why a prefix may not stand for a space. -/
def bindFault? (pre space : String) : Option Fault :=
  if space.isEmpty && !pre.isEmpty then some .undeclaredPrefix
  else if pre = "xmlns" then some .reservedXmlns
  else if space.toList.contains '}' then some .badSpace
  else if pre = "xml" then if space = xmlSpace then none else some .reservedXml
  else if space = xmlSpace || space = xmlnsSpace then some .reservedSpace
  else none

/-- The prefix that an attribute binds, if it binds one. -/
def QName.binds? (q : QName) : Option String :=
  match q.pre with
  | none => if q.base = "xmlns" then some "" else none
  | some p => if p = "xmlns" then some q.base else none

/-! ## Tags -/

/-- The value of an attribute in a tag that starts at `start`. -/
def attributeText (start : Nat) : List Piece → Except ReadError (List Char)
  | [] => .ok []
  | .char c :: rest => (attributeText start rest).map (c :: ·)
  | .reference ref left :: rest =>
    match ref.resolve start left with
    | .error e => .error e
    | .ok c => (attributeText start rest).map (c :: ·)

/-- Reads the values of attributes in order and binds the prefixes among them. -/
def readAttributes (start : Nat) (scope : Scope) (seen : List QName) :
    List RawAttribute → Except ReadError (Scope × List (QName × String))
  | [] => .ok (scope, [])
  | a :: rest =>
    if seen.contains a.name then .error ⟨.duplicateAttribute, a.left⟩
    else
      match attributeText start a.value with
      | .error e => .error e
      | .ok cs =>
        match a.name.binds? with
        | some pre =>
          match bindFault? pre (String.ofList cs) with
          | some fault => .error ⟨fault, start⟩
          | none =>
            readAttributes start ((pre, String.ofList cs) :: scope) (a.name :: seen) rest
        | none =>
          (readAttributes start scope (a.name :: seen) rest).map fun r =>
            (r.1, (a.name, String.ofList cs) :: r.2)

/-- Names of attributes; one without a prefix is in no space. -/
def nameAttributes (start : Nat) (scope : Scope) (seen : List Name) :
    List (QName × String) → Except ReadError (List (Name × String))
  | [] => .ok []
  | (q, value) :: rest =>
    match q.pre with
    | none => (nameAttributes start scope seen rest).map ((Name.plain q.base, value) :: ·)
    | some pre =>
      match scope.space start pre with
      | .error e => .error e
      | .ok space =>
        if seen.contains ⟨space, q.base⟩ then .error ⟨.duplicateAttribute, start⟩
        else
          (nameAttributes start scope (⟨space, q.base⟩ :: seen) rest).map
            ((⟨space, q.base⟩, value) :: ·)

/-- The name of an element; one without a prefix is in the default space. -/
def elementName (start : Nat) (scope : Scope) (q : QName) : Except ReadError Name :=
  match q.pre with
  | none => .ok ⟨(scope.lookup "").getD "", q.base⟩
  | some pre => (scope.space start pre).map (⟨·, q.base⟩)

/-! ## Elements -/

/-- An open element; its content is kept with the latest first. -/
structure Frame where
  written : String
  name : Name
  attributes : List (Name × String)
  scope : Scope
  content : List Markup

namespace Frame

def add (frame : Frame) (m : Markup) : Frame := { frame with content := m :: frame.content }

def addChars (frame : Frame) (cs : List Char) : Frame :=
  { frame with content := (cs.map Markup.char).reverse ++ frame.content }

def close (frame : Frame) : Markup :=
  .element frame.name frame.attributes frame.content.reverse

/-- The frame of an element inside this one, whose tag starts at `start`. -/
def inside (frame : Frame) (start : Nat) (q : QName) (raw : List RawAttribute) :
    Except ReadError Frame := do
  let (scope, values) ← readAttributes start frame.scope [] raw
  let attributes ← nameAttributes start scope [] values
  let name ← elementName start scope q
  return { written := q.written, name, attributes, scope, content := [] }

end Frame

/-- The text of a character section, up to its end. -/
def characterSection : List Char → Except ReadError (List Char × List Char)
  | [] => .error ⟨.unclosedSection, 0⟩
  | ']' :: ']' :: '>' :: rest => .ok ([], rest)
  | '\r' :: '\n' :: rest => (characterSection rest).map fun r => ('\n' :: r.1, r.2)
  | c :: rest =>
    if isMarkupChar c then
      (characterSection rest).map fun r => ((if c = '\r' then '\n' else c) :: r.1, r.2)
    else .error ⟨.invalidToken, rest.length + 1⟩

/-! ## After the outermost element -/

/-- The fault of something that stands from `start` on and reads up to `rest`, where one of the
characters `ends` or white space must follow. -/
def junkBefore (start : Nat) (ends : List Char) (rest : List Char) : ReadError :=
  match rest with
  | [] => ⟨.junkAfterElement, start⟩
  | c :: _ =>
    if isSpace c || ends.contains c then ⟨.junkAfterElement, start⟩
    else ⟨.invalidToken, rest.length⟩

/-- The fault of a quoted text. -/
def junkQuoted (start : Nat) (quote : Char) : List Char → ReadError
  | [] => ⟨.unclosedToken, start⟩
  | c :: rest =>
    if c = quote then junkBefore start ['>', '%', '['] rest
    else if isMarkupChar c then junkQuoted start quote rest
    else ⟨.invalidToken, rest.length + 1⟩

/-- The fault of a name after a sign, where one of the characters `ends` must follow. -/
def junkName (start : Nat) (ends : List Char) (cs : List Char) : ReadError :=
  match simpleName cs with
  | .error e => e.error start
  | .ok (_, rest) => junkBefore start ends rest

/-- The fault of a declaration after its exclamation mark. -/
def junkDeclaration (start : Nat) (cs : List Char) : ReadError :=
  if cs.head? == some '[' then ⟨.junkAfterElement, start⟩
  else if (cs.takeWhile Char.isAlpha).isEmpty then (Stop.invalid cs.length).error start
  else junkBefore start ['%'] (cs.dropWhile Char.isAlpha)

/-- The fault of a text that may not stand after the outermost element. -/
def junk (c : Char) (rest : List Char) : ReadError :=
  let start := rest.length + 1
  let separators := ['>', ')', ',', '|', '[', '%']
  if c = '"' || c = '\'' then junkQuoted start c rest
  else if c = '%' then
    if rest.head?.any fun d => isSpace d || d == '%' then ⟨.junkAfterElement, start⟩
    else
      match simpleName rest with
      | .error e => e.error start
      | .ok (_, rest) =>
        if rest.head? == some ';' then ⟨.junkAfterElement, start⟩ else ⟨.invalidToken, rest.length⟩
  else if c = '#' then junkName start [')', '>', '%', '|'] rest
  else if c = ')' then junkBefore start ['*', '?', '+', '>', ',', '|', ')'] rest
  else if [',', '[', ']', '|', '(', '>'].contains c then ⟨.junkAfterElement, start⟩
  else if isNameChar c || c == ':' then
    junkBefore start (if isNameStart c then '+' :: '*' :: '?' :: separators else separators)
      (rest.dropWhile fun d => isNameChar d || d == ':')
  else ⟨.invalidToken, start⟩

/-- What may follow the outermost element: white space, comments and instructions. -/
def readEpilog : Nat → List Char → Except ReadError Unit
  | 0, _ => .ok ()
  | fuel + 1, cs =>
    match skipSpace cs with
    | [] => .ok ()
    | '<' :: '!' :: rest =>
      if rest.head? == some '-' then
        match comment (rest.drop 1) with
        | .error e => .error (e.error (rest.length + 2))
        | .ok (_, rest) => readEpilog fuel rest
      else .error (junkDeclaration (rest.length + 2) rest)
    | '<' :: '?' :: rest =>
      match instruction rest with
      | .error e => .error (e.error (rest.length + 2))
      | .ok (.skipped, rest) => readEpilog fuel rest
      | .ok _ => .error ⟨.junkAfterElement, rest.length + 2⟩
    | '<' :: rest =>
      match rest with
      | [] => .error ⟨.unclosedToken, 1⟩
      | c :: _ =>
        if isNameStart c || 0x80 ≤ c.toNat then .error ⟨.junkAfterElement, rest.length + 1⟩
        else .error ⟨.invalidToken, rest.length⟩
    | c :: rest => .error (junk c rest)

/-! ## Content -/

/-- Reads the content of the open element `frame` inside the open elements `outer`. -/
def readContent : Nat → Frame → List Frame → List Char → Except ReadError Markup
  | 0, _, _, _ => .error ⟨.noElement, 0⟩
  | _, _, _, [] => .error ⟨.noElement, 0⟩
  | fuel + 1, frame, outer, c :: rest =>
    if c = '<' then
      match token rest with
      | .error e => .error (e.error (rest.length + 1))
      | .ok (.skipped, rest) => readContent fuel frame outer rest
      | .ok (.declaration, _) => .error ⟨.misplacedDeclaration, rest.length + 1⟩
      | .ok (.characterSection, rest) =>
        match characterSection rest with
        | .error e => .error e
        | .ok (cs, rest) => readContent fuel (frame.addChars cs) outer rest
      | .ok (.opening q raw empty, after) =>
        match frame.inside (rest.length + 1) q raw with
        | .error e => .error e
        | .ok inner =>
          if empty then readContent fuel (frame.add inner.close) outer after
          else readContent fuel inner (frame :: outer) after
      | .ok (.closing written, after) =>
        if written = frame.written then
          match outer with
          | [] => (readEpilog (after.length + 1) after).map fun _ => frame.close
          | parent :: outer => readContent fuel (parent.add frame.close) outer after
        else .error ⟨.mismatchedTag, rest.length - 1⟩
    else if c = '&' then
      match reference rest with
      | .error e => .error (e.error (rest.length + 1))
      | .ok (ref, after) =>
        match ref.resolve (rest.length + 1) (rest.length + 1) with
        | .error e => .error e
        | .ok c => readContent fuel (frame.addChars [c]) outer after
    else if c = '\r' then
      readContent fuel (frame.addChars ['\n']) outer
        (if rest.head? == some '\n' then rest.drop 1 else rest)
    else if c = ']' && rest.take 2 == [']', '>'] then .error ⟨.invalidToken, rest.length - 1⟩
    else if isMarkupChar c then readContent fuel (frame.addChars [c]) outer rest
    else .error ⟨.invalidToken, rest.length + 1⟩

def startTag (wrapper : String) : List Char := '<' :: (wrapper.toList ++ ['>'])

def endTag (wrapper : String) : List Char := '<' :: '/' :: (wrapper.toList ++ ['>'])

/-- A text as the content of one element with a plain name. -/
def wrapped (wrapper : String) (cs : List Char) : List Char :=
  startTag wrapper ++ cs ++ endTag wrapper

/-- Reads a text as the content of one element with a plain name. -/
def readWrapped (wrapper : String) (cs : List Char) : Except ReadError Markup :=
  let text := cs ++ endTag wrapper
  readContent (text.length + 1)
    { written := wrapper
      name := .plain wrapper
      attributes := []
      scope := .initial
      content := [] }
    [] text

end FlowBoard.Markup
