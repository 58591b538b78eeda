import FlowBoard.Markup.NameTable
import FlowBoard.Text.Hex

/-!
# Tokens of markup

A scanner reads one token from the characters that remain. It stops at a character that cannot
stand at its place, which is told by the number of characters left from there on, or it finds that
the text ends inside the token.
-/

namespace FlowBoard.Markup

/-- Why no token could be read. -/
inductive Stop
  | invalid (left : Nat)
  | ended
deriving DecidableEq, Repr

/-- What was read, and the characters that remain. -/
abbrev Scan (α : Type) := Except Stop (α × List Char)

def stopAt (cs : List Char) : Except Stop α :=
  .error (if cs.isEmpty then .ended else .invalid cs.length)

def isSpace (c : Char) : Bool := c == ' ' || c == '\t' || c == '\n' || c == '\r'

def skipSpace (cs : List Char) : List Char := cs.dropWhile isSpace

/-- The characters that may stand in markup at all. -/
def isMarkupChar (c : Char) : Bool :=
  (0x20 ≤ c.toNat || c == '\t' || c == '\n' || c == '\r') && c.toNat != 0xFFFE && c.toNat != 0xFFFF

/-- Takes one given character. -/
def expect (c : Char) : List Char → Except Stop (List Char)
  | d :: rest => if d = c then .ok rest else stopAt (d :: rest)
  | [] => .error .ended

/-! ## Names -/

/-- A name with an optional prefix, as it is written. -/
structure QName where
  pre : Option String
  base : String
deriving DecidableEq, Repr

def QName.written (q : QName) : String :=
  match q.pre with
  | some p => p ++ ":" ++ q.base
  | none => q.base

/-- A name without a colon. -/
def simpleName : List Char → Scan String
  | c :: rest =>
    if isNameStart c then
      .ok (String.ofList (c :: rest.takeWhile isNameChar), rest.dropWhile isNameChar)
    else stopAt (c :: rest)
  | [] => .error .ended

def qualifiedName (cs : List Char) : Scan QName :=
  match simpleName cs with
  | .error e => .error e
  | .ok (first, ':' :: rest) =>
    match simpleName rest with
    | .error e => .error e
    | .ok (base, rest) => .ok (⟨some first, base⟩, rest)
  | .ok (base, rest) => .ok (⟨none, base⟩, rest)

/-! ## References -/

/-- What stands between an ampersand and a semicolon: an entity's name or a character's number. -/
inductive Reference
  | entity (name : String)
  | character (number : Nat)
deriving DecidableEq, Repr

def characterReference (value? : Char → Option Nat) (base : Nat) (cs : List Char) :
    Scan Reference :=
  let ds := cs.takeWhile fun c => (value? c).isSome
  let rest := cs.dropWhile fun c => (value? c).isSome
  if ds.isEmpty then stopAt cs
  else
    match expect ';' rest with
    | .error e => .error e
    | .ok rest =>
      .ok (.character (ds.foldl (fun n c => base * n + (value? c).getD 0) 0), rest)

def asciiDigit? (c : Char) : Option Nat := if c.isDigit then some (c.toNat - 0x30) else none

/-- A reference after its ampersand. -/
def reference : List Char → Scan Reference
  | '#' :: 'x' :: rest => characterReference Text.hexValue? 16 rest
  | '#' :: rest => characterReference asciiDigit? 10 rest
  | cs =>
    match simpleName cs with
    | .error e => .error e
    | .ok (name, rest) =>
      match expect ';' rest with
      | .error e => .error e
      | .ok rest => .ok (.entity name, rest)

def entities : List (String × Char) :=
  [("lt", '<'), ("gt", '>'), ("amp", '&'), ("quot", '"'), ("apos", '\'')]

/-! ## Attributes -/

/-- A piece of an attribute's value; a reference keeps the number of characters left at it. -/
inductive Piece
  | char (c : Char)
  | reference (ref : Reference) (left : Nat)
deriving DecidableEq, Repr

/-- An attribute as it is written, with the number of characters left at its name. -/
structure RawAttribute where
  name : QName
  value : List Piece
  left : Nat
deriving DecidableEq, Repr

/-- A value up to its closing quote; line ends and tabs are spaces in it. -/
def attributeValue (quote : Char) : Nat → List Char → Scan (List Piece)
  | 0, _ => .error .ended
  | _, [] => .error .ended
  | fuel + 1, c :: rest =>
    let more (piece : Piece) (rest : List Char) : Scan (List Piece) :=
      (attributeValue quote fuel rest).map fun r => (piece :: r.1, r.2)
    if c = quote then .ok ([], rest)
    else if c = '<' || !isMarkupChar c then stopAt (c :: rest)
    else if c = '&' then
      match reference rest with
      | .error e => .error e
      | .ok (ref, after) => more (.reference ref (c :: rest).length) after
    else if c = '\r' && rest.head? == some '\n' then more (.char ' ') (rest.drop 1)
    else if isSpace c then more (.char ' ') rest
    else more (.char c) rest

/-- A name, an equals sign and a quoted value. -/
def rawAttribute (cs : List Char) : Scan RawAttribute :=
  match qualifiedName cs with
  | .error e => .error e
  | .ok (name, rest) =>
    match expect '=' (skipSpace rest) with
    | .error e => .error e
    | .ok rest =>
      match skipSpace rest with
      | [] => .error .ended
      | q :: rest =>
        if q = '"' || q = '\'' then
          (attributeValue q (rest.length + 1) rest).map fun r => (⟨name, r.1, cs.length⟩, r.2)
        else stopAt (q :: rest)

/-- What follows an element's name up to the end of its tag: attributes, and whether the element
is empty. -/
def tagRest : Nat → List Char → Scan (List RawAttribute × Bool)
  | 0, _ => .error .ended
  | _, [] => .error .ended
  | fuel + 1, c :: rest =>
    if c = '>' then .ok (([], false), rest)
    else if c = '/' then (expect '>' rest).map fun rest => (([], true), rest)
    else if isSpace c then
      let next := skipSpace rest
      match next.head? with
      | none => .error .ended
      | some d =>
        if d = '>' || d = '/' then tagRest fuel next
        else
          match rawAttribute next with
          | .error e => .error e
          | .ok (a, rest) => (tagRest fuel rest).map fun r => ((a :: r.1.1, r.1.2), r.2)
    else stopAt (c :: rest)

/-! ## Tokens -/

inductive Token
  | opening (name : QName) (attributes : List RawAttribute) (empty : Bool)
  | closing (written : String)
  | skipped
  | declaration
  | characterSection
deriving DecidableEq, Repr

/-- A comment after its first hyphen and before its second. -/
def comment (cs : List Char) : Scan Token :=
  match expect '-' cs with
  | .error e => .error e
  | .ok rest => body rest
where
  body : List Char → Scan Token
    | [] => .error .ended
    | ['-'] => .error .ended
    | ['-', '-'] => .error .ended
    | '-' :: '-' :: c :: rest =>
      if c = '>' then .ok (.skipped, rest) else stopAt (c :: rest)
    | c :: rest => if isMarkupChar c then body rest else stopAt (c :: rest)

/-- The body of a processing instruction, up to its end. -/
def instructionBody : List Char → Except Stop (List Char)
  | [] => .error .ended
  | ['?'] => .error .ended
  | '?' :: '>' :: rest => .ok rest
  | c :: rest => if isMarkupChar c then instructionBody rest else stopAt (c :: rest)

/-- The target `xml` is kept for declarations, in lower case only. -/
def isReserved (target : String) : Bool :=
  target.length == 3 && target.map Char.toLower == "xml" && target != "xml"

def instructionToken (target : String) : Token :=
  if target = "xml" then .declaration else .skipped

/-- A processing instruction after its question mark. -/
def instruction (cs : List Char) : Scan Token :=
  match simpleName cs with
  | .error e => .error e
  | .ok (_, []) => .error .ended
  | .ok (target, c :: rest) =>
    if isSpace c then
      if isReserved target then stopAt (c :: rest)
      else (instructionBody rest).map fun rest => (instructionToken target, rest)
    else if c = '?' && !isReserved target then
      (expect '>' rest).map fun rest => (instructionToken target, rest)
    else stopAt (c :: rest)

/-- The tag that ends an element, after its slash. -/
def closingTag : List Char → Scan Token
  | [] => .error .ended
  | c :: rest =>
    if isNameStart c then
      let inName (c : Char) : Bool := isNameChar c || c == ':'
      let name := c :: rest.takeWhile inName
      let after := rest.dropWhile inName
      (expect '>' (skipSpace after)).map fun rest => (.closing (String.ofList name), rest)
    else stopAt (c :: rest)

/-- Takes the characters of a word one after the other. -/
def expectWord : List Char → List Char → Except Stop (List Char)
  | [], cs => .ok cs
  | w :: word, cs =>
    match expect w cs with
    | .error e => .error e
    | .ok rest => expectWord word rest

/-- The token after an opening angle bracket. -/
def token : List Char → Scan Token
  | '!' :: '-' :: rest => comment rest
  | '!' :: '[' :: rest =>
    (expectWord "CDATA[".toList rest).map fun rest => (.characterSection, rest)
  | '!' :: rest => stopAt rest
  | '?' :: rest => instruction rest
  | '/' :: rest => closingTag rest
  | cs =>
    match qualifiedName cs with
    | .error e => .error e
    | .ok (name, rest) =>
      (tagRest (rest.length + 1) rest).map fun r => (.opening name r.1.1 r.1.2, r.2)

end FlowBoard.Markup
