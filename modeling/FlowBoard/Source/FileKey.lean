import FlowBoard.Failure
import FlowBoard.Machine.Path
import FlowBoard.Text.Blank

/-!
# File keys

A remote file is named by a key of ASCII letters and digits, alone or in an address of the board
service. A local file's key is its name.
-/

namespace FlowBoard.FileKey

def isKeyChar (c : Char) : Bool := c.isAlphanum

inductive Fault
  | missing
  | noKeyInAddress
  | badFormat
deriving DecidableEq, Repr

def Fault.message : Fault → String
  | .missing => "Missing FigJam URL or file key."
  | .noKeyInAddress => "Could not extract file key from FigJam URL."
  | .badFormat => "Invalid Figma file key format."

def Fault.failure (fault : Fault) : Failure := ⟨.source, fault.message⟩

/-- The parts of an address that a key may follow. -/
def markers : List (List Char) := ["/board/", "/file/", "/design/", "/proto/"].map String.toList

/-- A key that ends at the end of the address or before one of three delimiters. -/
def keyAt? (cs : List Char) : Option (List Char) :=
  let key := cs.takeWhile isKeyChar
  if key.isEmpty then none
  else
    match cs.dropWhile isKeyChar with
    | [] => some key
    | c :: _ => if c = '/' || c = '?' || c = '#' then some key else none

/-- The key after a marker that stands at the front. -/
def keyAfterMarker? (cs : List Char) : Option (List Char) :=
  markers.findSome? fun marker =>
    if marker.isPrefixOf cs then keyAt? (cs.drop marker.length) else none

/-- The key after the leftmost marker that one follows. -/
def keyInAddress? : List Char → Option (List Char)
  | [] => none
  | c :: rest =>
    match keyAfterMarker? (c :: rest) with
    | some key => some key
    | none => keyInAddress? rest

def serviceName : List Char := "figma.com".toList

/-- The text has another one in it. -/
def mentions (part : List Char) : List Char → Bool
  | [] => part.isEmpty
  | c :: rest => part.isPrefixOf (c :: rest) || mentions part rest

def minLength : Nat := 6

def ofChars (trimmed : List Char) : Except Fault (List Char) :=
  if trimmed.isEmpty then .error .missing
  else if mentions serviceName trimmed then
    match keyInAddress? trimmed with
    | some key => .ok key
    | none => .error .noKeyInAddress
  else if trimmed.all isKeyChar && minLength ≤ trimmed.length then .ok trimmed
  else .error .badFormat

/-- The key that an address or a bare key names. -/
def extract (value : String) : Except Fault String :=
  (ofChars (Text.trimChars value.toList)).map String.ofList

/-- The key of a local file. -/
def ofPath (path : String) : String :=
  Text.orElse (Path.ofString (Text.trim path)).name "file-input"

end FlowBoard.FileKey
