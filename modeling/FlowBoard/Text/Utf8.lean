/-!
# UTF-8

Characters are coded in one to four octets. Decoding splits octets into pieces: characters, and
runs of octets that code none. A run starts at an octet that starts no character, or holds the
longest part of a character that is broken off. Strict decoding reports the first run; lenient
decoding puts a replacement character for each.
-/

namespace FlowBoard.Text

abbrev Octets := List UInt8

def octet (n : Nat) : UInt8 := UInt8.ofNat n

def encodeChar (c : Char) : Octets :=
  let n := c.toNat
  if n < 0x80 then [octet n]
  else if n < 0x800 then [octet (0xC0 + n / 0x40), octet (0x80 + n % 0x40)]
  else if n < 0x10000 then
    [octet (0xE0 + n / 0x1000), octet (0x80 + n / 0x40 % 0x40), octet (0x80 + n % 0x40)]
  else
    [octet (0xF0 + n / 0x40000), octet (0x80 + n / 0x1000 % 0x40), octet (0x80 + n / 0x40 % 0x40),
      octet (0x80 + n % 0x40)]

def encode (s : String) : Octets := s.toList.flatMap encodeChar

/-- Number of octets that code a text. -/
def byteLength (s : String) : Nat := (encode s).length

inductive Utf8Reason
  | badStart
  | badContinuation
  | ended
deriving DecidableEq, Repr

def Utf8Reason.message : Utf8Reason → String
  | .badStart => "invalid start byte"
  | .badContinuation => "invalid continuation byte"
  | .ended => "unexpected end of data"

/-- A character, or a run of octets that code none, and how many octets were taken. -/
inductive Utf8Piece
  | char (c : Char)
  | bad (reason : Utf8Reason)
deriving DecidableEq, Repr

/-- What a first octet says: the bits that it gives, how many octets follow, and the range of the
next. -/
def lead? (b : Nat) : Option (Nat × Nat × Nat × Nat) :=
  if 0xC2 ≤ b && b ≤ 0xDF then some (b - 0xC0, 1, 0x80, 0xBF)
  else if b = 0xE0 then some (0, 2, 0xA0, 0xBF)
  else if b = 0xED then some (0xD, 2, 0x80, 0x9F)
  else if 0xE1 ≤ b && b ≤ 0xEF then some (b - 0xE0, 2, 0x80, 0xBF)
  else if b = 0xF0 then some (0, 3, 0x90, 0xBF)
  else if 0xF1 ≤ b && b ≤ 0xF3 then some (b - 0xF0, 3, 0x80, 0xBF)
  else if b = 0xF4 then some (4, 3, 0x80, 0x8F)
  else none

/-- Reads the octets that follow the first, of which `taken` octets were read so far. -/
def continuation (value low high taken : Nat) : Nat → Octets → Utf8Piece × Nat
  | 0, _ => (.char (Char.ofNat value), taken)
  | _ + 1, [] => (.bad .ended, taken)
  | count + 1, b :: rest =>
    if low ≤ b.toNat && b.toNat ≤ high then
      continuation (value * 0x40 + (b.toNat - 0x80)) 0x80 0xBF (taken + 1) count rest
    else (.bad .badContinuation, taken)

/-- The piece that starts with an octet, and the number of its octets. -/
def firstPiece (b : UInt8) (rest : Octets) : Utf8Piece × Nat :=
  if b.toNat < 0x80 then (.char (Char.ofNat b.toNat), 1)
  else
    match lead? b.toNat with
    | none => (.bad .badStart, 1)
    | some (value, count, low, high) => continuation value low high 1 count rest

/-- The pieces of octets with the position of each and the octets that it takes. -/
def pieces (position : Nat) : Nat → Octets → List (Utf8Piece × Nat × Octets)
  | 0, _ => []
  | _, [] => []
  | fuel + 1, b :: rest =>
    let (piece, taken) := firstPiece b rest
    (piece, position, (b :: rest).take taken) ::
      pieces (position + taken) fuel ((b :: rest).drop taken)

def decodePieces (bs : Octets) : List (Utf8Piece × Nat × Octets) := pieces 0 bs.length bs

/-- The first run of octets that code no character. -/
structure Utf8Error where
  position : Nat
  octets : Octets
  reason : Utf8Reason
deriving DecidableEq, Repr

/-- The characters of pieces up to the first that is none. -/
def piecesText : List (Utf8Piece × Nat × Octets) → Except Utf8Error (List Char)
  | [] => .ok []
  | (.char c, _) :: rest => (piecesText rest).map (c :: ·)
  | (.bad reason, position, octets) :: _ => .error ⟨position, octets, reason⟩

def decode (bs : Octets) : Except Utf8Error String :=
  (piecesText (decodePieces bs)).map String.ofList

def replacement : Char := Char.ofNat 0xFFFD

/-- Decodes with a replacement character for every run that codes none. -/
def decodeLenient (bs : Octets) : String :=
  String.ofList ((decodePieces bs).map fun piece =>
    match piece.1 with
    | .char c => c
    | .bad _ => replacement)

end FlowBoard.Text
