import FlowBoard.Contents
import FlowBoard.Http.Address
import FlowBoard.Json.Basic
import FlowBoard.Text.Blank
import FlowBoard.Text.Quoted
import FlowBoard.Text.StandIns

/-!
# Requests and replies

A request has a method, an address, headers and perhaps a JSON body. It is answered by a status,
headers and contents, or the exchange fails. The text of a reply follows the character set that its
type names, and is UTF-8 with replacement characters otherwise. Some names are those of codecs that
cannot put in replacement characters, and refuse every text. What a codec makes of the contents that
is known to the system but not described here is given with the reply.
-/

namespace FlowBoard.Http

structure Request where
  method : String
  url : String
  headers : List (String × String)
  body : Option Json := none

structure Response where
  status : Int
  headers : List (String × String) := []
  body : Contents := .text ""

/-- An exception of a codec, by name. -/
structure CodecFault where
  name : String
  message : String
deriving DecidableEq, Repr

def CodecFault.failure (fault : CodecFault) : Failure := ⟨.foreign fault.name, fault.message⟩

/-- What a codec that is not described makes of contents. -/
abbrev Decoded := Except CodecFault String

inductive Reply
  | answered (response : Response) (foreign : Option Decoded := none)
  | failed (fault : ClientFault) (message : String)

/-! ## Headers -/

def isForeign (c : Char) : Bool := 0x80 ≤ c.toNat

/-- Header values are ASCII. -/
def checkHeader (value : String) : Except Failure Unit :=
  match Text.firstRun? isForeign value.toList with
  | none => .ok ()
  | some (start, run) =>
    .error (Text.unencodable "ascii" "ordinal not in range(128)" Text.numberEscape start run)

def checkHeaders : List (String × String) → Except Failure Unit
  | [] => .ok ()
  | (_, value) :: rest => do
    checkHeader value
    checkHeaders rest

/-- A request can be sent to its address with its headers. -/
def Request.check (r : Request) : Except Failure Unit := do
  let _ ← (Address.ofChars r.url.toList).mapError AddressFault.failure
  checkHeaders r.headers

/-- The address that a request is sent to. -/
def Request.target (r : Request) : String := (Address.normal r.url).toOption.getD r.url

def lowerAscii (s : String) : String := s.map Char.toLower

namespace Response

/-- The values of a header, whose name may be in letters of either case. -/
def header? (r : Response) (name : String) : Option String :=
  match r.headers.filter fun h => lowerAscii h.1 == lowerAscii name with
  | [] => none
  | found => some (String.intercalate ", " (found.map (·.2)))

def isSuccess (r : Response) : Bool := 200 ≤ r.status && r.status ≤ 299

end Response

/-! ## Character sets -/

inductive Charset
  | utf8
  | latin1
  | ascii
  | windows1252
  | utf16
  | utf16le
  | utf16be
  | octets
  | rotated
  | domain
  | undefined
deriving DecidableEq, Repr

/-- The names of a character set, in lower case and with underscores between words. -/
def Charset.names : Charset → List String
  | .utf8 => ["utf_8", "utf8", "u8", "utf", "cp65001"]
  | .latin1 =>
    ["iso_8859_1", "iso8859_1", "iso8859", "latin_1", "latin1", "latin", "l1", "8859", "cp819",
      "ibm819", "csisolatin1", "iso_8859_1_1987", "iso_ir_100"]
  | .ascii =>
    ["us_ascii", "ascii", "us", "646", "ansi_x3.4_1968", "ansi_x3.4_1986", "cp367", "ibm367",
      "csascii", "iso646_us", "iso_646.irv_1991", "iso_ir_6"]
  | .windows1252 => ["windows_1252", "cp1252", "1252"]
  | .utf16 => ["utf_16", "utf16", "u16"]
  | .utf16le => ["utf_16le", "utf_16_le", "unicodelittleunmarked"]
  | .utf16be => ["utf_16be", "utf_16_be", "unicodebigunmarked"]
  | .octets =>
    ["hex", "hex_codec", "base64", "base_64", "base64_codec", "bz2", "bz2_codec", "quopri",
      "quoted_printable", "quotedprintable", "quopri_codec", "uu", "uu_codec", "zip", "zlib",
      "zlib_codec"]
  | .rotated => ["rot13", "rot_13"]
  | .domain => ["idna"]
  | .undefined => ["undefined"]

def Charset.all : List Charset :=
  [.utf8, .latin1, .ascii, .windows1252, .utf16, .utf16le, .utf16be, .octets, .rotated, .domain,
    .undefined]

/-- A name in lower case with one underscore for what stands between its words. -/
def charsetWords (name : String) : String :=
  String.intercalate "_" ((words [] name.toList).map String.ofList)
where
  words (word : List Char) : List Char → List (List Char)
    | [] => if word.isEmpty then [] else [word]
    | c :: rest =>
      if c.isAlphanum || c == '.' then words (word ++ [c.toLower]) rest
      else if word.isEmpty then words [] rest
      else word :: words [] rest

def Charset.ofName? (name : String) : Option Charset :=
  Charset.all.find? (·.names.contains (charsetWords name))

/-- The parameters of a media type, as trimmed texts around equals signs. -/
def parameters (mediaType : List Char) : List (List Char × List Char) :=
  (Text.splitOn ';' mediaType).map fun p =>
    let (name, value) := Text.cut '=' p
    (Text.trimChars name, Text.trimChars (value.getD []))

/-- The character set that a media type names, where it names one that is known. -/
def charset (mediaType : String) : Charset :=
  match (parameters mediaType.toList).find? fun p =>
      lowerAscii (String.ofList p.1) == "charset" with
  | none => .utf8
  | some (_, value) =>
    (Charset.ofName? (String.ofList (value.filter (· != '"')))).getD .utf8

/-- The characters of 80 to 9F, or none where nothing is assigned. -/
def windowsHigh : List Nat :=
  [0x20AC, 0, 0x201A, 0x192, 0x201E, 0x2026, 0x2020, 0x2021, 0x2C6, 0x2030, 0x160, 0x2039, 0x152,
    0, 0x17D, 0, 0, 0x2018, 0x2019, 0x201C, 0x201D, 0x2022, 0x2013, 0x2014, 0x2DC, 0x2122, 0x161,
    0x203A, 0x153, 0, 0x17E, 0x178]

def windowsChar (b : UInt8) : Char :=
  let n := b.toNat
  if 0x80 ≤ n && n < 0xA0 then
    match windowsHigh[n - 0x80]? with
    | some (k + 1) => Char.ofNat (k + 1)
    | _ => Text.replacement
  else Char.ofNat n

/-- Pairs of octets as numbers; an octet left over is none. -/
def units16 (bigEndian : Bool) : Text.Octets → List (Option Nat)
  | [] => []
  | [_] => [none]
  | a :: b :: rest =>
    some (if bigEndian then a.toNat * 0x100 + b.toNat else b.toNat * 0x100 + a.toNat) ::
      units16 bigEndian rest

/-- The characters of UTF-16; what is no character is replaced. -/
def decodeUnits : List (Option Nat) → List (Option Char)
  | [] => []
  | some high :: some low :: rest =>
    if 0xD800 ≤ high && high < 0xDC00 then
      if 0xDC00 ≤ low && low < 0xE000 then
        some (Char.ofNat (0x10000 + (high - 0xD800) * 0x400 + (low - 0xDC00))) :: decodeUnits rest
      else none :: decodeUnits (some low :: rest)
    else if 0xDC00 ≤ high && high < 0xE000 then none :: decodeUnits (some low :: rest)
    else some (Char.ofNat high) :: decodeUnits (some low :: rest)
  | some n :: rest =>
    (if 0xD800 ≤ n && n < 0xE000 then none else some (Char.ofNat n)) :: decodeUnits rest
  | none :: rest => none :: decodeUnits rest

/-- UTF-16 with an optional mark of the order of octets. -/
def decode16 : Text.Octets → List (Option Char)
  | 0xFE :: 0xFF :: rest => decodeUnits (units16 true rest)
  | 0xFF :: 0xFE :: rest => decodeUnits (units16 false rest)
  | bs => decodeUnits (units16 false bs)

/-- The text of units, with replacement characters. -/
def unitText (units : List (Option Nat)) : String :=
  String.ofList ((decodeUnits units).map (·.getD Text.replacement))

def Charset.decode : Charset → Text.Octets → Except Failure String
  | .utf8, bs => .ok (Text.decodeLenient bs)
  | .latin1, bs => .ok (String.ofList (bs.map fun b => Char.ofNat b.toNat))
  | .ascii, bs => .ok <| String.ofList <|
    bs.map fun b => if b.toNat < 0x80 then Char.ofNat b.toNat else Text.replacement
  | .windows1252, bs => .ok (String.ofList (bs.map windowsChar))
  | .utf16, bs => .ok (String.ofList ((decode16 bs).map (·.getD Text.replacement)))
  | .utf16le, bs => .ok (unitText (units16 false bs))
  | .utf16be, bs => .ok (unitText (units16 true bs))
  | .octets, _ => .error (CodecFault.failure ⟨"AssertionError", ""⟩)
  | .rotated, _ => .error ⟨.wrongType,
      "descriptor 'translate' for 'str' objects doesn't apply to a 'bytes' object"⟩
  | .domain, _ =>
    .error (CodecFault.failure ⟨"UnicodeError", "Unsupported error handling replace"⟩)
  | .undefined, _ => .error (CodecFault.failure ⟨"UnicodeError", "undefined encoding"⟩)

namespace Response

/-- The text of a reply, where `foreign` is what a codec that is not described makes of it. -/
def text (r : Response) (foreign : Option Decoded := none) : Except Failure String :=
  if r.body.isEmpty then .ok ""
  else
    match foreign with
    | some result => result.mapError CodecFault.failure
    | none =>
      match charset ((r.header? "Content-Type").getD ""), r.body with
      | .utf8, .text s => .ok s
      | set, body => set.decode body.octets

end Response

/-! ## JSON in octets

The text of a JSON document is given by the numbers of its characters, where half of a surrogate
pair may stand by itself. -/

/-- Quadruples of octets as numbers; octets left over are none. -/
def units32 (bigEndian : Bool) : Text.Octets → List (Option Nat)
  | a :: b :: c :: d :: rest =>
    let n := if bigEndian then ((a.toNat * 256 + b.toNat) * 256 + c.toNat) * 256 + d.toNat
      else ((d.toNat * 256 + c.toNat) * 256 + b.toNat) * 256 + a.toNat
    (if n < 0x110000 then some n else none) :: units32 bigEndian rest
  | [] => []
  | _ => [none]

/-- Puts the halves of pairs together where they follow each other. -/
def joinUnits : List Nat → List Nat
  | high :: low :: rest =>
    if Text.isHighSurrogate high && Text.isLowSurrogate low then
      (0x10000 + (high - 0xD800) * 0x400 + (low - 0xDC00)) :: joinUnits rest
    else high :: joinUnits (low :: rest)
  | units => units

/-- The characters of UTF-8; the octets that would code half of a pair are taken for it. -/
def units8 : List (Text.Utf8Piece × Nat × Text.Octets) → Option (List Nat)
  | [] => some []
  | (.char c, _) :: rest => (units8 rest).map (c.toNat :: ·)
  | (.bad _, _, [0xED]) :: (.bad _, _, [b]) :: (.bad _, _, [c]) :: rest =>
    if 0xA0 ≤ b.toNat && b.toNat ≤ 0xBF && 0x80 ≤ c.toNat && c.toNat ≤ 0xBF then
      (units8 rest).map ((0xD000 + (b.toNat - 0x80) * 0x40 + (c.toNat - 0x80)) :: ·)
    else none
  | (.bad _, _) :: _ => none

/-- The text of a JSON document, whose coding shows in its first octets. -/
def jsonUnits? (body : Contents) : Option (List Nat) :=
  match body with
  | .text s =>
    match s.toList with
    | c :: rest => some ((if c.toNat = 0xFEFF then rest else c :: rest).map Char.toNat)
    | [] => some []
  | .raw bs =>
    let wide (bigEndian : Bool) (bs : Text.Octets) := (units32 bigEndian bs).mapM id
    let paired (bigEndian : Bool) (bs : Text.Octets) :=
      ((units16 bigEndian bs).mapM id).map joinUnits
    match bs with
    | 0 :: 0 :: 0xFE :: 0xFF :: rest => wide true rest
    | 0xFF :: 0xFE :: 0 :: 0 :: rest => wide false rest
    | 0xFE :: 0xFF :: rest => paired true rest
    | 0xFF :: 0xFE :: rest => paired false rest
    | 0xEF :: 0xBB :: 0xBF :: rest => units8 (Text.decodePieces rest)
    | 0 :: 0 :: _ :: _ :: _ => wide true bs
    | 0 :: _ :: _ :: _ :: _ => paired true bs
    | _ :: 0 :: 0 :: 0 :: _ => wide false bs
    | _ :: 0 :: _ :: _ :: _ => paired false bs
    | [0, _] => paired true bs
    | [_, 0] => paired false bs
    | _ => units8 (Text.decodePieces bs)

end FlowBoard.Http
