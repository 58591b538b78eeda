import FlowBoard.Failure
import FlowBoard.Text.Cut
import FlowBoard.Text.Digits
import FlowBoard.Text.Hex
import FlowBoard.Text.Quoted
import FlowBoard.Text.Utf8

/-!
# Addresses of requests

An address has a scheme, an authority, a path, a query and a fragment, of which all but the path
may be absent. Requests are sent to its normal form: scheme and host in lower case, no service
number that the scheme implies, no dot segments, and escapes for characters that may not stand in
a part. An address without scheme or host is a path from the root. Hosts in letters beyond ASCII are
escaped here, and not turned into their ASCII form.
-/

namespace FlowBoard.Http

structure Address where
  scheme : List Char
  user : List Char
  host : List Char
  /-- The number of the service at the host. -/
  service : Option Int
  path : List Char
  query : Option (List Char)
  fragment : Option (List Char)
deriving DecidableEq, Repr

inductive AddressFault
  | tooLong
  | notPrintable (c : Char) (position : Nat)
  | badHost (version : Nat) (host : List Char)
  | badService (text : List Char)
  | doubleSlash
  | colonFirst
deriving DecidableEq, Repr

namespace AddressFault

def message : AddressFault → String
  | .tooLong => "URL too long"
  | .notPrintable c position =>
    "Invalid non-printable ASCII character in URL, " ++ Text.quoted (String.singleton c) ++
      " at position " ++ toString position ++ "."
  | .badHost version host => "Invalid IPv" ++ toString version ++ " address: " ++
      String.ofList (Text.quotedChars host)
  | .badService text => "Invalid port: " ++ String.ofList (Text.quotedChars text)
  | .doubleSlash => "Relative URLs cannot have a path starting with '//'"
  | .colonFirst => "Relative URLs cannot have a path starting with ':'"

def failure (fault : AddressFault) : Failure := ⟨.client (.other "InvalidURL"), fault.message⟩

end AddressFault

namespace Address

/-! ## Escapes -/

def upperHex (c : Char) : Char := if c.isLower then Char.ofNat (c.toNat - 0x20) else c

/-- The escape of a character: a percent sign and two digits for each octet. -/
def escape (c : Char) : List Char :=
  (Text.encodeChar c).flatMap fun b => '%' :: (Text.hexDigits 2 b.toNat).map upperHex

/-- Characters that are escaped in every part. -/
def isUnsafe (c : Char) : Bool :=
  c.toNat ≤ 0x20 || 0x7F ≤ c.toNat || c == '"' || c == '<' || c == '>'

def isUnsafeInPath (c : Char) : Bool :=
  isUnsafe c || c == '#' || c == '?' || c.toNat == 0x60 || c == '{' || c == '}'

def isUnsafeInQuery (c : Char) : Bool := isUnsafe c || c == '#'

def isUnsafeInFragment (c : Char) : Bool := isUnsafe c || c.toNat == 0x60

def escapeWhere (isBad : Char → Bool) (cs : List Char) : List Char :=
  cs.flatMap fun c => if isBad c then escape c else [c]

/-! ## Parts -/

def isSchemeChar (c : Char) : Bool := c.isAlphanum || c == '+' || c == '.' || c == '-'

/-- The scheme before a colon, and what follows; there may be none. -/
def splitScheme (cs : List Char) : List Char × List Char :=
  let front := cs.takeWhile isSchemeChar
  match cs.drop front.length with
  | ':' :: rest => if front.head?.all Char.isAlpha then (front, rest) else ([], cs)
  | _ => ([], cs)

def endsAuthority (c : Char) : Bool := c == '/' || c == '?' || c == '#'

/-- The authority after two slashes, and what follows. -/
def splitAuthority : List Char → List Char × List Char
  | '/' :: '/' :: rest => (rest.takeWhile (!endsAuthority ·), rest.dropWhile (!endsAuthority ·))
  | cs => ([], cs)

/-- The host, which may stand in brackets, and the text of the service number. -/
def splitHost (cs : List Char) : List Char × List Char :=
  let (inside, after) := Text.cutLast ']' cs
  let (host, number) := match cs, inside with
    | '[' :: _, some inside => (inside ++ [']'], after)
    | _, _ => (cs.takeWhile (· != ':'), cs.dropWhile (· != ':'))
  (host, if number.head? == some ':' then number.drop 1 else number)

/-- Runs of digits with `left` characters of any kind between them, each after a digit that was
`seen`. -/
def isDotted (left : Nat) (seen : Bool) : List Char → Bool
  | [] => left == 0 && seen
  | c :: rest =>
    c.isDigit && isDotted left true rest || (seen && 0 < left && isDotted (left - 1) false rest)

def isOctet (cs : List Char) : Bool :=
  0 < cs.length && cs.length ≤ 3 && cs.all Char.isDigit &&
    (cs.length == 1 || cs.head? != some '0') &&
    Text.ofDigits (cs.map fun c => c.toNat - 0x30) ≤ 255

def isAddress4 (cs : List Char) : Bool :=
  let parts := Text.splitOn '.' cs
  parts.length == 4 && parts.all isOctet

def isHextet (cs : List Char) : Bool :=
  0 < cs.length && cs.length ≤ 4 && cs.all fun c => (Text.hexValue? c).isSome

/-- The number of parts on one side of a gap, which may be at the end of the address. -/
def sideLength? (parts : List (List Char)) : Option Nat :=
  if parts == [[]] then some 0 else if parts.all isHextet then some parts.length else none

/-- Eight parts, of which the last two may be written as an address of the other version, with at
most one gap for parts that are zero. -/
def isAddress6 (cs : List Char) : Bool :=
  let (address, scope) := Text.cut '%' cs
  let parts := Text.splitOn ':' address
  let last := parts.getLast?.getD []
  let parts := if !last.contains '.' then parts
    else parts.dropLast ++ (if isAddress4 last then [['0'], ['0']] else [['.']])
  let inner := (parts.drop 1).dropLast
  scope.all (fun s => !s.isEmpty && !s.contains '%') &&
    match inner.count [] with
    | 0 => parts.length == 8 && parts.all isHextet
    | 1 =>
      let gap := inner.idxOf [] + 1
      match sideLength? (parts.take gap), sideLength? (parts.drop (gap + 1)) with
      | some high, some low => high + low ≤ 7
      | _, _ => false
    | _ => false

/-- A host that looks like a number of the network must be one. -/
def checkHost (host : List Char) : Except AddressFault Unit :=
  if isDotted 3 false host then if isAddress4 host then .ok () else .error (.badHost 4 host)
  else if host.head? == some '[' && host.getLast? == some ']' then
    if isAddress6 host.tail.dropLast then .ok () else .error (.badHost 6 host)
  else .ok ()

def impliedServices : List (List Char × Int) :=
  [("ftp".toList, 21), ("http".toList, 80), ("https".toList, 443), ("ws".toList, 80),
    ("wss".toList, 443)]

/-- The service number, unless the scheme implies it. -/
def serviceOf (scheme text : List Char) : Except AddressFault (Option Int) :=
  if text.isEmpty then .ok none
  else
    match Text.readInt (String.ofList text) with
    | .error _ => .error (.badService text)
    | .ok n => .ok (if impliedServices.lookup scheme == some n then none else some n)

/-- Drops single dots, and double dots with the part before them. -/
def withoutDots (path : List Char) : List Char :=
  let parts := Text.splitOn '/' path
  if parts.any fun part => part == ['.'] || part == ['.', '.'] then
    ['/'].intercalate (parts.foldl step [])
  else path
where
  step (out : List (List Char)) (part : List Char) : List (List Char) :=
    if part == ['.'] then out
    else if part == ['.', '.'] then (if out == [] || out == [[]] then out else out.dropLast)
    else out ++ [part]

def lowerAscii (cs : List Char) : List Char := cs.map Char.toLower

/-- The path of an address; one that has neither scheme nor authority must not look like either. -/
def pathOf (isBare : Bool) (path : List Char) : Except AddressFault (List Char) :=
  if !isBare then .ok (escapeWhere isUnsafeInPath (withoutDots path))
  else if ['/', '/'].isPrefixOf path then .error .doubleSlash
  else if path.head? == some ':' then .error .colonFirst
  else .ok (escapeWhere isUnsafeInPath path)

/-- The address whose parts these are, in normal form. -/
def ofParts (cs : List Char) : Except AddressFault Address := do
  let (scheme, rest) := splitScheme cs
  let (authority, rest) := splitAuthority rest
  let (rest, fragment) := Text.cut '#' rest
  let (path, query) := Text.cut '?' rest
  let (user, rest) := Text.cutLast '@' authority
  let (host, number) := splitHost rest
  let scheme := lowerAscii scheme
  let user := user.getD []
  checkHost host
  let service ← serviceOf scheme number
  let path ← pathOf (scheme.isEmpty && user.isEmpty && host.isEmpty && service.isNone) path
  return {
    scheme
    user := escapeWhere isUnsafeInPath user
    host := escapeWhere isUnsafe (lowerAscii host)
    service
    path
    query := query.map (escapeWhere isUnsafeInQuery)
    fragment := fragment.map (escapeWhere isUnsafeInFragment) }

def maxLength : Nat := 65536

def isControl (c : Char) : Bool := c.toNat < 0x20 || c.toNat == 0x7F

def ofChars (cs : List Char) : Except AddressFault Address :=
  if maxLength < cs.length then .error .tooLong
  else
    match cs.find? isControl with
    | some c => .error (.notPrintable c (cs.takeWhile (!isControl ·)).length)
    | none => ofParts cs

/-! ## Text -/

def authority (a : Address) : List Char :=
  (if a.user.isEmpty then [] else a.user ++ ['@']) ++ a.host ++
    match a.service with
    | some n => ':' :: (toString n).toList
    | none => []

def queryText (a : Address) : List Char :=
  match a.query with
  | some q => '?' :: q
  | none => []

def isAbsolute (a : Address) : Bool := !a.scheme.isEmpty && !a.host.isEmpty

def chars (a : Address) : List Char :=
  if a.isAbsolute then
    a.scheme ++ ':' :: '/' :: '/' :: (a.authority ++ a.path ++ a.queryText ++
      match a.fragment with
      | some f => '#' :: f
      | none => [])
  else '/' :: ((if a.path.isEmpty then ['/'] else a.path) ++ a.queryText).dropWhile (· == '/')

/-- The normal form of an address. -/
def normal (text : String) : Except AddressFault String :=
  (ofChars text.toList).map fun a => String.ofList a.chars

end Address

end FlowBoard.Http
