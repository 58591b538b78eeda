import FlowBoard.Failure
import FlowBoard.Text.Hex
import FlowBoard.Text.Position
import FlowBoard.Text.Utf8

/-!
# Contents

What a file or a reply holds: a text, coded in UTF-8, or octets that may be no text.
-/

namespace FlowBoard

inductive Contents
  | text (s : String)
  | raw (octets : Text.Octets)
deriving DecidableEq, Repr

namespace Contents

def octets : Contents → Text.Octets
  | .text s => Text.encode s
  | .raw octets => octets

def isEmpty : Contents → Bool
  | .text s => s.isEmpty
  | .raw octets => octets.isEmpty

/-- Octets as a text where they are one. -/
def ofOctets (octets : Text.Octets) : Contents :=
  match Text.decode octets with
  | .ok s => .text s
  | .error _ => .raw octets

end Contents

/-- The failure to decode, which names the octet or the positions. -/
def Text.Utf8Error.failure (e : Text.Utf8Error) : Failure :=
  let last := e.position + e.octets.length - 1
  let place := match e.octets with
    | [b] => "byte 0x" ++ String.ofList (Text.hexDigits 2 b.toNat) ++ " in position " ++
        toString e.position
    | _ => "bytes in position " ++ toString e.position ++ "-" ++ toString last
  ⟨.undecodable, "'utf-8' codec can't decode " ++ place ++ ": " ++ e.reason.message⟩

namespace Contents

/-- The text of a file, with every line end a line feed. -/
def read (c : Contents) : Except Failure String :=
  match c with
  | .text s => .ok (String.ofList (Text.unifyNewlines s.toList))
  | .raw octets =>
    match Text.decode octets with
    | .ok s => .ok (String.ofList (Text.unifyNewlines s.toList))
    | .error e => .error e.failure

end Contents

end FlowBoard
