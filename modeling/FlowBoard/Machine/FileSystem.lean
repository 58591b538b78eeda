import FlowBoard.Contents
import FlowBoard.Keyed
import FlowBoard.Machine.Path
import FlowBoard.Text.Quoted

/-!
# Files

Files and directories are entries by their place, a list of names from the root. A path is found
by a walk through directories; the walk fails at a part that is missing, no directory or too long.
-/

namespace FlowBoard

inductive Entry
  | file (contents : Contents)
  | directory
deriving DecidableEq, Repr

abbrev Place := List String

inductive FileFault
  | notFound
  | alreadyExists
  | notDirectory
  | isDirectory
  | nameTooLong
  | embeddedNull
deriving DecidableEq, Repr

namespace FileFault

/-- The system's number and words; a null character is refused before the system sees it. -/
def system? : FileFault → Option (Nat × String)
  | .notFound => some (2, "No such file or directory")
  | .alreadyExists => some (17, "File exists")
  | .notDirectory => some (20, "Not a directory")
  | .isDirectory => some (21, "Is a directory")
  | .nameTooLong => some (36, "File name too long")
  | .embeddedNull => none

def failure (path : Path) (fault : FileFault) : Failure :=
  match fault.system? with
  | some (code, words) =>
    ⟨.fileSystem code, "[Errno " ++ toString code ++ "] " ++ words ++ ": " ++ Text.quoted path.text⟩
  | none => ⟨.wrongValue, "embedded null byte"⟩

end FileFault

structure FileSystem where
  entries : Keyed Place Entry := []
deriving DecidableEq, Repr

namespace FileSystem

/-- The working directory. -/
def workPlace : Place := ["tmp", "work"]

def maxPart : Nat := 255

def maxPath : Nat := 4095

/-- What is at a place; the working directory and those above it are always there. -/
def entry? (fs : FileSystem) (place : Place) : Option Entry :=
  if place.isPrefixOf workPlace then some .directory else Keyed.find? place fs.entries

/-- The place that parts lead to from a place; all but the last must be directories. -/
def walk (fs : FileSystem) (place : Place) : List String → Except FileFault Place
  | [] => .ok place
  | part :: rest =>
    match fs.entry? place with
    | none => .error .notFound
    | some (.file _) => .error .notDirectory
    | some .directory =>
      if maxPart < Text.byteLength part then .error .nameTooLong
      else if part = ".." then fs.walk place.dropLast rest
      else fs.walk (place ++ [part]) rest

def start (path : Path) : Place := if path.slashes = 0 then workPlace else []

def locate (fs : FileSystem) (path : Path) : Except FileFault Place :=
  if path.text.toList.contains (Char.ofNat 0) then .error .embeddedNull
  else if maxPath < Text.byteLength path.text then .error .nameTooLong
  else fs.walk (start path) path.parts

def find (fs : FileSystem) (path : Path) : Except FileFault Entry :=
  match fs.locate path with
  | .error e => .error e
  | .ok place =>
    match fs.entry? place with
    | some entry => .ok entry
    | none => .error .notFound

def isDirectory (fs : FileSystem) (path : Path) : Bool :=
  match fs.find path with
  | .ok .directory => true
  | _ => false

/-- Whether a path leads to an entry that passes the test; only a name that is too long is an
error. -/
def holds (fs : FileSystem) (test : Entry → Bool) (path : Path) : Except Failure Bool :=
  match fs.find path with
  | .ok entry => .ok (test entry)
  | .error .nameTooLong => .error (FileFault.nameTooLong.failure path)
  | .error _ => .ok false

def isFile (fs : FileSystem) (path : Path) : Except Failure Bool :=
  fs.holds (fun entry => match entry with
    | .file _ => true
    | .directory => false) path

def exists? (fs : FileSystem) (path : Path) : Except Failure Bool := fs.holds (fun _ => true) path

def contents (fs : FileSystem) (path : Path) : Except Failure Contents :=
  match fs.find path with
  | .ok (.file c) => .ok c
  | .ok .directory => .error (FileFault.isDirectory.failure path)
  | .error e => .error (e.failure path)

def readText (fs : FileSystem) (path : Path) : Except Failure String := do
  (← fs.contents path).read

def writeText (fs : FileSystem) (path : Path) (s : String) : Except Failure FileSystem :=
  match fs.locate path with
  | .error e => .error (e.failure path)
  | .ok place =>
    match fs.entry? place with
    | some .directory => .error (FileFault.isDirectory.failure path)
    | _ => .ok ⟨Keyed.put place (.file (.text s)) fs.entries⟩

def makeDirectory (fs : FileSystem) (path : Path) : Except FileFault FileSystem :=
  match fs.locate path with
  | .error e => .error e
  | .ok place =>
    match fs.entry? place with
    | some _ => .error .alreadyExists
    | none => .ok ⟨Keyed.put place .directory fs.entries⟩

/-- A fault is no matter if the directory is there. -/
def unlessThere (fs : FileSystem) (path : Path) (e : FileFault) : Except Failure FileSystem :=
  if fs.isDirectory path then .ok fs else .error (e.failure path)

/-- Makes the directory at a path with `depth` parts, and those above it as far as they are
missing. -/
def makeDirectoriesTo : Nat → FileSystem → Path → Except Failure FileSystem
  | 0, fs, path =>
    match fs.makeDirectory path with
    | .ok fs => .ok fs
    | .error e => fs.unlessThere path e
  | depth + 1, fs, path =>
    match fs.makeDirectory path with
    | .ok fs => .ok fs
    | .error .notFound => do
      let fs ← makeDirectoriesTo depth fs path.parent
      match fs.makeDirectory path with
      | .ok fs => .ok fs
      | .error .notFound => .error (FileFault.notFound.failure path)
      | .error e => fs.unlessThere path e
    | .error e => fs.unlessThere path e

def makeDirectories (fs : FileSystem) (path : Path) : Except Failure FileSystem :=
  makeDirectoriesTo path.parts.length fs path

/-- The entries below the working directory, by their path from there. -/
def listing (fs : FileSystem) : List (Place × Entry) :=
  fs.entries.filterMap fun e =>
    if workPlace.isPrefixOf e.1 then some (e.1.drop workPlace.length, e.2) else none

/-- The places strictly between the root and a place. -/
def above : Place → List Place
  | [] | [_] => []
  | part :: rest => [part] :: (above rest).map (part :: ·)

/-- Puts a file or a directory at a place, with the directories above it. -/
def place (fs : FileSystem) (target : Place) (entry : Entry) : FileSystem :=
  let entries := (above target).foldl (fun entries up => Keyed.put up .directory entries) fs.entries
  ⟨Keyed.put target entry entries⟩

end FileSystem

end FlowBoard
