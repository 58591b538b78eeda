import FlowBoard.Text.StandIns
import FlowBoard.Tree.Pages
import FlowBoard.Wire.PageList
import FlowBoard.Wire.TreeFile

/-!
# Ingested documents

A source gives a document in one of its two wire forms, checked, with the key of the file that it
came from and the stand-ins that its strings may have. `Ingested.document` brings both forms to the
same pages.
-/

namespace FlowBoard

inductive Ingested
  | tree (fileKey : String) (file : TreeFile) (lone : Text.StandIns := {})
  | structured (fileKey : String) (list : Wire.PageList) (lone : Text.StandIns := {})

namespace Ingested

def form : Ingested → WireForm
  | .tree .. => .tree
  | .structured .. => .structured

def fileKey : Ingested → String
  | .tree key .. => key
  | .structured key .. => key

def standIns : Ingested → Text.StandIns
  | .tree _ _ lone => lone
  | .structured _ _ lone => lone

def fileName : Ingested → Option String
  | .tree _ file _ => file.name
  | .structured _ list _ => list.fileName

def pages : Ingested → List Page
  | .tree _ file _ => file.pages
  | .structured _ list _ => list.pages.map fun page => page.toPage.prune

def document (i : Ingested) : Document where
  sourceKind := i.form.name
  fileKey := i.fileKey
  fileName := i.fileName
  pages := i.pages

end Ingested

namespace Wire

/-- A payload refused because of a violation below a named root. -/
def Violation.failure (form : WireForm) (root : String) (v : Violation) : Failure :=
  let path := pathText root v.steps
  ⟨.payload (some path),
    "Invalid " ++ form.name ++ " payload at " ++ path ++ ": " ++ v.reason.message ++ "."⟩

end Wire

def checkTree (v : Json) (root : String) : Except Failure TreeFile :=
  (TreeFile.ofJson v).mapError (·.failure .tree root)

def checkPageList (v : Json) (root : String) : Except Failure Wire.PageList :=
  (Wire.PageList.ofJson v).mapError (·.failure .structured root)

def treeRoot : String := "file"

def pageListRoot : String := "document"

end FlowBoard
