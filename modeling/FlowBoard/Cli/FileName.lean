import FlowBoard.Text.Blank
import FlowBoard.Text.Case

/-!
# Names of output files

A file is named after a document, a page or a flowchart. Only word characters and hyphens are kept
of such a name, in lower case, and runs of blanks become hyphens; so it has no dots and no slashes.
-/

namespace FlowBoard.FileName

def isKept (c : Char) : Bool := Text.isWordChar c || Text.isBlank c || c == '-'

/-- Turns each run of blanks into a hyphen; `inRun` tells that a blank came just before. -/
def hyphenate (inRun : Bool) : List Char → List Char
  | [] => []
  | c :: rest =>
    if Text.isBlank c then
      if inRun then hyphenate true rest else '-' :: hyphenate true rest
    else c :: hyphenate false rest

def sanitizeChars (cs : List Char) : List Char :=
  Text.lowerChars (hyphenate false (cs.filter isKept))

/-- The name of a file where nothing of the given name is kept. -/
def fallback : String := "output"

def sanitize (name : String) : String := Text.orElse (Text.onChars sanitizeChars name) fallback

end FlowBoard.FileName
