/-!
# Lines, columns and line ends

A place in a text is found from the number of characters that are left after it. `unifyNewlines`
makes every line end a single line feed, as a text stream does.
-/

namespace FlowBoard.Text

/-- The characters before the place where `left` characters remain. -/
def before (text : List Char) (left : Nat) : List Char := text.take (text.length - left)

/-- Number of line feeds. -/
def lineFeeds (cs : List Char) : Nat := cs.count '\n'

/-- Number of characters after the last line feed. -/
def lastLineLength (cs : List Char) : Nat := (cs.reverse.takeWhile (· != '\n')).length

/-- A carriage return, alone or before a line feed, becomes a line feed. -/
def unifyNewlinesFrom (afterReturn : Bool) : List Char → List Char
  | [] => []
  | c :: rest =>
    if c = '\r' then '\n' :: unifyNewlinesFrom true rest
    else if c = '\n' && afterReturn then unifyNewlinesFrom false rest
    else c :: unifyNewlinesFrom false rest

def unifyNewlines (cs : List Char) : List Char := unifyNewlinesFrom false cs

end FlowBoard.Text
