/-!
Lines of a text. A line ends at a line feed, which takes one carriage return before it along;
nothing follows a final line feed, and the empty text has no lines.
-/
namespace ClassMatch.Text

/-- Lines of the remaining characters, after those of the current line in reverse. -/
def linesFrom (line : List Char) : List Char → List String
  | [] => if line.isEmpty then [] else [String.ofList line.reverse]
  | c :: rest =>
    if c = '\n' then
      let line := if line.head? = some '\r' then line.tail else line
      String.ofList line.reverse :: linesFrom [] rest
    else linesFrom (c :: line) rest

def lines (s : String) : List String := linesFrom [] s.toList

end ClassMatch.Text
