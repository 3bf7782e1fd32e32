import Runbook.Text.Blank
/-! Lines of a text. A line ends with a line feed, and a carriage return right before that
line feed belongs to the ending. A last line without an ending counts when it is not empty. -/
namespace Runbook.Text

/-- A line that was ended by a line feed, less the carriage return before it. -/
def dropReturn (line : List Char) : List Char :=
  if line.getLast? = some '\r' then line.dropLast else line

def lineList (s : List Char) : List (List Char) :=
  let pieces := cut (· == '\n') s
  let last := pieces.getLastD []
  pieces.dropLast.map dropReturn ++ if last.isEmpty then [] else [last]

def lines (s : String) : List String := (lineList s.toList).map String.ofList

end Runbook.Text
