/-!
# Lines of a text

A line ends at a line feed, a carriage return, or a carriage return with a line feed after it. The
end of a line does not belong to it, and the last line of a text need not have one.

A text that is captured keeps its lines, with a line feed for each pair of carriage return and
line feed (`captured`).
-/

namespace SchemaCatalog.Text

/-- The lines of a text; `current` holds the characters of the line being read, last one first,
and `started` tells whether there is such a line. -/
def linesFrom (current : List Char) (started : Bool) : List Char → List (List Char)
  | [] => if started then [current.reverse] else []
  | '\r' :: '\n' :: rest => current.reverse :: linesFrom [] false rest
  | '\r' :: rest => current.reverse :: linesFrom [] false rest
  | '\n' :: rest => current.reverse :: linesFrom [] false rest
  | c :: rest => linesFrom (c :: current) true rest

/-- The lines of a text. -/
def lines (s : String) : List String := (linesFrom [] false s.toList).map String.ofList

/-- A text with a single line feed for each pair of carriage return and line feed. -/
def captured : List Char → List Char
  | [] => []
  | '\r' :: '\n' :: rest => '\n' :: captured rest
  | c :: rest => c :: captured rest

end SchemaCatalog.Text
