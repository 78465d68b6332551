import SchemaCatalog.Session.Handling
import SchemaCatalog.Statement.Check
import SchemaCatalog.Text.ControlSequence

/-!
# Statements line by line

A session at a console reads one statement from each line, a JSON document. `Session.runLine`
handles a line: it prints the rows of a statement that succeeds, and notes in the journal why one
fails; a failure never stops the lines that follow.
-/

namespace SchemaCatalog

/-- What comes of one line. -/
structure LineResult where
  succeeded : Bool
  output : String
  notes : List Note
  session : Session
  access : Access

/-- The text of a row: its fields with tabs between them, and the end of the line. -/
def rowText (row : Row) : List Char :=
  (String.intercalate "\t" row).toList ++ ['\n']

/-- The text of rows, without control sequences. -/
def rowsText (rows : List Row) : String :=
  String.ofList (rows.flatMap fun row => Text.withoutControls (rowText row))

/-- The notes of one importance, or of all. -/
def shownNotes (verbose : Bool) (notes : List Note) : List Note :=
  notes.filter fun note => verbose || note.level == .error

namespace Session

/-- The prompt: the name of the selected database, if one is selected. -/
def prompt (x : Session) : String :=
  match x.databaseName? with
  | none => "> "
  | some name => name.shown ++ "> "

/-- Handles one line. -/
def runLine (x : Session) (line : String) (a : Access) : LineResult :=
  match Statement.read line with
  | .error _ => ⟨false, "", [.notAStatement], x, a⟩
  | .ok stmt =>
    let outcome := x.handle stmt.request a
    match outcome.answer with
    | .ok rows =>
      ⟨true, rowsText (rows.getD []), outcome.notes, outcome.session, outcome.access⟩
    | .error e =>
      ⟨false, "", outcome.notes ++ [.refused e], outcome.session, outcome.access⟩

end Session

end SchemaCatalog
