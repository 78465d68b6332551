import SchemaCatalog.Console.Line
import SchemaCatalog.Text.Blank

/-!
# Many lines

A batch of lines is applied one after the other: blank lines are skipped, and a line that fails is
counted. A shell does the same for lines that are typed in, and shows its prompt before each line
and once more at the end.
-/

namespace SchemaCatalog

/-- What comes of a list of lines. -/
structure Transcript where
  output : String
  notes : List Note
  failures : Nat
  session : Session
  access : Access

namespace Session

/-- Applies lines. -/
def applyLines (x : Session) (a : Access) : List String → Transcript
  | [] => ⟨"", [], 0, x, a⟩
  | line :: rest =>
    if Text.isBlankText line then x.applyLines a rest
    else
      let r := x.runLine line a
      let t := r.session.applyLines r.access rest
      { t with
        output := r.output ++ t.output
        notes := r.notes ++ t.notes
        failures := (if r.succeeded then 0 else 1) + t.failures }

/-- The prompt as it is shown. -/
def shownPrompt (x : Session) : String := String.ofList (Text.withoutControls x.prompt.toList)

/-- Handles lines that are typed in; the output shows them as they were typed. -/
def shellLines (x : Session) (a : Access) : List String → Transcript
  | [] => ⟨x.shownPrompt, [], 0, x, a⟩
  | line :: rest =>
    let typed := x.shownPrompt ++ line ++ "\n"
    if Text.isBlankText line then
      let t := x.shellLines a rest
      { t with output := typed ++ t.output }
    else
      let r := x.runLine line a
      let t := r.session.shellLines r.access rest
      { t with
        output := typed ++ r.output ++ t.output
        notes := r.notes ++ t.notes
        failures := (if r.succeeded then 0 else 1) + t.failures }

end Session

end SchemaCatalog
