import Mathlib.Logic.Basic
import SchemaCatalog.Proofs.Console.Erasure
import SchemaCatalog.Proofs.Session.Notes
import SchemaCatalog.Proofs.Session.Refusals

/-!
# What is reported of a line

A line of a console either succeeds or fails, and it can be told from what is reported which of the
two it was (`Session.lines_reported`). If it succeeds, the rows that the session shows are printed
and no error is noted. If it fails, nothing is printed, and the last note is the error; only one
note may stand before it, which tells that the store has refused a change or could not be used.

Rows are printed without control sequences. Fields in which there is no escape character are printed
as they are (`rowsText_of_plain`).
-/

namespace SchemaCatalog

/-! ### The text of rows -/

/-- A text without an escape character has no control sequences. -/
theorem Text.withoutControls_of_notMem {cs : List Char} (h : escapeChar ∉ cs) :
    withoutControls cs = cs := by
  induction cs with
  | nil => rw [withoutControls]
  | cons c rest ih =>
    obtain ⟨hc, hrest⟩ := not_or.mp (List.mem_cons.not.mp h)
    rw [withoutControls, if_neg (Ne.symm hc), ih hrest]

/-- A row without an escape character in its fields. -/
def Row.IsPlain (row : Row) : Prop := ∀ field ∈ row, Text.escapeChar ∉ field.toList

/-- A character that is in no field, and is no separator, is not in the joined fields. -/
theorem Row.notMem_intercalate {row : Row} {c : Char} {sep : String} (hsep : c ∉ sep.toList)
    (h : ∀ field ∈ row, c ∉ field.toList) : c ∉ (String.intercalate sep row).toList := by
  induction row with
  | nil => exact List.not_mem_nil
  | cons field rest ih =>
    obtain ⟨hfield, hrest⟩ := List.forall_mem_cons.mp h
    cases rest with
    | nil => simpa using hfield
    | cons field' rest =>
      rw [String.intercalate_cons_cons, String.toList_append, String.toList_append,
        List.mem_append, List.mem_append, not_or, not_or]
      exact ⟨⟨hfield, hsep⟩, ih hrest⟩

theorem Row.IsPlain.notMem_rowText {row : Row} (h : row.IsPlain) :
    Text.escapeChar ∉ rowText row := by
  have hfields : Text.escapeChar ∉ (String.intercalate "\t" row).toList :=
    Row.notMem_intercalate (by decide) h
  rw [rowText, List.mem_append, not_or]
  exact ⟨hfields, by decide⟩

/-- Nothing is left out of plain rows when they are printed. -/
theorem toList_rowsText {rows : List Row} (h : ∀ row ∈ rows, row.IsPlain) :
    (rowsText rows).toList = rows.flatMap rowText := by
  rw [rowsText, String.toList_ofList]
  refine List.flatMap_congr fun row hrow => ?_
  exact Text.withoutControls_of_notMem (h row hrow).notMem_rowText

/-- Plain rows are printed field by field, with tabs between the fields and a line for each row. -/
theorem rowsText_of_plain {rows : List Row} (h : ∀ row ∈ rows, row.IsPlain) :
    rowsText rows = String.join (rows.map fun row => String.intercalate "\t" row ++ "\n") := by
  refine String.toList_injective ?_
  rw [toList_rowsText h, String.toList_join, List.flatMap_map]
  refine List.flatMap_congr fun row _ => ?_
  rw [rowText, String.toList_append]
  rfl

/-! ### Reports -/

/-- A line reports the rows of an answer: it prints them in their order and notes no error. -/
structure LineResult.ReportsRows (result : LineResult) (outcome : Outcome)
    (rows : Option (List Row)) : Prop where
  succeeded : result.succeeded = true
  answer : outcome.answer = .ok rows
  output : result.output = rowsText (rows.getD [])
  plain : (∀ row ∈ rows.getD [], row.IsPlain) → result.output =
    String.join ((rows.getD []).map fun row => String.intercalate "\t" row ++ "\n")
  notes : result.notes = outcome.notes
  level : ∀ n ∈ result.notes, n.level ≠ .error
  session : result.session = outcome.session
  access : result.access = outcome.access

/-- A line reports an error: it prints nothing, leaves session and store as they were, and notes the
error last, after one note at most, which is about the store. -/
structure LineResult.ReportsError (result : LineResult) (x : Session) (a : Access) (last : Note) :
    Prop where
  failed : result.succeeded = false
  output : result.output = ""
  session : result.session = x
  access : result.access = a
  notes : result.notes = [last] ∨ ∃ n, n.isOfStore = true ∧ result.notes = [n, last]
  level : ∀ n ∈ result.notes, n.level = .error

theorem LineResult.ReportsRows.not_reportsError {result : LineResult} {outcome : Outcome}
    {rows : Option (List Row)} {x : Session} {a : Access} {last : Note}
    (h : result.ReportsRows outcome rows) : ¬ result.ReportsError x a last := by
  intro herror
  have hsucceeded : true = false := h.succeeded.symm.trans herror.failed
  cases hsucceeded

namespace Session

variable {x : Session} {a : Access} {line : String}

/-- Why a line fails, with the note of it and the message: it is no statement, or its statement is
refused with an error. That the statement makes no sense is never the error, unless the session has
made something else than texts of the names in a query. -/
inductive FailsWith (x : Session) (a : Access) (line : String) : Note → String → Prop
  | notAStatement {refusal : Refusal} (hread : Statement.read line = .error refusal) :
      FailsWith x a line .notAStatement "Invalid statement"
  | refused {stmt : Statement} {err : CatalogError} (hread : Statement.read line = .ok stmt)
      (herr : (x.handle stmt.request a).answer = .error err)
      (hsense : err.isMalformed = true → ∃ name query, stmt = .createView name query ∧
        ∃ label ∈ x.visitor query.view, ¬ label.IsText) :
      FailsWith x a line (.refused err) err.message

/-! ### Lines -/

/-- A request that is not refused is carried out on some store. -/
theorem exists_run_of_attempt {r : Request} {e : Effect} (h : x.attempt r a = .ok e) :
    ∃ s, x.run s r = .ok e := by
  cases a with
  | ready s => exact ⟨s, h⟩
  | readOnly s =>
    obtain ⟨changes, -, h⟩ := bind_eq_ok_iff.mp h
    split_ifs at h
    exact ⟨s, h⟩
  | broken outage => cases h

/-- A statement that a session handles is reported by its rows. -/
theorem reportsRows_of_attempt {stmt : Statement} {e : Effect}
    (hread : Statement.read line = .ok stmt) (h : x.attempt stmt.request a = .ok e) :
    (x.runLine line a).ReportsRows (x.handle stmt.request a) e.rows := by
  have hhandle : x.handle stmt.request a =
      ⟨.ok e.rows, e.note.toList, { x with current := e.current }, a.after e.store⟩ := by
    rw [handle_eq, h]
  have hline : x.runLine line a =
      ⟨true, rowsText (e.rows.getD []), e.note.toList, { x with current := e.current },
        a.after e.store⟩ := by
    simp only [runLine, hread, hhandle]
  obtain ⟨s, hrun⟩ := exists_run_of_attempt h
  rw [hline, hhandle]
  refine ⟨rfl, rfl, rfl, rowsText_of_plain, rfl, fun n hn => ?_, rfl, rfl⟩
  rw [level_of_run_eq_ok hrun n (Option.mem_toList.mp hn)]
  decide

/-- A line that is no statement is reported as such. -/
theorem reportsError_of_read {refusal : Refusal} (hread : Statement.read line = .error refusal) :
    (x.runLine line a).ReportsError x a .notAStatement := by
  have hline : x.runLine line a = ⟨false, "", [.notAStatement], x, a⟩ := by
    simp only [runLine, hread]
  rw [hline]
  refine ⟨rfl, rfl, rfl, rfl, .inl rfl, fun n hn => ?_⟩
  obtain rfl := List.mem_singleton.mp hn
  rfl

/-- A statement that is refused is reported by its error. -/
theorem reportsError_of_attempt {stmt : Statement} {f : Failure}
    (hread : Statement.read line = .ok stmt) (h : x.attempt stmt.request a = .error f) :
    (x.runLine line a).ReportsError x a (.refused f.error) := by
  have hline : x.runLine line a =
      ⟨false, "", f.note.toList ++ [.refused f.error], x, a⟩ := by
    simp only [runLine, hread, handle_eq, h]
  obtain ⟨hnote, -⟩ := attempt_failsOnly x stmt.request a f h
  rw [hline]
  refine ⟨rfl, rfl, rfl, rfl, ?_, fun n hn => ?_⟩
  · cases hf : f.note with
    | none => exact .inl rfl
    | some n => exact .inr ⟨n, hnote n hf, rfl⟩
  · rcases List.mem_append.mp hn with hn | hn
    · exact Note.level_of_isOfStore (hnote n (Option.mem_toList.mp hn))
    · obtain rfl := List.mem_singleton.mp hn
      rfl

theorem failsWith_of_attempt {stmt : Statement} {f : Failure}
    (hread : Statement.read line = .ok stmt) (h : x.attempt stmt.request a = .error f) :
    x.FailsWith a line (.refused f.error) f.error.message := by
  refine .refused hread (by rw [handle_eq, h]) fun hmalformed => ?_
  -- otherwise the session finds texts everywhere, and then the request makes sense
  by_contra hnone
  have htexts : x.FindsTexts stmt.request := by
    refine findsTexts_request fun name query hstmt label hlabel => ?_
    by_contra hlabel'
    exact hnone ⟨name, query, hstmt, label, hlabel, hlabel'⟩
  have hsense := (attempt_failsOnly x stmt.request a f h).error htexts
  rw [hmalformed] at hsense
  cases hsense

/-- **Reports.** For every session, whatever the store, exactly one of two things comes of a line:
it is a statement that the session handles, whose rows are all that is printed, and no error is
noted; or nothing is printed or changed, and the last note has the message of the error. -/
theorem lines_reported (x : Session) (a : Access) (line : String) :
    Xor (∃ stmt rows, Statement.read line = .ok stmt ∧
        (x.runLine line a).ReportsRows (x.handle stmt.request a) rows)
      (∃ last message, x.FailsWith a line last message ∧ last.text = message ∧
        (x.runLine line a).ReportsError x a last) := by
  cases hread : Statement.read line with
  | error refusal =>
    have hreports : (x.runLine line a).ReportsError x a .notAStatement :=
      reportsError_of_read hread
    refine .inr ⟨⟨_, _, .notAStatement hread, rfl, hreports⟩, ?_⟩
    rintro ⟨stmt, rows, -, hrows⟩
    exact hrows.not_reportsError hreports
  | ok stmt =>
    cases hattempt : x.attempt stmt.request a with
    | ok e =>
      have hreports := reportsRows_of_attempt hread hattempt
      refine .inl ⟨⟨stmt, e.rows, rfl, hreports⟩, ?_⟩
      rintro ⟨last, message, -, -, herror⟩
      exact hreports.not_reportsError herror
    | error f =>
      have hreports := reportsError_of_attempt hread hattempt
      refine .inr ⟨⟨_, _, failsWith_of_attempt hread hattempt, rfl, hreports⟩, ?_⟩
      rintro ⟨stmt', rows, -, hrows⟩
      exact hrows.not_reportsError hreports

end Session

end SchemaCatalog
