import Mathlib.Data.List.Induction
import SchemaCatalog.Console.Batch
import SchemaCatalog.Proofs.Catalog.Atomicity

/-!
# Lines that fail

A line that fails prints nothing and leaves the session and the store as they were, so that it can
be erased from what is applied. `Session.succeedingLines` are the lines that are left when the blank
ones and those that fail are erased: applied on their own they all succeed, print the same and end
in the same place (`applyLines_succeedingLines`). Lines that are typed in end there as well
(`shellLines_endsLike`).
-/

namespace SchemaCatalog

/-- Two lists of lines end in the same place: with the same session at the same store. -/
structure Transcript.EndsLike (t t' : Transcript) : Prop where
  session : t.session = t'.session
  access : t.access = t'.access

theorem Transcript.EndsLike.trans {t t' t'' : Transcript} (h : t.EndsLike t')
    (h' : t'.EndsLike t'') : t.EndsLike t'' :=
  ⟨h.session.trans h'.session, h.access.trans h'.access⟩

namespace Session

variable {x : Session} {a : Access} {line : String} {lines rest : List String}

/-! ### A single line -/

/-- A line fails: it is no statement, or its statement is refused. -/
inductive Fails (x : Session) (a : Access) (line : String) : Prop
  | notAStatement {refusal : Refusal} (hread : Statement.read line = .error refusal)
  | refused {stmt : Statement} {err : CatalogError} (hread : Statement.read line = .ok stmt)
      (herr : (x.handle stmt.request a).answer = .error err)

theorem fails_iff : x.Fails a line ↔ (x.runLine line a).succeeded = false := by
  constructor
  · rintro (hread | ⟨hread, herr⟩)
    · rw [runLine, hread]
    · rw [runLine, hread]
      simp only [herr]
  · intro h
    rw [runLine] at h
    cases hread : Statement.read line with
    | error refusal => exact .notAStatement hread
    | ok stmt =>
      cases herr : (x.handle stmt.request a).answer with
      | ok rows => simp [hread, herr] at h
      | error err => exact .refused hread herr

theorem not_fails_iff : ¬ x.Fails a line ↔ (x.runLine line a).succeeded = true := by
  rw [fails_iff, Bool.not_eq_false]

/-- A line that fails prints nothing. -/
theorem output_of_fails (h : x.Fails a line) : (x.runLine line a).output = "" := by
  rcases h with hread | ⟨hread, herr⟩
  · rw [runLine, hread]
  · rw [runLine, hread]
    simp only [herr]

/-- What is known of all lines is shown along a run: a line that is blank or fails does not move it
on, and one that succeeds does. -/
theorem induct_lines {motive : Session → Access → List String → Prop}
    (nil : ∀ x a, motive x a [])
    (blank : ∀ x a line rest, Text.isBlankText line = true → motive x a rest →
      motive x a (line :: rest))
    (fails : ∀ x a line rest, Text.isBlankText line = false → x.Fails a line → motive x a rest →
      motive x a (line :: rest))
    (succeeds : ∀ x a line rest, Text.isBlankText line = false → ¬ x.Fails a line →
      motive (x.runLine line a).session (x.runLine line a).access rest → motive x a (line :: rest))
    (x : Session) (a : Access) (lines : List String) : motive x a lines := by
  induction lines generalizing x a with
  | nil => exact nil x a
  | cons line rest ih =>
    cases hblank : Text.isBlankText line with
    | true => exact blank x a line rest hblank (ih x a)
    | false =>
      by_cases h : x.Fails a line
      · exact fails x a line rest hblank h (ih x a)
      · exact succeeds x a line rest hblank h (ih _ _)

/-! ### Lines that are applied -/

theorem applyLines_of_isBlankText (h : Text.isBlankText line = true) :
    x.applyLines a (line :: rest) = x.applyLines a rest := by
  rw [applyLines, if_pos h]

/-- A line that fails is counted, and the rest goes on as if it were not there. -/
theorem applyLines_of_fails (hblank : Text.isBlankText line = false) (h : x.Fails a line) :
    x.applyLines a (line :: rest) =
      { x.applyLines a rest with
        notes := (x.runLine line a).notes ++ (x.applyLines a rest).notes
        failures := 1 + (x.applyLines a rest).failures } := by
  have hfails := fails_iff.mp h
  obtain ⟨hsession, haccess⟩ := runLine_of_failure hfails
  simp [applyLines, hblank, hfails, hsession, haccess, output_of_fails h]

theorem applyLines_of_not_fails (hblank : Text.isBlankText line = false) (h : ¬ x.Fails a line) :
    x.applyLines a (line :: rest) =
      let r := x.runLine line a
      let t := r.session.applyLines r.access rest
      { t with output := r.output ++ t.output, notes := r.notes ++ t.notes } := by
  simp [applyLines, hblank, not_fails_iff.mp h]

/-- Where some lines end, the next ones begin. -/
theorem failures_append (x : Session) (a : Access) (before lines : List String) :
    (x.applyLines a (before ++ lines)).failures = (x.applyLines a before).failures +
      ((x.applyLines a before).session.applyLines
        (x.applyLines a before).access lines).failures := by
  induction before generalizing x a with
  | nil => simp [applyLines]
  | cons line rest ih =>
    rw [List.cons_append, applyLines, applyLines]
    split_ifs with hblank
    · exact ih x a
    · simp only [ih, Nat.add_assoc]

theorem failures_singleton_ne_zero_iff : (x.applyLines a [line]).failures ≠ 0 ↔
    Text.isBlankText line = false ∧ x.Fails a line := by
  rw [fails_iff]
  cases hblank : Text.isBlankText line <;> cases hs : (x.runLine line a).succeeded <;>
    simp [applyLines, hblank, hs]

/-- Failures are counted if and only if there is a line that is not blank and fails, in the place
where the lines before it end. -/
theorem failures_ne_zero_iff : (x.applyLines a lines).failures ≠ 0 ↔
    ∃ before line after, lines = before ++ line :: after ∧ Text.isBlankText line = false ∧
      (x.applyLines a before).session.Fails (x.applyLines a before).access line := by
  constructor
  · intro h
    -- from the end, since whether the last line fails depends on those before it
    induction lines using List.reverseRec with
    | nil => simp [applyLines] at h
    | append_singleton lines last ih =>
      rw [failures_append] at h
      by_cases hlines : (x.applyLines a lines).failures = 0
      · rw [hlines, Nat.zero_add] at h
        exact ⟨lines, last, [], rfl, failures_singleton_ne_zero_iff.mp h⟩
      · obtain ⟨before, line, after, rfl, hline⟩ := ih hlines
        exact ⟨before, line, after ++ [last], by simp, hline⟩
  · rintro ⟨before, line, after, rfl, hline⟩
    have hfailures := failures_singleton_ne_zero_iff.mpr hline
    rw [List.append_cons, failures_append, failures_append]
    omega

/-! ### Lines that succeed -/

/-- The lines that succeed when lines are applied, without those that are blank. -/
def succeedingLines (x : Session) (a : Access) : List String → List String
  | [] => []
  | line :: rest =>
    if Text.isBlankText line then x.succeedingLines a rest
    else
      let r := x.runLine line a
      let succeeding := r.session.succeedingLines r.access rest
      if r.succeeded then line :: succeeding else succeeding

theorem succeedingLines_of_isBlankText (h : Text.isBlankText line = true) :
    x.succeedingLines a (line :: rest) = x.succeedingLines a rest := by
  rw [succeedingLines, if_pos h]

theorem succeedingLines_of_fails (hblank : Text.isBlankText line = false) (h : x.Fails a line) :
    x.succeedingLines a (line :: rest) = x.succeedingLines a rest := by
  have hfails := fails_iff.mp h
  obtain ⟨hsession, haccess⟩ := runLine_of_failure hfails
  simp [succeedingLines, hblank, hfails, hsession, haccess]

theorem succeedingLines_of_not_fails (hblank : Text.isBlankText line = false)
    (h : ¬ x.Fails a line) :
    x.succeedingLines a (line :: rest) = line ::
      (x.runLine line a).session.succeedingLines (x.runLine line a).access rest := by
  simp [succeedingLines, hblank, not_fails_iff.mp h]

theorem succeedingLines_sublist (x : Session) (a : Access) (lines : List String) :
    (x.succeedingLines a lines).Sublist (lines.filter (!Text.isBlankText ·)) := by
  induction x, a, lines using induct_lines with
  | nil x a => exact .slnil
  | blank x a line rest hblank ih =>
    rw [succeedingLines_of_isBlankText hblank, List.filter_cons_of_neg (by simp [hblank])]
    exact ih
  | fails x a line rest hblank h ih =>
    rw [succeedingLines_of_fails hblank h, List.filter_cons_of_pos (by simp [hblank])]
    exact ih.cons line
  | succeeds x a line rest hblank h ih =>
    rw [succeedingLines_of_not_fails hblank h, List.filter_cons_of_pos (by simp [hblank])]
    exact ih.cons_cons line

/-- Every line that is not blank either succeeds or is counted. -/
theorem length_succeedingLines (x : Session) (a : Access) (lines : List String) :
    (x.succeedingLines a lines).length + (x.applyLines a lines).failures =
      (lines.filter (!Text.isBlankText ·)).length := by
  induction x, a, lines using induct_lines with
  | nil x a => rfl
  | blank x a line rest hblank ih =>
    rw [succeedingLines_of_isBlankText hblank, applyLines_of_isBlankText hblank,
      List.filter_cons_of_neg (by simp [hblank]), ih]
  | fails x a line rest hblank h ih =>
    rw [succeedingLines_of_fails hblank h, applyLines_of_fails hblank h,
      List.filter_cons_of_pos (by simp [hblank]), List.length_cons, ← ih]
    dsimp only
    omega
  | succeeds x a line rest hblank h ih =>
    rw [succeedingLines_of_not_fails hblank h, applyLines_of_not_fails hblank h,
      List.filter_cons_of_pos (by simp [hblank]), List.length_cons, List.length_cons, ← ih]
    dsimp only
    omega

/-- Among the lines that succeed, every line succeeds. -/
theorem succeedingLines_succeedingLines (x : Session) (a : Access) (lines : List String) :
    x.succeedingLines a (x.succeedingLines a lines) = x.succeedingLines a lines := by
  induction x, a, lines using induct_lines with
  | nil x a => rfl
  | blank x a line rest hblank ih => rw [succeedingLines_of_isBlankText hblank, ih]
  | fails x a line rest hblank h ih => rw [succeedingLines_of_fails hblank h, ih]
  | succeeds x a line rest hblank h ih =>
    rw [succeedingLines_of_not_fails hblank h, succeedingLines_of_not_fails hblank h, ih]

/-- Applied on their own, the lines that succeed print the same as all lines, without any failure,
and end in the same place. -/
theorem applyLines_succeedingLines (x : Session) (a : Access) (lines : List String) :
    (x.applyLines a (x.succeedingLines a lines)).output = (x.applyLines a lines).output ∧
      (x.applyLines a (x.succeedingLines a lines)).failures = 0 ∧
      (x.applyLines a (x.succeedingLines a lines)).EndsLike (x.applyLines a lines) := by
  induction x, a, lines using induct_lines with
  | nil x a => exact ⟨rfl, rfl, rfl, rfl⟩
  | blank x a line rest hblank ih =>
    rw [succeedingLines_of_isBlankText hblank, applyLines_of_isBlankText hblank]
    exact ih
  | fails x a line rest hblank h ih =>
    rw [succeedingLines_of_fails hblank h, applyLines_of_fails hblank h]
    exact ⟨ih.1, ih.2.1, ih.2.2.session, ih.2.2.access⟩
  | succeeds x a line rest hblank h ih =>
    rw [succeedingLines_of_not_fails hblank h, applyLines_of_not_fails hblank h,
      applyLines_of_not_fails hblank h]
    exact ⟨congrArg ((x.runLine line a).output ++ ·) ih.1, ih.2.1, ih.2.2.session, ih.2.2.access⟩

/-- Lines that are typed in end in the same place as lines that are applied. -/
theorem shellLines_endsLike (x : Session) (a : Access) (lines : List String) :
    (x.shellLines a lines).EndsLike (x.applyLines a lines) := by
  induction lines generalizing x a with
  | nil => exact ⟨rfl, rfl⟩
  | cons line rest ih =>
    rw [shellLines, applyLines]
    split_ifs with hblank
    · exact ⟨(ih x a).session, (ih x a).access⟩
    · exact ⟨(ih _ _).session, (ih _ _).access⟩

end Session

end SchemaCatalog
