import SchemaCatalog.Proofs.Statement.Reports

/-!
# Statements are checked against the grammar

`Statement.check_reports_faults` says what becomes of any value that is handed over as a statement,
as long as no more queries are nested in one another than can be followed
(`Json.Value.IsWithinLimit`): a value of the grammar is accepted, and for any other value there is a
list of everything that is wrong with it, in order and each where it is.

Of queries, which may be nested, this is shown by induction on how many more can be followed
(`Query.checkWithin_reports`). All other checks look at values of a few levels.
-/

namespace SchemaCatalog

open Json Checked

/-! ### Nested queries -/

/-- In a query, at most so many queries are nested in one another, itself included. -/
def Json.Value.NestsWithin : Nat → Value → Prop
  | 0, _ => False
  | room + 1, v => ∀ items, v.field? "subqueries" = some (.arr items) → ∀ w ∈ items,
      w.NestsWithin room

/-- The queries of a statement can all be followed. -/
def Json.Value.IsWithinLimit (v : Value) : Prop :=
  v.field? "kind" = some (.str StatementKind.createView.word) →
    ∀ q, v.field? "query" = some q → q.NestsWithin maxQueryDepth

/-! ### Simple values -/

theorem NonemptyString.check_reports (v : Value) :
    (NonemptyString.check v).Reports .text v := by
  have hother : (∀ s, v ≠ .str s) →
      (Checked.fault .notString : Checked NonemptyString).Reports .text v :=
    fun hv => .fault .notString hv
  cases v with
  | str s =>
    rw [NonemptyString.check]
    split_ifs with h
    · exact .fault .emptyString (congrArg Value.str h)
    · exact .ok _ (.text h)
  | _ => exact hother (by simp)

theorem ObjectKind.ofWord?_eq_some_iff {word : String} {kind : ObjectKind} :
    ObjectKind.ofWord? word = some kind ↔ word = kind.word := by
  rw [ObjectKind.ofWord?.eq_def]
  split
  · cases kind <;> simp [ObjectKind.word]
  · cases kind <;> simp [ObjectKind.word]
  · rename_i htable hview
    refine iff_of_false (by simp) ?_
    rintro rfl
    cases kind with
    | table => exact htable rfl
    | view => exact hview rfl

theorem ObjectKind.check_reports (v : Value) : (ObjectKind.check v).Reports .objectKind v := by
  rw [ObjectKind.check]
  cases hkind : v.text?.bind ObjectKind.ofWord? with
  | some kind =>
    obtain ⟨word, hword, hkind⟩ := Option.bind_eq_some_iff.mp hkind
    obtain rfl := ObjectKind.ofWord?_eq_some_iff.mp hkind
    cases v with
    | str s =>
      obtain rfl := Option.some.inj hword
      exact .ok kind (.objectKind kind)
    | _ => simp [Value.text?] at hword
  | none =>
    refine .fault .notObjectKind ?_
    rintro kind rfl
    rw [Value.text?, Option.bind_some, ObjectKind.ofWord?_eq_some_iff.mpr rfl] at hkind
    simp at hkind

/-- A number that counts as an integer is a truth value if that is zero or one. -/
theorem truthOfInt_reports {v : Value} {n : Int} (hv : v.truthNumber? = some n) :
    (truthOfInt n).Reports .truth v := by
  rw [truthOfInt]
  split_ifs with hone hzero
  · exact .ok _ (.truth (.number hv (.inr hone)))
  · exact .ok _ (.truth (.number hv (.inl hzero)))
  · refine .fault .unreadableBool ⟨fun htruth => ?_, .inr (by rw [hv]; rfl)⟩
    cases htruth with
    | bool b => simp [Value.truthNumber?] at hv
    | str hs => simp [Value.truthNumber?] at hv
    | number hv' hn =>
      obtain rfl := Option.some.inj (hv.symm.trans hv')
      exact hn.elim hzero hone

/-- A text is a truth value if it is one of some words. -/
theorem truthOfText_reports (s : String) : (truthOfText s).Reports .truth (.str s) := by
  rw [truthOfText]
  have hwords : lowerAscii s ∈ truthWords ↔
      ["true", "t", "yes", "y", "on", "1"].contains (lowerAscii s) = true ∨
        ["false", "f", "no", "n", "off", "0"].contains (lowerAscii s) = true := by
    simp only [truthWords, List.contains_iff_mem, ← List.mem_append]
    rfl
  split_ifs with htrue hfalse
  · exact .ok _ (.truth (.str (hwords.mpr (.inl htrue))))
  · exact .ok _ (.truth (.str (hwords.mpr (.inr hfalse))))
  · refine .fault .unreadableBool ⟨fun htruth => ?_, .inl ⟨s, rfl⟩⟩
    cases htruth with
    | str hs => exact (hwords.mp hs).elim htrue hfalse
    | number hv hn => simp [Value.truthNumber?] at hv

theorem truthValue_reports (v : Value) : (truthValue .value v).Reports .truth v := by
  -- what is neither a constant nor a text nor counts as an integer is of a wrong type
  have hother : (∀ b, v ≠ .bool b) → (∀ s, v ≠ .str s) → v.truthNumber? = none →
      (Checked.fault .notBool : Checked Bool).Reports .truth v :=
    fun hbool htext hnumber => .fault .notBool ⟨hbool, htext, hnumber⟩
  cases v with
  | bool b => exact .ok b (.truth (.bool b))
  | str s => exact truthOfText_reports s
  | int n =>
    rw [truthValue, Form.takesInt]
    split_ifs with hfits
    · exact truthOfInt_reports (by rw [Value.truthNumber?, if_pos hfits])
    · exact hother (by simp) (by simp) (by rw [Value.truthNumber?, if_neg hfits])
  | real x =>
    rw [truthValue]
    cases hx : x.toInt? with
    | none => exact hother (by simp) (by simp) (by simp [Value.truthNumber?, hx])
    | some n =>
      dsimp only
      split_ifs with hfits
      · refine truthOfInt_reports ?_
        rw [Value.truthNumber?, hx]
        exact Option.filter_some_pos (decide_eq_true hfits)
      · refine hother (by simp) (by simp) ?_
        rw [Value.truthNumber?, hx]
        exact Option.filter_some_neg (decide_eq_false hfits)
  | _ => exact hother (by simp) (by simp) rfl

/-! ### Columns and queries -/

/-- A required text. -/
theorem reportsFields_text (o : Fields) (name : String) :
    (requiredField o name NonemptyString.check).ReportsFields [.required name .text] o :=
  reportsFields_required fun w _ => NonemptyString.check_reports w

theorem ColumnDef.check_reports (v : Value) :
    (ColumnDef.check .value v).Reports (.record .columnDef) v := by
  have hother : (∀ o, v ≠ .obj o) →
      (Checked.fault (.notObject "ColumnDef") : Checked ColumnDef).Reports (.record .columnDef) v :=
    fun hv => .fault .notObject hv
  cases v with
  | obj o =>
    have hkey : (optionalField o "is_primary_key" false (truthValue .value)).ReportsFields
        [.optional "is_primary_key" .truth] o :=
      reportsFields_optional fun w _ => truthValue_reports w
    have hnames := ((reportsFields_text o "name").map ColumnDef.mk).and
      (reportsFields_text o "data_type")
    exact (hnames.and hkey).reports_record
  | _ => exact hother (by simp)

/-- As long as there is room, a query is checked as the grammar says: by induction on the room, of
which the queries that are nested in it have one less. -/
theorem Query.checkWithin_reports {room : Nat} {v : Value} (h : v.NestsWithin room) :
    (Query.checkWithin room v).Reports (.record .query) v := by
  induction room generalizing v with
  | zero => exact h.elim
  | succ room ih =>
    have hother : (∀ o, v ≠ .obj o) →
        (Checked.fault (.notObject "Query") : Checked (Query NonemptyString)).Reports
          (.record .query) v := fun hv => .fault .notObject hv
    cases v with
    | obj o =>
      have hrelations : (optionalField o "relations" []
          (checkList NonemptyString.check)).ReportsFields
            [.optional "relations" (.list .text)] o :=
        reportsFields_optional fun w _ =>
          reports_checkList fun _ _ name _ => NonemptyString.check_reports name
      have hsubqueries : (optionalField o "subqueries" []
          (checkList (Query.checkWithin room))).ReportsFields
            [.optional "subqueries" (.list (.record .query))] o := by
        refine reportsFields_optional fun w hw => reports_checkList fun items hitems q hq => ?_
        have hfield : (Value.obj o).field? "subqueries" = some (.arr items) := hitems ▸ hw
        exact ih (h items hfield q hq)
      have htext := (reportsFields_text o "text").map (Query.mk (α := NonemptyString))
      exact ((htext.and hrelations).and hsubqueries).reports_record
    | _ => exact hother (by simp)

/-! ### Operations -/

theorem Alteration.checkFields_reports (o : Fields) (kind : AlterationKind) :
    (Alteration.checkFields .value o kind).ReportsFields kind.fields o := by
  cases kind with
  | addColumn =>
    have hcolumn : (requiredField o "column_def" (ColumnDef.check .value)).ReportsFields
        [.required "column_def" (.record .columnDef)] o :=
      reportsFields_required fun w _ => ColumnDef.check_reports w
    exact hcolumn.map Alteration.addColumn
  | dropColumn => exact (reportsFields_text o "name").map Alteration.dropColumn
  | renameColumn =>
    exact ((reportsFields_text o "old_name").map Alteration.renameColumn).and
      (reportsFields_text o "new_name")

theorem Alteration.check_reports (v : Value) :
    (Alteration.check .value v).Reports (.union .alteration) v := by
  refine reports_checkTagged (u := .alteration) (fun word o hnone => ?_)
    fun word o decls _ _ hdecls => ?_
  · rw [Option.map_eq_none_iff.mp hnone]
    rfl
  · obtain ⟨kind, hkind, rfl⟩ := Option.map_eq_some_iff.mp hdecls
    exact ⟨_, by rw [hkind]; rfl, Alteration.checkFields_reports o kind⟩

/-! ### Statements -/

theorem Statement.checkFields_reports (o : Fields) (kind : StatementKind)
    (hlimit : kind = .createView → ∀ q, o.get? "query" = some q → q.NestsWithin maxQueryDepth) :
    (Statement.checkFields .value o kind).ReportsFields kind.fields o := by
  have hname := reportsFields_text o "name"
  cases kind with
  | createDatabase => exact hname.map Statement.createDatabase
  | use => exact hname.map Statement.use
  | dropDatabase => exact hname.map Statement.dropDatabase
  | createTable =>
    have hcolumns :
        (optionalField o "columns" [] (checkList (ColumnDef.check .value))).ReportsFields
          [.optional "columns" (.list (.record .columnDef))] o :=
      reportsFields_optional fun w _ => reports_checkList fun _ _ c _ => ColumnDef.check_reports c
    exact (hname.map Statement.createTable).and hcolumns
  | drop =>
    have hkind : (requiredField o "object_kind" ObjectKind.check).ReportsFields
        [.required "object_kind" .objectKind] o :=
      reportsFields_required fun w _ => ObjectKind.check_reports w
    have hnames : (requiredField o "names" (checkNonemptyList NonemptyString.check)).ReportsFields
        [.required "names" (.nonemptyList .text)] o :=
      reportsFields_required fun w _ =>
        reports_checkNonemptyList fun _ _ name _ => NonemptyString.check_reports name
    exact (hkind.map Statement.drop).and hnames
  | alterTable =>
    have hoperations : (requiredField o "operations"
        (checkNonemptyList (Alteration.check .value))).ReportsFields
          [.required "operations" (.nonemptyList (.union .alteration))] o :=
      reportsFields_required fun w _ =>
        reports_checkNonemptyList fun _ _ operation _ => Alteration.check_reports operation
    exact (hname.map Statement.alterTable).and hoperations
  | showTables => exact .ok Statement.showTables
  | explainTable => exact hname.map Statement.explainTable
  | createView =>
    have hquery : (requiredField o "query" Query.check).ReportsFields
        [.required "query" (.record .query)] o :=
      reportsFields_required fun w hw => Query.checkWithin_reports (hlimit rfl w hw)
    exact (hname.map Statement.createView).and hquery

theorem Statement.check_reports {v : Value} (hv : v.IsWithinLimit) :
    (Statement.check v).Reports (.union .statement) v := by
  refine reports_checkTagged (u := .statement) (fun word o hnone => ?_)
    fun word o decls hobj htag hdecls => ?_
  · rw [Option.map_eq_none_iff.mp hnone]
    rfl
  · obtain ⟨kind, hkind, rfl⟩ := Option.map_eq_some_iff.mp hdecls
    refine ⟨_, by rw [hkind]; rfl, Statement.checkFields_reports o kind ?_⟩
    -- a view is told by its tag, and the limit is one for views
    rintro rfl q hq
    have hword := List.find?_some hkind
    subst hobj
    refine hv ?_ q hq
    rw [of_decide_eq_true hword]
    exact htag

/-- **Validation.** A value whose queries can be followed is accepted as a statement exactly if it
is of the grammar. Any other value is refused with a list of problems that is not empty. The paths
of the problems are all different and in the order of the grammar; each problem is at the place to
which its path leads, the tags on the way left out; and there is one problem for each fault of the
value. -/
theorem Statement.check_reports_faults (v : Value) (hv : v.IsWithinLimit) :
    ((∃ stmt, Statement.check v = .ok stmt) ↔ (Shape.union .statement).Admits v) ∧
      ∀ ps, Statement.check v = .faulty ps →
        ps ≠ [] ∧ (ps.map (·.path)).Nodup ∧
        (ps.Pairwise fun p q => (Shape.union .statement).Precedes p.path q.path) ∧
        (∀ p ∈ ps, p.LocatedIn v) ∧
        ∀ p, p ∈ ps ↔ (Shape.union .statement).Faulty v p.path p.fault := by
  have hreports := Statement.check_reports hv
  refine ⟨hreports.exists_ok_iff, fun ps hps => ?_⟩
  rw [hps] at hreports
  have hordered := hreports.ordered
  refine ⟨?_, ?_, hordered, fun p hp => ((hreports.mem_iff p).mp hp).located, hreports.mem_iff⟩
  · rintro rfl
    obtain ⟨stmt, hstmt⟩ := hreports.proper rfl
    simp at hstmt
  · exact List.pairwise_map.mpr (hordered.imp fun hpq => hpq.ne)

/-- A view without a name, of a query with a number among its relations and with a nested query
without a text. -/
def Json.Value.faultyView : Value :=
  .obj [("kind", .str "create_view"), ("name", .str ""),
    ("query", .obj [("text", .str "q"), ("relations", .arr [.str "t", .int 3]),
      ("subqueries", .arr [.obj []])])]

/-- What is wrong with `Json.Value.faultyView`. -/
def Problem.ofFaultyView : List Problem :=
  [⟨[.tag "create_view", .field "name"], .emptyString⟩,
    ⟨[.tag "create_view", .field "query", .field "relations", .index 1], .notString⟩,
    ⟨[.tag "create_view", .field "query", .field "subqueries", .index 0, .field "text"], .missing⟩]

theorem Statement.check_reports_faults_view :
    Value.faultyView.IsWithinLimit ∧
      Statement.check Value.faultyView = .faulty Problem.ofFaultyView ∧
      ¬ (Shape.union .statement).Admits Value.faultyView ∧
      (∀ p ∈ Problem.ofFaultyView, p.LocatedIn Value.faultyView) ∧
      ∀ p, p ∈ Problem.ofFaultyView ↔
        (Shape.union .statement).Faulty Value.faultyView p.path p.fault := by
  have hlimit : Value.faultyView.IsWithinLimit := by
    intro _ q hq items hitems w hw
    obtain rfl := Option.some.inj hq
    obtain rfl := Value.arr.inj (Option.some.inj hitems)
    obtain rfl := List.mem_singleton.mp hw
    intro inner hinner
    cases hinner
  have hchecked : Statement.check Value.faultyView = .faulty Problem.ofFaultyView := rfl
  obtain ⟨haccepted, hrefused⟩ := Statement.check_reports_faults Value.faultyView hlimit
  obtain ⟨-, -, -, hlocated, hfaulty⟩ := hrefused _ hchecked
  refine ⟨hlimit, hchecked, fun hadmits => ?_, hlocated, hfaulty⟩
  obtain ⟨stmt, hstmt⟩ := haccepted.mpr hadmits
  simp [hchecked] at hstmt

end SchemaCatalog
