import SchemaCatalog.Proofs.Catalog.Consistency
import SchemaCatalog.Proofs.Catalog.Listing
import SchemaCatalog.Proofs.Console.Reporting

/-!
# Reading printed rows back

Rows are printed on a line each, with tabs between their fields, and nothing in a field is escaped.
As long as the fields are legible, that is, have no tab, line feed or escape character in them, the
rows can still be told from the text: `readRows` cuts it into lines and these into fields, and gets
back what has been printed (`readRows_rowsText`). Fields may be empty or consist of blanks. A text
without a line has no rows, and an empty line is a row of one empty field.

What a session prints for a `SHOW TABLES` or an `EXPLAIN TABLE` can therefore be read back if the
names and data types in the store are legible, and it is the same for two databases exactly if they
have the same tables, or the same columns in the same order (`Session.printed_rows_read_back`).
-/

namespace SchemaCatalog

/-! ### Lines and rows of a text -/

namespace Text

/-- The lines of a text, each with its end: the text is cut after each line feed. What follows the
last line feed, if anything does, is a line without an end. -/
def cutLines : List Char → List (List Char)
  | [] => []
  | c :: rest =>
    if c = '\n' then [c] :: cutLines rest
    else
      match cutLines rest with
      | [] => [[c]]
      | line :: lines => (c :: line) :: lines

/-- A text is cut after its first line feed. -/
theorem cutLines_append {line : List Char} (h : '\n' ∉ line) (rest : List Char) :
    cutLines (line ++ '\n' :: rest) = (line ++ ['\n']) :: cutLines rest := by
  induction line with
  | nil => rw [List.nil_append, cutLines, if_pos rfl, List.nil_append]
  | cons c line ih =>
    obtain ⟨hc, hline⟩ := not_or.mp (List.mem_cons.not.mp h)
    rw [List.cons_append, cutLines, if_neg (Ne.symm hc), ih hline]
    rfl

/-- A text that can be told from what stands around it where rows are printed. -/
structure IsLegible (s : String) : Prop where
  tab : '\t' ∉ s.toList
  lineFeed : '\n' ∉ s.toList
  escape : escapeChar ∉ s.toList

instance (s : String) : Decidable (IsLegible s) :=
  decidable_of_iff ('\t' ∉ s.toList ∧ '\n' ∉ s.toList ∧ escapeChar ∉ s.toList)
    ⟨fun h => ⟨h.1, h.2.1, h.2.2⟩, fun h => ⟨h.tab, h.lineFeed, h.escape⟩⟩

end Text

/-- The row on a line: its fields are what stands between the tabs. -/
def Row.ofLine (line : List Char) : Row :=
  ((line.takeWhile (· ≠ '\n')).splitOn '\t').map String.ofList

/-- The rows of a text, one for each line. -/
def readRows (text : String) : List Row := (Text.cutLines text.toList).map Row.ofLine

/-- A row that can be told from its line. -/
structure Row.IsLegible (row : Row) : Prop where
  ne_nil : row ≠ []
  fields : ∀ field ∈ row, Text.IsLegible field

namespace Row.IsLegible

variable {row : Row}

theorem isPlain (h : row.IsLegible) : row.IsPlain :=
  fun field hfield => (h.fields field hfield).escape

theorem lineFeed_notMem (h : row.IsLegible) : '\n' ∉ (String.intercalate "\t" row).toList :=
  Row.notMem_intercalate (by decide) fun field hfield => (h.fields field hfield).lineFeed

/-- The fields of a legible row are what stands between the tabs of its line. -/
theorem ofLine_rowText (h : row.IsLegible) : ofLine (rowText row) = row := by
  have hline : (rowText row).takeWhile (· ≠ '\n') = ['\t'].intercalate (row.map String.toList) := by
    rw [rowText, List.takeWhile_append_of_pos, String.toList_intercalate]
    · simp
    · intro c hc
      exact decide_eq_true fun heq => h.lineFeed_notMem (heq ▸ hc)
  have htabs : ∀ field ∈ row.map String.toList, '\t' ∉ field := by
    intro cs hcs
    obtain ⟨field, hfield, rfl⟩ := List.mem_map.mp hcs
    exact (h.fields field hfield).tab
  have hne : row.map String.toList ≠ [] := List.map_eq_nil_iff.not.mpr h.ne_nil
  have hid : String.ofList ∘ String.toList = id := funext fun _ => String.ofList_toList
  rw [ofLine, hline, List.splitOn_intercalate '\t' htabs hne, List.map_map, hid, List.map_id]

end Row.IsLegible

/-- The text of legible rows has one line for each row. -/
theorem cutLines_rowsText {rows : List Row} (h : ∀ row ∈ rows, row.IsLegible) :
    Text.cutLines (rowsText rows).toList = rows.map rowText := by
  rw [toList_rowsText fun row hrow => (h row hrow).isPlain]
  induction rows with
  | nil => rfl
  | cons row rest ih =>
    obtain ⟨hrow, hrest⟩ := List.forall_mem_cons.mp h
    rw [List.flatMap_cons, rowText, List.append_assoc, List.singleton_append,
      Text.cutLines_append hrow.lineFeed_notMem, ih hrest, List.map_cons, rowText]

/-- The rows that are read off the text of legible rows are these rows. -/
theorem readRows_rowsText {rows : List Row} (h : ∀ row ∈ rows, row.IsLegible) :
    readRows (rowsText rows) = rows := by
  rw [readRows, cutLines_rowsText h, List.map_map]
  exact (List.map_congr_left fun row hrow => (h row hrow).ofLine_rowText).trans (List.map_id rows)

/-- A field with a tab in it is taken for two. -/
example : readRows (rowsText [["a\tb"]]) = [["a", "b"]] := by cbv

/-- Legible rows are told apart by their texts. -/
theorem rowsText_eq_iff {rows rows' : List Row} (h : ∀ row ∈ rows, row.IsLegible)
    (h' : ∀ row ∈ rows', row.IsLegible) : rowsText rows = rowsText rows' ↔ rows = rows' := by
  refine ⟨fun heq => ?_, congrArg rowsText⟩
  calc
    rows = readRows (rowsText rows) := (readRows_rowsText h).symm
    _ = readRows (rowsText rows') := congrArg readRows heq
    _ = rows' := readRows_rowsText h'

/-! ### What is shown of a database -/

/-- A statement that shows rows. -/
def Statement.ShowsRows (stmt : Statement) : Prop :=
  stmt = .showTables ∨ ∃ name, stmt = .explainTable name

namespace Store

variable {s s' : Store} {d d' : DatabaseRow} {stmt : Statement} {rows rows' : List Row}

/-- A store that comes up in the use of a catalog. -/
def IsReached (s : Store) : Prop :=
  ∃ sessions us, ((Catalog.start sessions).useAll us).access = .ready s

theorem IsReached.valid (h : s.IsReached) : s.Valid := by
  obtain ⟨sessions, us, hs⟩ := h
  obtain ⟨s', hs', hvalid⟩ := Catalog.useAll_ready (c := Catalog.start sessions) rfl valid_empty us
  obtain rfl := Access.ready.inj (hs.symm.trans hs')
  exact hvalid

/-- A store in which the names of objects and columns and the data types are legible. -/
structure IsLegible (s : Store) : Prop where
  objects : ∀ o ∈ s.objects, Text.IsLegible o.name
  columns : ∀ c ∈ s.columns, Text.IsLegible c.name ∧ Text.IsLegible c.dataType

instance (s : Store) : Decidable s.IsLegible :=
  decidable_of_iff ((∀ o ∈ s.objects, Text.IsLegible o.name) ∧
      ∀ c ∈ s.columns, Text.IsLegible c.name ∧ Text.IsLegible c.dataType)
    ⟨fun h => ⟨h.1, h.2⟩, fun h => ⟨h.objects, h.columns⟩⟩

/-- A database has a table of a name, with the given columns in their order. -/
def HasColumns (s : Store) (databaseId : Id) (name : String) (columns : List Named.Column) : Prop :=
  ∃ o ∈ s.objects, o.databaseId = databaseId ∧ o.kind = .table ∧ o.name = name ∧
    (s.columnsOf o.id).map (·.named) = columns

/-- A database has one table of a name at most. -/
theorem Valid.eq_of_hasColumns (hs : s.Valid) {id : Id} {name : String}
    {columns columns' : List Named.Column} (h : s.HasColumns id name columns)
    (h' : s.HasColumns id name columns') : columns = columns' := by
  obtain ⟨o, ho, hdb, -, hname, rfl⟩ := h
  obtain ⟨o', ho', hdb', -, hname', rfl⟩ := h'
  rw [hs.eq_of_name_eq ho ho' (hdb.trans hdb'.symm) (hname.trans hname'.symm)]

/-- The rows that a statement shows of a database. -/
inductive Shows (s : Store) (d : DatabaseRow) : Statement → List Row → Prop
  | tables : Shows s d .showTables ((s.names d.id .table).map fun name => [name])
  | columns {name : NonemptyString} {columns : List Named.Column}
      (h : s.HasColumns d.id name.text columns) :
      Shows s d (.explainTable name) (columns.map Named.Column.row)

/-- Two databases are alike in what a statement shows: they have the same tables, or their tables of
the name have the same columns in the same order. -/
inductive ShownAlike (s : Store) (d : DatabaseRow) (s' : Store) (d' : DatabaseRow) :
    Statement → Prop
  | tables (h : ∀ name, s.HasTable d.id name ↔ s'.HasTable d'.id name) :
      ShownAlike s d s' d' .showTables
  | columns {name : NonemptyString} {columns : List Named.Column}
      (h : s.HasColumns d.id name.text columns) (h' : s'.HasColumns d'.id name.text columns) :
      ShownAlike s d s' d' (.explainTable name)

/-- What is shown of a legible store is legible. -/
theorem Shows.isLegible (h : s.Shows d stmt rows) (hs : s.IsLegible) :
    ∀ row ∈ rows, row.IsLegible := by
  intro row hrow
  cases h with
  | tables =>
    obtain ⟨name, hname, rfl⟩ := List.mem_map.mp hrow
    obtain ⟨o, ho, -, -, rfl⟩ := mem_names_iff.mp hname
    exact ⟨List.cons_ne_nil _ _, List.forall_mem_singleton.mpr (hs.objects o ho)⟩
  | columns hcolumns =>
    obtain ⟨o, -, -, -, -, rfl⟩ := hcolumns
    rw [map_row_named] at hrow
    obtain ⟨c, hc, rfl⟩ := List.mem_map.mp hrow
    obtain ⟨hname, hdataType⟩ := hs.columns c (List.mem_filter.mp hc).1
    have hmark : Text.IsLegible (if c.isPrimaryKey then Session.primaryKeyMark else "") := by
      cases c.isPrimaryKey <;> decide
    refine ⟨List.cons_ne_nil _ _, ?_⟩
    exact List.forall_mem_cons.mpr ⟨hname, List.forall_mem_cons.mpr
      ⟨hdataType, List.forall_mem_singleton.mpr hmark⟩⟩

/-- The same rows are shown of two databases exactly if they are alike. -/
theorem Shows.eq_iff (hs : s.Valid) (hs' : s'.Valid) (h : s.Shows d stmt rows)
    (h' : s'.Shows d' stmt rows') : rows = rows' ↔ s.ShownAlike d s' d' stmt := by
  cases h with
  | tables =>
    cases h' with
    | tables =>
      have hinjective : Function.Injective fun name : String => [name] :=
        fun _ _ h => (List.cons.inj h).1
      rw [(List.map_injective_iff.mpr hinjective).eq_iff]
      constructor
      · intro hnames
        exact .tables fun name => by rw [← mem_names_iff, hnames, mem_names_iff]
      · -- names are shown in strict order, so they are told by which there are
        rintro ⟨htables⟩
        refine (hs.pairwise_names d.id).eq_of_mem_iff (hs'.pairwise_names d'.id) fun name => ?_
        rw [mem_names_iff, mem_names_iff, htables]
  | columns h =>
    cases h' with
    | columns h' =>
      rw [(List.map_injective_iff.mpr Named.Column.row_injective).eq_iff]
      constructor
      · rintro rfl
        exact .columns h h'
      · intro halike
        cases halike with
        | columns hcolumns hcolumns' =>
          exact (hs.eq_of_hasColumns h hcolumns).trans (hs'.eq_of_hasColumns hcolumns' h')

end Store

namespace Session

variable {x : Session} {s : Store} {a : Access} {line : String} {stmt : Statement}

/-! ### Lines that show rows -/

/-- A line with a statement that shows rows, and succeeds. -/
structure Displays (x : Session) (a : Access) (line : String) (stmt : Statement) : Prop where
  read : Statement.read line = .ok stmt
  shows : stmt.ShowsRows
  succeeded : (x.runLine line a).succeeded = true

/-- A statement that shows rows is handled alike whether or not the store can be changed. -/
theorem attempt_of_showsRows (hshows : stmt.ShowsRows) (ha : a.store? = some s) :
    x.attempt stmt.request a = x.run s stmt.request := by
  cases a with
  | ready s₁ =>
    obtain rfl := Option.some.inj ha
    rfl
  | readOnly s₁ =>
    obtain rfl := Option.some.inj ha
    obtain rfl | ⟨name, rfl⟩ := hshows <;> rfl
  | broken outage => cases ha

/-- A session that displays rows works in a database, and the rows are what is shown of it. -/
theorem Displays.exists_shows (h : x.Displays a line stmt) (ha : a.store? = some s) :
    ∃ d rows, x.WorksIn s d ∧ s.Shows d stmt rows ∧
      (x.runLine line a).ReportsRows (x.handle stmt.request a) (some rows) := by
  cases hattempt : x.attempt stmt.request a with
  | error f =>
    have hfailed := (reportsError_of_attempt h.read hattempt).failed
    rw [h.succeeded] at hfailed
    cases hfailed
  | ok e =>
    have hreports := reportsRows_of_attempt h.read hattempt
    rw [attempt_of_showsRows h.shows ha] at hattempt
    obtain rfl | ⟨name, rfl⟩ := h.shows
    · cases carriesOut_of_run hattempt with
      | @showTables sel hsel =>
        obtain ⟨d, hd, hid⟩ := mem_of_selected hsel
        exact ⟨d, _, ⟨hd, sel, current_of_selected hsel, hid⟩, .tables, hid ▸ hreports⟩
    · cases carriesOut_of_run hattempt with
      | @explainTable _ sel table hsel htable =>
        obtain ⟨d, hd, hid⟩ := mem_of_selected hsel
        obtain ⟨ho, hdb, hkind, hname⟩ := mem_of_lookUpTable htable
        have hcolumns : s.HasColumns d.id name.text ((s.columnsOf table.id).map (·.named)) :=
          ⟨table, ho, hdb.trans hid.symm, hkind, (Option.some.inj hname).symm, rfl⟩
        refine ⟨d, _, ⟨hd, sel, current_of_selected hsel, hid⟩, .columns hcolumns, ?_⟩
        rw [map_row_named]
        exact hreports

/-- **Reading back.** However a catalog has been used, as long as the names and data types in its
store are legible, whether or not the store can still be changed, and for every session: what is
printed for a `SHOW TABLES` or an `EXPLAIN TABLE` that succeeds consists of lines that are ended,
and the rows that are read off it are those of the answer. Another such catalog prints the same text
for the statement exactly if the selected databases have the same tables, or their tables of the
name have columns of the same names, data types and marks in the same order. -/
theorem printed_rows_read_back {s : Store} (hs : s.IsReached) (hlegible : s.IsLegible) {a : Access}
    (ha : a.store? = some s) {x : Session} {line : String} {stmt : Statement}
    (h : x.Displays a line stmt) :
    ∃ rows, (x.handle stmt.request a).answer = .ok (some rows) ∧
      (∀ printed ∈ Text.cutLines (x.runLine line a).output.toList, ['\n'] <:+ printed) ∧
      readRows (x.runLine line a).output = rows ∧
      ∀ (s' : Store) (a' : Access) (x' : Session) (line' : String), s'.IsReached → s'.IsLegible →
        a'.store? = some s' → x'.Displays a' line' stmt →
          ∃ d d', x.WorksIn s d ∧ x'.WorksIn s' d' ∧
            ((x.runLine line a).output = (x'.runLine line' a').output ↔
              s.ShownAlike d s' d' stmt) := by
  obtain ⟨d, rows, hworks, hshows, hreports⟩ := h.exists_shows ha
  have hrows := hshows.isLegible hlegible
  have houtput : (x.runLine line a).output = rowsText rows := hreports.output
  refine ⟨rows, hreports.answer, ?_, ?_, ?_⟩
  · rw [houtput, cutLines_rowsText hrows]
    intro printed hprinted
    obtain ⟨row, -, rfl⟩ := List.mem_map.mp hprinted
    exact List.suffix_append _ _
  · rw [houtput, readRows_rowsText hrows]
  · intro s' a' x' line' hs' hlegible' ha' h'
    obtain ⟨d', rows', hworks', hshows', hreports'⟩ := h'.exists_shows ha'
    have houtput' : (x'.runLine line' a').output = rowsText rows' := hreports'.output
    refine ⟨d, d', hworks, hworks', ?_⟩
    rw [houtput, houtput', rowsText_eq_iff hrows (hshows'.isLegible hlegible')]
    exact hshows.eq_iff hs.valid hs'.valid hshows'

/-- Two tables have come to the same columns in different ways. The second one is in a store that
can only be read. Names and data types are blanks or empty, and the first row ends in an empty
field. -/
theorem printed_rows_read_back_blanks :
    let us : List Usage := [.event (.request 0 (.createDatabase "d")),
      .event (.request 0 (.createTable "t" [⟨" ", "", false⟩, ⟨"\r", "INT", true⟩]))]
    let us' : List Usage := [.event (.request 0 (.createDatabase "e")),
      .event (.request 1 (.createDatabase "d")),
      .event (.request 0 (.createTable "t" [⟨"\r", "INT", true⟩])),
      .event (.request 1 (.createTable "t" [⟨"x", "INT", true⟩, ⟨" ", "", false⟩])),
      .event (.request 1 (.alterTable "t" [.addColumn ⟨"\r", "INT", true⟩, .dropColumn "x"]))]
    let line := "\x7b\"kind\": \"explain_table\", \"name\": \"t\"\x7d"
    let stmt : Statement := .explainTable ⟨"t", by decide⟩
    let x : Session := { current := some ⟨1, "d"⟩ }
    let x' : Session := { current := some ⟨2, "d"⟩ }
    ∃ s s', ((Catalog.start [{}]).useAll us).access = .ready s ∧
      ((Catalog.start [{}, {}]).useAll us').access = .ready s' ∧ s.IsLegible ∧ s'.IsLegible ∧
      x.Displays (.ready s) line stmt ∧ x'.Displays (.readOnly s') line stmt ∧
      readRows (x.runLine line (.ready s)).output = [[" ", "", ""], ["\r", "INT", "PRI"]] ∧
      (x.runLine line (.ready s)).output = (x'.runLine line (.readOnly s')).output := by
  have hread : Statement.read "\x7b\"kind\": \"explain_table\", \"name\": \"t\"\x7d" =
      .ok (.explainTable ⟨"t", by decide⟩) := rfl
  intro us us' line stmt x x'
  let s : Store := ⟨[⟨1, "d"⟩], [⟨1, .table, "t", 1⟩], [1], [],
    [⟨1, 1, " ", "", false⟩, ⟨2, 1, "\r", "INT", true⟩], [], 1, 1, 2⟩
  let s' : Store := ⟨[⟨1, "e"⟩, ⟨2, "d"⟩], [⟨1, .table, "t", 1⟩, ⟨2, .table, "t", 2⟩], [1, 2], [],
    [⟨1, 1, "\r", "INT", true⟩, ⟨3, 2, " ", "", false⟩, ⟨4, 2, "\r", "INT", true⟩], [], 2, 2, 4⟩
  have hs : ((Catalog.start [{}]).useAll us).access = .ready s := by decide +kernel
  have hs' : ((Catalog.start [{}, {}]).useAll us').access = .ready s' := by decide +kernel
  have hlegible : s.IsLegible := by decide
  have hlegible' : s'.IsLegible := by decide
  have hx : x.Displays (.ready s) line stmt :=
    ⟨hread, .inr ⟨_, rfl⟩, (reportsRows_of_attempt hread rfl).succeeded⟩
  have hx' : x'.Displays (.readOnly s') line stmt :=
    ⟨hread, .inr ⟨_, rfl⟩, (reportsRows_of_attempt hread rfl).succeeded⟩
  obtain ⟨rows, hanswer, -, hrows, htold⟩ :=
    printed_rows_read_back ⟨[{}], us, hs⟩ hlegible rfl hx
  obtain rfl : [[" ", "", ""], ["\r", "INT", "PRI"]] = rows := by
    have hshown : (x.handle stmt.request (.ready s)).answer =
        .ok (some [[" ", "", ""], ["\r", "INT", "PRI"]]) := rfl
    exact Option.some.inj (Except.ok.inj (hshown.symm.trans hanswer))
  obtain ⟨d, d', hd, hd', hprinted⟩ :=
    htold s' (.readOnly s') x' line ⟨[{}, {}], us', hs'⟩ hlegible' rfl hx'
  obtain ⟨-, sel, hsel, hid⟩ := hd
  obtain ⟨-, sel', hsel', hid'⟩ := hd'
  obtain rfl := Option.some.inj hsel
  obtain rfl := Option.some.inj hsel'
  let columns : List Named.Column := [⟨" ", "", false⟩, ⟨"\r", "INT", true⟩]
  have hcolumns : s.HasColumns d.id "t" columns :=
    ⟨⟨1, .table, "t", 1⟩, by decide, hid.symm, rfl, rfl, rfl⟩
  have hcolumns' : s'.HasColumns d'.id "t" columns :=
    ⟨⟨2, .table, "t", 2⟩, by decide, hid'.symm, rfl, rfl, rfl⟩
  have halike : s.ShownAlike d s' d' stmt := .columns hcolumns hcolumns'
  exact ⟨s, s', hs, hs', hlegible, hlegible', hx, hx', hrows, hprinted.mpr halike⟩

end Session

end SchemaCatalog
