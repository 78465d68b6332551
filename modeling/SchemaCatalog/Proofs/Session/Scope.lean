import SchemaCatalog.Proofs.Session.Edits
import SchemaCatalog.Proofs.Store.Scope

/-!
# Requests inside one database

The six kinds of requests that are about the selected database (`Request.isScoped`) look first
whether it still exists. If it does, the selection stays, and of all objects only those are affected
that are of this database and that the request creates, drops or alters (`Session.run_keeps`). So
all that has changed belongs to the database (`Session.run_onlyIn`).

If the database does not exist any more, these requests are refused (`Session.run_of_gone`). The one
thing that comes before that look is the list of the names that a view is to read from, which can be
unreadable (`Session.Lists`).
-/

namespace SchemaCatalog

/-- Whether a request is about the selected database. -/
def Request.isScoped (r : Request) : Bool := r.kind?.any (·.isScoped)

@[simp] theorem Statement.isScoped_request (stmt : Statement) :
    stmt.request.isScoped = stmt.kind.isScoped := by
  cases stmt <;> rfl

/-- A request creates an object of this kind and name, if it succeeds. -/
def Request.Creates : Request → ObjectRow → Prop
  | .createTable name _, o => o.kind = .table ∧ name.stored? = some o.name
  | .createView name _, o => o.kind = .view ∧ name.stored? = some o.name
  | _, _ => False

/-- A request drops or alters an object of this kind and name, if it succeeds. -/
def Request.AimsAt : Request → ObjectRow → Prop
  | .drop kind names, o => o.kind = kind ∧ ∃ name ∈ names, name.stored? = some o.name
  | .alterTable name _, o => o.kind = .table ∧ name.stored? = some o.name
  | _, _ => False

instance (r : Request) (o : ObjectRow) : Decidable (r.AimsAt o) :=
  match r with
  | .drop _ _ | .alterTable _ _ => inferInstanceAs (Decidable (_ ∧ _))
  | .createDatabase _ | .use _ | .dropDatabase _ | .createTable _ _ | .showTables | .explainTable _
  | .createView _ _ | .other _ | .malformed _ => inferInstanceAs (Decidable False)

/-- The names of what a request reads from can be had, if it creates a view. -/
def Session.Lists (x : Session) : Request → Prop
  | .createView _ query => ∀ name ∈ x.visitor query, requireReadable name = .ok ()
  | _ => True

end SchemaCatalog

namespace SchemaCatalog.Session

open Store (Keeps OnlyIn NotAmong)

variable {x : Session} {s s' : Store} {databaseId : Id} {P : ObjectRow → Prop} [DecidablePred P]

/-! ### Dropping and altering -/

/-- The first of some names is that of an object, which is removed before the others are looked for.
-/
theorem dropNames_cons_eq_ok {kind : ObjectKind} {name : Label} {rest : List Label}
    (h : dropNames databaseId kind s (name :: rest) = .ok s') :
    ∃ o ∈ s.objects, o.databaseId = databaseId ∧ o.kind = kind ∧ name.stored? = some o.name ∧
      ∃ s₁, s.removeObject? o.id = some s₁ ∧ dropNames databaseId kind s₁ rest = .ok s' := by
  rw [dropNames_cons] at h
  obtain ⟨⟨n, s₁⟩, hdrop, h⟩ := bind_eq_ok_iff.mp h
  dsimp only at h
  split at h
  · simp at h
  · rename_i hn
    rcases Store.cases_of_dropObject hdrop with ⟨hn', -⟩ | ⟨o, ho, hin, hkind, hname, hremove⟩
    · exact absurd hn' hn
    · exact ⟨o, ho, hin, hkind, hname, s₁, hremove, h⟩

theorem dropNames_keeps (hs : s.Valid) {kind : ObjectKind} {names : List Label}
    (hP : ∀ o ∈ s.objects, o.databaseId = databaseId → (Request.drop kind names).AimsAt o → ¬ P o)
    (h : dropNames databaseId kind s names = .ok s') : Keeps s s' P := by
  induction names generalizing s with
  | nil =>
    obtain rfl := Except.ok.inj h
    exact .refl
  | cons name rest ih =>
    obtain ⟨o, ho, hin, hkind, hname, s₁, hremove, h⟩ := dropNames_cons_eq_ok h
    have hvalid : s₁.Valid := hs.removeObject hremove
    have hkeeps : Keeps s s₁ P := Store.removeObject_keeps
      (hs.notAmong ho (hP o ho hin ⟨hkind, name, List.mem_cons_self, hname⟩)) hremove
    obtain ⟨-, rfl⟩ := Store.removeObject?_eq_some_iff.mp hremove
    refine hkeeps.trans (ih hvalid (fun o' ho' hin' haims => ?_) h)
    obtain ⟨hkind', name', hname', hstored⟩ := haims
    have hmem : o' ∈ s.objects := (List.mem_filter.mp ho').1
    exact hP o' hmem hin' ⟨hkind', name', List.mem_cons_of_mem _ hname', hstored⟩

/-- After some names have been dropped, no object of the database has one of them. -/
theorem mem_objects_of_dropNames (hs : s.Valid) {kind : ObjectKind} {names : List Label}
    (h : dropNames databaseId kind s names = .ok s') {o : ObjectRow} (ho : o ∈ s'.objects) :
    o ∈ s.objects ∧ (o.databaseId = databaseId → ∀ name ∈ names, name.stored? ≠ some o.name) := by
  induction names generalizing s with
  | nil =>
    obtain rfl := Except.ok.inj h
    exact ⟨ho, fun _ _ hname => absurd hname List.not_mem_nil⟩
  | cons name rest ih =>
    obtain ⟨dropped, hdropped, hin, -, hname, s₁, hremove, h⟩ := dropNames_cons_eq_ok h
    obtain ⟨hmem, hrest⟩ := ih (hs.removeObject hremove) h
    obtain ⟨-, rfl⟩ := Store.removeObject?_eq_some_iff.mp hremove
    obtain ⟨hmem, hleft⟩ := List.mem_filter.mp hmem
    refine ⟨hmem, fun hin' => List.forall_mem_cons.mpr ⟨fun hsame => ?_, hrest hin'⟩⟩
    -- the database has no other object of the name of the one that has been dropped
    have hplace : (o.databaseId, o.name) = (dropped.databaseId, dropped.name) :=
      Prod.ext (hin'.trans hin.symm) (Option.some.inj (hsame.symm.trans hname))
    have heq : o = dropped := List.inj_on_of_nodup_map hs.object_names hmem hdropped hplace
    exact of_decide_eq_true hleft (congrArg ObjectRow.id heq)

/-- A table that is looked up is one of the tables of the database, and has the name. -/
theorem mem_of_lookUpTable {name : Label} {o : ObjectRow}
    (h : lookUpTable databaseId name s = .ok o) :
    o ∈ s.objects ∧ o.databaseId = databaseId ∧ o.kind = .table ∧ name.stored? = some o.name := by
  obtain ⟨-, -, h⟩ := bind_eq_ok_iff.mp h
  split at h
  · simp at h
  · rename_i o' ho
    obtain rfl := Except.ok.inj h
    obtain ⟨text, hname, ho⟩ := Option.bind_eq_some_iff.mp ho
    have hfound := List.find?_some ho
    obtain ⟨hin, hkind, rfl⟩ := of_decide_eq_true hfound
    exact ⟨List.mem_of_find?_eq_some ho, hin, hkind, hname⟩

/-- What is altered are the columns of one table: those that are added belong to it, and those that
are dropped have the numbers of columns that it had. -/
theorem alter_keeps {tableId : Id} {before : List ColumnRow} {operations : List AlterRequest}
    (htable : s.NotAmong P tableId)
    (hbefore : ∀ c ∈ before, ∀ c' ∈ s.columns, c'.id = c.id → c'.tableId = tableId)
    (h : alter tableId before s operations = .ok s') : Keeps s s' P := by
  induction operations generalizing s with
  | nil =>
    obtain rfl := Except.ok.inj h
    exact .refl
  | cons operation rest ih =>
    cases operation with
    | addColumn column =>
      rw [alter_addColumn] at h
      obtain ⟨⟨row, s₁⟩, hadd, h⟩ := bind_eq_ok_iff.mp h
      rw [Store.addColumn_eq_bind] at hadd
      obtain ⟨-, -, hadd⟩ := bind_eq_ok_iff.mp hadd
      split at hadd
      · rename_i result hrow
        obtain rfl := Except.ok.inj hadd
        have hkeeps : Keeps s s₁ P := Store.insertColumn_keeps htable hrow
        obtain ⟨name, dataType, -, -, -, -, rfl, rfl⟩ := Store.insertColumn?_eq_some_iff.mp hrow
        refine hkeeps.trans (ih htable (fun c hc c' hc' hid => ?_) h)
        rcases List.mem_append.mp hc' with hc' | hc'
        · exact hbefore c hc c' hc' hid
        · rw [List.mem_singleton.mp hc']
      · simp at hadd
    | dropColumn name =>
      rw [alter_dropColumn] at h
      obtain ⟨c, hfind, h⟩ := bind_eq_ok_iff.mp h
      obtain ⟨-, -, hfind⟩ := bind_eq_ok_iff.mp hfind
      split at hfind
      · simp at hfind
      · rename_i c₁ hc₁
        obtain rfl := Except.ok.inj hfind
        have hc := hbefore c₁ (List.mem_of_find?_eq_some hc₁)
        have hkeeps : Keeps s (s.removeColumn c₁.id) P :=
          Store.removeColumn_keeps fun c' hc' hid => hc c' hc' hid ▸ htable
        exact hkeeps.trans (ih htable
          (fun c hc c' hc' => hbefore c hc c' (List.mem_filter.mp hc').1) h)
    | other label => simp at h
    | unreadable flaw => simp at h

/-! ### The selected database -/

/-- A selection of a database that exists. -/
theorem selected_of_mem {sel : Selection} (hx : x.current = some sel) (hs : s.Valid)
    {d : DatabaseRow} (hd : d ∈ s.databases) (hid : d.id = sel.id) : x.selected s = .ok sel := by
  have hfind : s.databaseById? sel.id = some d :=
    hs.database_numbers.find?_eq_some_iff.mpr ⟨hd, hid⟩
  rw [selected, hx]
  simp only [hfind]

/-- A selection of a database that does not exist any more. -/
theorem selected_of_gone {sel : Selection} (hx : x.current = some sel)
    (hgone : sel.id ∉ s.databases.map (·.id)) :
    x.selected s = .error (.of (.notFound .database sel.name)) := by
  have hfind : s.databaseById? sel.id = none := by
    refine List.find?_eq_none.mpr fun d hd hid => hgone ?_
    exact List.mem_map.mpr ⟨d, hd, of_decide_eq_true hid⟩
  rw [selected, hx]
  simp only [hfind]

/-! ### Requests -/

/-- A request about the selected database keeps the selection, and all objects but those of that
database that it creates, drops or alters. -/
theorem run_keeps (hs : s.Valid) {r : Request} (hscoped : r.isScoped = true) {e : Effect}
    (h : x.run s r = .ok e) :
    ∃ sel, x.selected s = .ok sel ∧ e.current = x.current ∧
      ∀ (P : ObjectRow → Prop) [DecidablePred P],
        (∀ o, o.databaseId = sel.id →
          r.Creates o ∧ o.id = s.lastObject + 1 ∨ r.AimsAt o ∧ o ∈ s.objects → ¬ P o) →
        Keeps s e.store P := by
  cases carriesOut_of_run h with
  | createDatabase | use | dropDatabase => exact absurd hscoped Bool.false_ne_true
  | @createTable name columns sel row s' hsel hcreate =>
    refine ⟨sel, hsel, rfl, fun P _ hP => Store.createTable_keeps hs hcreate ?_⟩
    obtain ⟨text, hname, rfl, -⟩ := Store.createTable_row hcreate
    exact hP _ rfl (.inl ⟨⟨rfl, hname⟩, rfl⟩)
  | @drop kind names sel s' hsel hdrop =>
    refine ⟨sel, hsel, rfl, fun P _ hP => dropNames_keeps hs (fun o ho hin haims => ?_) hdrop⟩
    exact hP o hin (.inr ⟨haims, ho⟩)
  | @alterTable name operations sel table s' hsel htable halter =>
    obtain ⟨ho, hin, hkind, hname⟩ := mem_of_lookUpTable htable
    refine ⟨sel, hsel, rfl, fun P _ hP => alter_keeps ?_ (fun c hc c' hc' hid => ?_) halter⟩
    · exact hs.notAmong ho (hP table hin (.inr ⟨⟨hkind, hname⟩, ho⟩))
    · obtain ⟨hc, hid'⟩ := List.mem_filter.mp hc
      rw [hs.column_numbers.eq_of_number_eq hc' hc hid]
      exact of_decide_eq_true hid'
  | showTables hsel => exact ⟨_, hsel, rfl, fun _ _ _ => .refl⟩
  | explainTable hsel => exact ⟨_, hsel, rfl, fun _ _ _ => .refl⟩
  | @createView name query sel ids row s' hsel _ hcreate =>
    refine ⟨sel, hsel, rfl, fun P _ hP => Store.createView_keeps hs hcreate ?_⟩
    obtain ⟨text, hname, rfl, -⟩ := Store.createView_row hcreate
    exact hP _ rfl (.inl ⟨⟨rfl, hname⟩, rfl⟩)

/-- What a request about the selected database changes belongs to that database, and the selection
is kept. -/
theorem run_onlyIn (hs : s.Valid) {r : Request} (hscoped : r.isScoped = true) {e : Effect}
    (h : x.run s r = .ok e) :
    ∃ sel, x.selected s = .ok sel ∧ OnlyIn s e.store sel.id ∧ e.current = x.current := by
  obtain ⟨sel, hsel, hcurrent, hkeeps⟩ := run_keeps hs hscoped h
  have hother : Keeps s e.store (·.databaseId ≠ sel.id) :=
    hkeeps _ fun _ hin _ hout => hout hin
  exact ⟨sel, hsel, hother.onlyIn, hcurrent⟩

/-- A request about the selected database leaves the session as it is, whatever becomes of it, and
changes nothing outside of the database. -/
theorem handle_onlyIn (hs : s.Valid) {r : Request} (hscoped : r.isScoped = true) :
    ∃ s', (x.handle r (.ready s)).access = .ready s' ∧ (x.handle r (.ready s)).session = x ∧
      s'.Valid ∧ s'.databases = s.databases ∧
      ∀ sel, x.selected s = .ok sel → OnlyIn s s' sel.id := by
  rw [handle_eq, attempt]
  cases hrun : x.run s r with
  | error f => exact ⟨s, rfl, rfl, hs, rfl, fun _ _ => .refl⟩
  | ok e =>
    obtain ⟨sel, hsel, honly, hcurrent⟩ := run_onlyIn hs hscoped hrun
    have hedits : Store.Edits .resolved s e.store := run_edits hrun fun _ => rfl
    have hsession : { x with current := e.current } = x := by rw [hcurrent]
    refine ⟨e.store, rfl, hsession, hedits.valid hs, honly.databases, fun sel' hsel' => ?_⟩
    obtain rfl := Except.ok.inj (hsel.symm.trans hsel')
    exact honly

/-- A request about the selected database is refused when it does not exist any more. -/
theorem run_of_gone {sel : Selection} (hx : x.current = some sel)
    (hgone : sel.id ∉ s.databases.map (·.id)) {r : Request} (hscoped : r.isScoped = true)
    (hlists : x.Lists r) : x.run s r = .error (.of (.notFound .database sel.name)) := by
  have hsel := selected_of_gone hx hgone
  cases r with
  | createDatabase | use | dropDatabase | other | malformed =>
    exact absurd hscoped Bool.false_ne_true
  | createTable | drop | alterTable | showTables | explainTable =>
    simp only [run_createTable, run_drop, run_alterTable, run_showTables, run_explainTable, hsel,
      error_bind]
  | createView name query =>
    have hreferences : x.references query = .ok (x.visitor query) := by
      rw [references, if_neg (by simp [hx]), forM_eq_ok hlists, ok_bind]
    rw [run_createView, hreferences, ok_bind, hsel, error_bind]

end SchemaCatalog.Session
