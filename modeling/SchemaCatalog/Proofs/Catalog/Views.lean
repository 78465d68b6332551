import Mathlib.Data.List.Forall2
import SchemaCatalog.Proofs.Catalog.Atomicity
import SchemaCatalog.Proofs.Catalog.Consistency
import SchemaCatalog.Proofs.Catalog.Emptying
import SchemaCatalog.Proofs.Named.Sessions

/-!
# New views

`Catalog.views_created_from_names` says of any store when a `CREATE VIEW` is refused, and what it
adds otherwise. Of the query, nothing counts but its text and the names that it reads from, in the
order in which they come up: the first one that no object has is what the request is refused for,
and otherwise each of them, however often it comes up, makes for one dependency. Which order that
is, does not matter to what the view depends on.

A name stands for the oldest of all objects that have it (`Store.IsOldest`), so that different names
stand for different objects. Therefore it makes no difference whether repetitions are left out
before the names are looked up or afterwards (`forall₂_eraseDups`).
-/

namespace SchemaCatalog

/-! ### Leaving out repetitions -/

/-- If each element of a list belongs to one of another list, and no two to the same one, the lists
have their repetitions at the same places. -/
theorem forall₂_eraseDups {α β : Type} [BEq α] [LawfulBEq α] [BEq β] [LawfulBEq β]
    {R : α → β → Prop} (hR : Relator.BiUnique R) {l : List α} {l' : List β}
    (h : List.Forall₂ R l l') : List.Forall₂ R l.eraseDups l'.eraseDups := by
  match l, l', h with
  | [], [], .nil => exact .nil
  | a :: rest, b :: rest', .cons hab hrest =>
    rw [List.eraseDups_cons, List.eraseDups_cons]
    refine .cons hab (forall₂_eraseDups hR (List.rel_filter (fun c c' hc => ?_) hrest))
    have hsame : c = a ↔ c' = b :=
      ⟨fun heq => hR.2 (heq ▸ hc) hab, fun heq => hR.1 (heq ▸ hc) hab⟩
    simp [hsame]
termination_by l.length
decreasing_by exact Nat.lt_succ_of_le (List.length_filter_le _ _)

namespace Store

variable {s : Store} {name : String} {names : List String}

/-! ### What names stand for -/

/-- Some object has a name. -/
def Carries (s : Store) (name : String) : Prop := ∃ o ∈ s.objects, o.name = name

instance (s : Store) (name : String) : Decidable (s.Carries name) :=
  inferInstanceAs (Decidable (∃ o ∈ s.objects, _))

/-- Of all objects that have a name, the oldest one has the given number. -/
def IsOldest (s : Store) (name : String) (id : Id) : Prop :=
  ∃ o ∈ s.objects, o.name = name ∧ o.id = id ∧ ∀ o' ∈ s.objects, o'.name = name → id ≤ o'.id

theorem Valid.isOldest_of_oldest? (hs : s.Valid) {o : ObjectRow} (h : s.oldest? name = some o) :
    s.IsOldest name o.id := by
  obtain ⟨ho, hname, hleast⟩ := hs.oldest?_eq_some_iff.mp h
  exact ⟨o, ho, hname, rfl, hleast⟩

theorem oldest?_eq_none_iff : s.oldest? name = none ↔ ¬ s.Carries name := by
  simp [oldest?, Carries]

/-- Different names stand for different objects. -/
theorem Valid.isOldest_biUnique (hs : s.Valid) : Relator.BiUnique s.IsOldest := by
  constructor
  · rintro n n' id ⟨o, ho, rfl, hid, -⟩ ⟨o', ho', rfl, hid', -⟩
    rw [hs.object_numbers.eq_of_number_eq ho ho' (hid.trans hid'.symm)]
  · rintro n id id' ⟨o, ho, hname, rfl, hleast⟩ ⟨o', ho', hname', rfl, hleast'⟩
    exact Int.le_antisymm (hleast o' ho' hname') (hleast' o ho hname)

/-! ### Views that fail -/

/-- A view of a name cannot be created in a database if it is to read from the given names. -/
inductive ViewFails (s : Store) (databaseId : Id) (name : String) (names : List String) :
    CatalogError → Prop
  /-- No object has one of the names, and it is the first such name. -/
  | missing {reference : String}
      (hfirst : names.find? (fun n => ¬ s.Carries n) = some reference) :
      ViewFails s databaseId name names (.notFound .reference reference)
  /-- An object of the database has the name of the view. -/
  | taken (hall : ∀ n ∈ names, s.Carries n) {o : ObjectRow} (ho : o ∈ s.objects)
      (hdb : o.databaseId = databaseId) (hname : o.name = name) :
      ViewFails s databaseId name names (.alreadyExists (.object o.kind) name)

/-- A view does not fail if all names are those of objects and its own is free. -/
theorem not_viewFails_iff {databaseId : Id} :
    (∀ e, ¬ s.ViewFails databaseId name names e) ↔
      (∀ n ∈ names, s.Carries n) ∧
        ∀ o ∈ s.objects, o.databaseId = databaseId → o.name ≠ name := by
  constructor
  · intro h
    have hall : ∀ n ∈ names, s.Carries n := by
      cases hfirst : names.find? fun n => ¬ s.Carries n with
      | some n => exact absurd (.missing hfirst) (h _)
      | none => simpa using hfirst
    exact ⟨hall, fun o ho hdb hname => h _ (.taken hall ho hdb hname)⟩
  · rintro ⟨hall, hfree⟩ e hfails
    cases hfails with
    | missing hfirst =>
      have hmissing := List.find?_some hfirst
      exact of_decide_eq_true hmissing (hall _ (List.mem_of_find?_eq_some hfirst))
    | taken _ ho hdb hname => exact hfree _ ho hdb hname

/-- A name that an object of the database has is not free. -/
theorem Valid.requireFree_of_mem (hs : s.Valid) {o : ObjectRow} (ho : o ∈ s.objects) :
    s.requireFree o.databaseId (.text o.name) =
      .error (.of (.alreadyExists (.object o.kind) o.name)) := by
  have hfind : s.object? o.databaseId o.name = some o := by
    refine find?_eq_some_of_unique ho (decide_eq_true ⟨rfl, rfl⟩) fun o' ho' hsame => ?_
    obtain ⟨hdb, hname⟩ := of_decide_eq_true hsame
    exact List.inj_on_of_nodup_map hs.object_names ho' ho (Prod.ext hdb hname)
  rw [requireFree, requireStorable_text, ok_bind, Label.stored?, Option.bind_some, hfind]

end Store

namespace Session

variable {x : Session} {s : Store} {d : DatabaseRow} {name : String} {names : List String}
  {q : Query NonemptyString}

/-! ### Looking up names -/

/-- Names are looked up one by one, up to the first that no object has. -/
theorem resolve_text (hs : s.Valid) (names : List String) :
    match names.find? (fun n => ¬ s.Carries n) with
    | some n => resolve s (names.map .text) = .error (.of (.notFound .reference n))
    | none => ∃ ids, resolve s (names.map .text) = .ok ids ∧ List.Forall₂ s.IsOldest names ids := by
  induction names with
  | nil => exact ⟨[], rfl, .nil⟩
  | cons n rest ih =>
    rw [List.map_cons, resolve, requireStorable_text, ok_bind, Label.stored?, Option.bind_some]
    cases hfind : s.oldest? n with
    | none =>
      rw [List.find?_cons_of_pos (by simpa using Store.oldest?_eq_none_iff.mp hfind)]
    | some o =>
      have hcarries : s.Carries n := by
        by_contra hnone
        rw [Store.oldest?_eq_none_iff.mpr hnone] at hfind
        cases hfind
      rw [List.find?_cons_of_neg (by simpa using hcarries)]
      cases hrest : rest.find? (fun n => ¬ s.Carries n) with
      | some n' =>
        rw [hrest] at ih
        dsimp only at ih ⊢
        rw [ih]
        rfl
      | none =>
        rw [hrest] at ih
        obtain ⟨ids, hids, hall⟩ := ih
        refine ⟨o.id :: ids, ?_, .cons (hs.isOldest_of_oldest? hfind) hall⟩
        dsimp only
        rw [hids]
        rfl

/-- Names that objects have are all found. -/
theorem exists_resolve (hs : s.Valid) (hall : ∀ n ∈ names, s.Carries n) :
    ∃ ids, resolve s (names.map .text) = .ok ids ∧ List.Forall₂ s.IsOldest names ids := by
  have hresolve := resolve_text hs names
  have hnone : names.find? (fun n => ¬ s.Carries n) = none := by simpa using hall
  rwa [hnone] at hresolve

/-! ### The request -/

/-- What a session takes a query to read from are the given names. -/
def ReadsAs (x : Session) (q : Query NonemptyString) (names : List String) : Prop :=
  x.visitor q.view = names.map .text

/-- Unless a session has a visitor of its own, these are the names of all relations of the query. -/
theorem readsAs_relationNames (current : Option Selection) (q : Query NonemptyString) :
    ReadsAs { current } q (q.relationNames.map (·.text)) := by
  rw [ReadsAs, List.map_map]
  rfl

section

variable (hs : s.Valid) (hx : x.WorksIn s d) (hq : x.ReadsAs q names)

include hs hx hq

/-- A `CREATE VIEW` in the selected database looks its names up and then creates the view. -/
theorem run_createView_eq_bind (name : String) :
    x.run s (.createView name q.view) = resolve s (names.map .text) >>= fun ids =>
      (s.createView d.id name (.text q.text.text) ids.eraseDups).map fun r =>
        ⟨r.2, x.current, none, some (.createdView name ids.eraseDups.length)⟩ := by
  obtain ⟨sel, hselected, hid⟩ := hx.selected hs
  obtain ⟨-, sel', hcurrent, -⟩ := hx
  have hsome : x.current ≠ none := by simp [hcurrent]
  rw [run_createView, references_eq_ok hsome hq, ok_bind, hselected, ok_bind, hid]
  refine congrArg _ (funext fun ids => ?_)
  show (s.createView d.id name (.text q.text.text) ids.eraseDups >>= _) = _
  cases s.createView d.id name (.text q.text.text) ids.eraseDups <;> rfl

/-- A view that fails is not created. -/
theorem answer_createView_of_viewFails {e : CatalogError} (h : s.ViewFails d.id name names e) :
    (x.handle (.createView name q.view) (.ready s)).answer = .error e := by
  have hrun := run_createView_eq_bind hs hx hq name
  cases h with
  | missing hfirst =>
    have hresolve := resolve_text hs names
    rw [hfirst] at hresolve
    dsimp only at hresolve
    rw [hresolve, error_bind] at hrun
    rw [handle_eq, attempt, hrun]
    rfl
  | @taken hall o ho hdb hname =>
    obtain ⟨ids, hids, -⟩ := exists_resolve hs hall
    subst hname
    rw [hids, ok_bind, Store.createView_eq_bind, Store.requireNewView, requireReadable_text,
      ok_bind, ← hdb, hs.requireFree_of_mem ho, error_bind] at hrun
    rw [handle_eq, attempt, hrun]
    rfl

/-- A view that does not fail is created. -/
theorem handle_createView (h : ∀ e, ¬ s.ViewFails d.id name names e) :
    ∃ ids, List.Forall₂ s.IsOldest names.eraseDups ids ∧
      x.handle (.createView name q.view) (.ready s) =
        ⟨.ok none, [.createdView name ids.length], x,
          .ready (s.withView (s.nextObject .view d.id name) q.text.text ids)⟩ := by
  obtain ⟨hall, hfree⟩ := Store.not_viewFails_iff.mp h
  obtain ⟨ids, hids, holdest⟩ := exists_resolve hs hall
  have hfind : s.object? d.id name = none :=
    List.find?_eq_none.mpr fun o ho hsame =>
      hfree o ho (of_decide_eq_true hsame).1 (of_decide_eq_true hsame).2
  have hexist : ∀ id ∈ ids.eraseDups, id ∈ s.objects.map (·.id) :=
    fun id hid => mem_of_resolve hids id (List.mem_eraseDups.mp hid)
  obtain ⟨hcreate, -⟩ := Store.createView_of_free hs hx.mem hfind q.text.text hexist
    (nodup_eraseDups ids)
  have hrun := run_createView_eq_bind hs hx hq name
  rw [hids, ok_bind, hcreate] at hrun
  refine ⟨ids.eraseDups, forall₂_eraseDups hs.isOldest_biUnique holdest, ?_⟩
  rw [handle_eq, attempt, hrun]
  rfl

/-- Why a `CREATE VIEW` is refused. -/
theorem answer_createView_eq_error_iff {e : CatalogError} :
    (x.handle (.createView name q.view) (.ready s)).answer = .error e ↔
      s.ViewFails d.id name names e := by
  refine ⟨fun h => ?_, answer_createView_of_viewFails hs hx hq⟩
  by_cases hfails : ∃ e', s.ViewFails d.id name names e'
  · obtain ⟨e', he'⟩ := hfails
    rw [answer_createView_of_viewFails hs hx hq he'] at h
    rwa [← Except.error.inj h]
  · obtain ⟨ids, -, heq⟩ := handle_createView hs hx hq (not_exists.mp hfails)
    rw [heq] at h
    cases h

/-- A `CREATE VIEW` succeeds if its view does not fail. -/
theorem answer_createView_eq_ok_iff :
    (x.handle (.createView name q.view) (.ready s)).answer = .ok none ↔
      ∀ e, ¬ s.ViewFails d.id name names e := by
  constructor
  · intro h e he
    rw [answer_createView_of_viewFails hs hx hq he] at h
    cases h
  · intro h
    obtain ⟨ids, -, heq⟩ := handle_createView hs hx hq h
    rw [heq]

end

end Session

open Session

namespace Catalog

/-- **Creating a view.** However a catalog has been used, whichever session has selected the
database: a `CREATE VIEW` is refused because of the first name that no object has, or else because
the name of the view is taken, and then nothing changes. Otherwise one object and one view are
added, and one dependency for each name, which leads to the oldest object that has it. For queries
of one text it makes no difference in which order and how often they read from the same names.

The names are those of all relations of the query, or what the session takes them to be. -/
theorem views_created_from_names (sessions : List Session) (us : List Usage) :
    (∀ current q, ReadsAs { current } q (q.relationNames.map (·.text))) ∧
    ∃ s, ((start sessions).useAll us).access = .ready s ∧
      ∀ (x : Session) (d : DatabaseRow) (name : String) (q : Query NonemptyString)
        (names : List String), x.WorksIn s d → x.ReadsAs q names →
        let outcome (q : Query NonemptyString) := x.handle (.createView name q.view) (.ready s)
        let fails := s.ViewFails d.id name names
        (∀ e, (outcome q).answer = .error e ↔ fails e) ∧
        (∀ e, (outcome q).answer = .error e →
          (outcome q).session = x ∧ (outcome q).access = .ready s) ∧
        ((∀ e, ¬ fails e) → (outcome q).answer = .ok none ∧ (outcome q).session = x ∧
          ∃ ids, List.Forall₂ s.IsOldest names.eraseDups ids ∧ (outcome q).access =
            .ready (s.withView (s.nextObject .view d.id name) q.text.text ids)) ∧
        ∀ q' names', q'.text = q.text → x.ReadsAs q' names' → (∀ n, n ∈ names' ↔ n ∈ names) →
          ((outcome q').answer = .ok none ↔ (outcome q).answer = .ok none) ∧
          ((outcome q).answer = .ok none → ∃ t t', (outcome q).access = .ready t ∧
            (outcome q').access = .ready t' ∧ t'.dependencies.Perm t.dependencies ∧
            t' = { t with dependencies := t'.dependencies }) := by
  refine ⟨readsAs_relationNames, ?_⟩
  obtain ⟨s, hs, hvalid⟩ := useAll_ready (c := start sessions) rfl Store.valid_empty us
  refine ⟨s, hs, fun x d name q names hx hq => ?_⟩
  intro outcome fails
  refine ⟨fun e => answer_createView_eq_error_iff hvalid hx hq, fun e he => handle_of_error he,
    fun hnone => ?_, fun q' names' htext hq' hnames => ?_⟩
  · obtain ⟨ids, hids, heq⟩ := handle_createView hvalid hx hq hnone
    exact ⟨congrArg Outcome.answer heq, congrArg Outcome.session heq, ids, hids,
      congrArg Outcome.access heq⟩
  · have hfails : (∀ e, ¬ s.ViewFails d.id name names' e) ↔ ∀ e, ¬ fails e := by
      rw [Store.not_viewFails_iff, Store.not_viewFails_iff]
      simp only [hnames]
    refine ⟨?_, fun hanswer => ?_⟩
    · rw [answer_createView_eq_ok_iff hvalid hx hq', hfails,
        answer_createView_eq_ok_iff hvalid hx hq]
    · have hnone := (answer_createView_eq_ok_iff hvalid hx hq).mp hanswer
      obtain ⟨ids, hids, heq⟩ := handle_createView hvalid hx hq hnone
      obtain ⟨ids', hids', heq'⟩ := handle_createView hvalid hx hq' (hfails.mpr hnone)
      have hperm : names'.eraseDups.Perm names.eraseDups :=
        (List.perm_ext_iff_of_nodup (nodup_eraseDups _) (nodup_eraseDups _)).mpr
          fun n => by rw [List.mem_eraseDups, List.mem_eraseDups, hnames]
      refine ⟨_, _, congrArg Outcome.access heq, congrArg Outcome.access heq', ?_, ?_⟩
      · exact (((List.rel_perm hvalid.isOldest_biUnique hids' hids).mp hperm).map _).append_left _
      · rw [htext]
        rfl

/-- Of two tables of one name, a view reads from the older one, which is in another database. It
does so however deep in the query the name stands. A view cannot read from itself. -/
theorem views_created_from_names_nested :
    let us : List Usage := [.event (.request 0 (.createDatabase "a")),
      .event (.request 0 (.createTable "t" [])), .event (.request 0 (.createDatabase "b")),
      .event (.request 0 (.use "b")), .event (.request 0 (.createTable "t" [])),
      .event (.request 0 (.createTable "u" []))]
    let t : NonemptyString := ⟨"t", by decide⟩
    let u : NonemptyString := ⟨"u", by decide⟩
    let v : NonemptyString := ⟨"v", by decide⟩
    let text : NonemptyString := ⟨"q", by decide⟩
    let nested : Query NonemptyString := .mk text [u] [.mk text [t] [.mk text [u, t] []]]
    let flat : Query NonemptyString := .mk text [t, u] []
    let itself : Query NonemptyString := .mk text [u, v] []
    let x : Session := { current := some ⟨2, "b"⟩ }
    ∃ s s₁ s₂, ((start [{}]).useAll us).access = .ready s ∧
      (x.handle (.createView "v" nested.view) (.ready s)).access = .ready s₁ ∧
      s₁.dependencies = [⟨4, 3⟩, ⟨4, 1⟩] ∧
      (x.handle (.createView "v" flat.view) (.ready s)).access = .ready s₂ ∧
      s₂.dependencies.Perm s₁.dependencies ∧
      (x.handle (.createView "v" itself.view) (.ready s)).answer =
        .error (.notFound .reference "v") ∧
      (x.handle (.createView "u" nested.view) (.ready s)).answer =
        .error (.alreadyExists (.object .table) "u") := by
  intro us t u v text nested flat itself x
  obtain ⟨hreads, s, hs, h⟩ := views_created_from_names [{}] us
  have hvalid : s.Valid := by
    obtain ⟨s', hs', hvalid⟩ := useAll_ready (c := start [{}]) rfl Store.valid_empty us
    rwa [Access.ready.inj (hs.symm.trans hs')]
  have hrows : s.databases = [⟨1, "a"⟩, ⟨2, "b"⟩] ∧ s.dependencies = [] ∧ s.lastObject = 3 ∧
      s.objects = [⟨1, .table, "t", 1⟩, ⟨2, .table, "t", 2⟩, ⟨3, .table, "u", 2⟩] := by
    have hstore : ((start [{}]).useAll us).access =
        .ready ⟨[⟨1, "a"⟩, ⟨2, "b"⟩],
          [⟨1, .table, "t", 1⟩, ⟨2, .table, "t", 2⟩, ⟨3, .table, "u", 2⟩], [1, 2, 3], [], [], [],
          2, 3, 0⟩ := by
      decide +kernel
    rw [Access.ready.inj (hs.symm.trans hstore)]
    exact ⟨rfl, rfl, rfl, rfl⟩
  obtain ⟨hdatabases, hdependencies, hlast, hobjects⟩ := hrows
  have hview := fun name q => h x ⟨2, "b"⟩ name q (q.relationNames.map (·.text))
    ⟨by simp [hdatabases], _, rfl, rfl⟩ (hreads _ q)
  have hall : ∀ n ∈ nested.relationNames.map (·.text), s.Carries n := by
    show ∀ n ∈ ["u", "t", "u", "t"], s.Carries n
    simp [Store.Carries, hobjects]
  have hnone : ∀ e, ¬ s.ViewFails 2 "v" (nested.relationNames.map (·.text)) e :=
    Store.not_viewFails_iff.mpr ⟨hall, by simp [hobjects]⟩
  obtain ⟨-, -, hok, hsame⟩ := hview "v" nested
  obtain ⟨hanswer, -, ids, hids, haccess⟩ := hok hnone
  obtain ⟨s₁, s₂, hs₁, hs₂, hperm, -⟩ := (hsame flat _ rfl (hreads _ flat) (by
    show ∀ n, n ∈ ["t", "u"] ↔ n ∈ ["u", "t", "u", "t"]
    simp [or_comm])).2 hanswer
  refine ⟨s, s₁, s₂, hs, hs₁, ?_, hs₂, hperm, ?_, ?_⟩
  · obtain rfl := Access.ready.inj (haccess.symm.trans hs₁)
    have holdest : List.Forall₂ s.IsOldest ["u", "t"] [3, 1] :=
      .cons ⟨⟨3, .table, "u", 2⟩, by simp [hobjects], rfl, rfl, by simp [hobjects]⟩
        (.cons ⟨⟨1, .table, "t", 1⟩, by simp [hobjects], rfl, rfl, by simp [hobjects]⟩ .nil)
    obtain rfl := List.right_unique_forall₂' hvalid.isOldest_biUnique.2 hids holdest
    simp [Store.withView, Store.nextObject, hdependencies, hlast]
  · refine ((hview "v" itself).1 _).mpr (.missing ?_)
    show ["u", "v"].find? (fun n => ¬ s.Carries n) = some "v"
    simp [Store.Carries, hobjects]
  · exact ((hview "u" nested).1 _).mpr
      (.taken hall (o := ⟨3, .table, "u", 2⟩) (by simp [hobjects]) rfl rfl)

end Catalog

end SchemaCatalog
