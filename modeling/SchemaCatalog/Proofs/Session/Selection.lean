import SchemaCatalog.Proofs.Session.Scope

/-!
# What becomes of a selection

`Session.Reselects` lists all that a request can do to the selection of the session that makes it.
Two things follow. A selection fits the store at all times: its number has been given out, and if a
database has that number, it has the name that was selected (`Selection.Fits`). And a selection of a
database that does not exist any more is kept, unless the session makes a `USE`
(`Session.Reselects.eq_of_gone`): `CREATE DATABASE` selects only if nothing is selected, and
`DROP DATABASE` gives up only what it drops.
-/

namespace SchemaCatalog

variable {s s' : Store} {current current' : Option Selection} {sel : Selection} {d : DatabaseRow}

/-! ### Selections and stores -/

/-- The number of a selection has been given out, and if there is a database of that number, its
name is the one that was selected. -/
structure Selection.Fits (sel : Selection) (s : Store) : Prop where
  id_le : sel.id ≤ s.lastDatabase
  name : ∀ d ∈ s.databases, d.id = sel.id → sel.name.stored? = some d.name

/-- A selection fits later stores as well, since no number comes back. -/
theorem Selection.Fits.mono (h : sel.Fits s) (hlater : s.Evolves s') : sel.Fits s' where
  id_le := Int.le_trans h.id_le hlater.lastDatabase_le
  name _ hd hid := h.name _ (hlater.databases.mem_of_le hd (hid ▸ h.id_le)) hid

/-- The selection of a database that exists. -/
theorem Store.Valid.selection_fits (hs : s.Valid) (hd : d ∈ s.databases) {name : Label}
    (hname : name.stored? = some d.name) : (⟨d.id, name⟩ : Selection).Fits s where
  id_le := (hs.database_numbers.bounds _ (List.mem_map_of_mem hd)).2
  name d' hd' hid := by rw [hname, hs.database_numbers.eq_of_number_eq hd' hd hid]

namespace Session

variable {x : Session}

/-! ### Selecting -/

/-- What a request that succeeds does to the selection, when it takes the store from `s` to `s'`. -/
inductive Reselects (s s' : Store) : Option Selection → Request → Option Selection → Prop
  | kept {current : Option Selection} {r : Request} : Reselects s s' current r current
  /-- `USE` selects a database that exists. -/
  | used {current : Option Selection} {name : Label} {d : DatabaseRow} (hd : d ∈ s.databases) :
      Reselects s s' current (.use name) (some ⟨d.id, d.name⟩)
  /-- `CREATE DATABASE` selects the new database, if nothing is selected. -/
  | created {name : Label} {d : DatabaseRow} (hd : d ∈ s'.databases)
      (hname : name.stored? = some d.name) :
      Reselects s s' none (.createDatabase name) (some ⟨d.id, name⟩)
  /-- `DROP DATABASE` gives up the selection of what it drops. -/
  | dropped {current : Option Selection} {name : Label} {d : DatabaseRow} (hd : d ∈ s.databases) :
      Reselects s s' current (.dropDatabase name) (current.filter (·.id ≠ d.id))

/-- A database that is looked up is there, and has the name that was looked up. -/
theorem mem_of_lookUpDatabase {name : Label} (h : lookUpDatabase name s = .ok d) :
    d ∈ s.databases ∧ name.stored? = some d.name := by
  obtain ⟨-, -, h⟩ := bind_eq_ok_iff.mp h
  split at h
  · simp at h
  · rename_i d' hd
    obtain rfl := Except.ok.inj h
    obtain ⟨text, hname, hd⟩ := Option.bind_eq_some_iff.mp hd
    have hfound := List.find?_some hd
    obtain rfl := of_decide_eq_true hfound
    exact ⟨List.mem_of_find?_eq_some hd, hname⟩

theorem run_reselects (hs : s.Valid) {r : Request} {e : Effect} (h : x.run s r = .ok e) :
    Reselects s e.store x.current r e.current := by
  by_cases hscoped : r.isScoped = true
  · obtain ⟨-, -, -, hcurrent⟩ := run_onlyIn hs hscoped h
    rw [hcurrent]
    exact .kept
  · cases carriesOut_of_run h with
    | createDatabase hcreate =>
      obtain ⟨text, hname, hrow⟩ := Store.createDatabase_eq_ok hcreate
      obtain ⟨-, rfl, rfl⟩ := Store.insertDatabase?_eq_some_iff.mp hrow
      cases hcurrent : x.current with
      | some sel => exact .kept
      | none => exact .created (List.mem_append_right _ List.mem_cons_self) hname
    | use hrow => exact .used (mem_of_lookUpDatabase hrow).1
    | dropDatabase hrow => exact .dropped (mem_of_lookUpDatabase hrow).1
    | _ => exact absurd rfl hscoped

namespace Reselects

variable {r : Request}

/-- Selections fit the store after every request that succeeds. -/
theorem fits (h : Reselects s s' current r current') (hs : s.Valid) (hs' : s'.Valid)
    (hlater : s.Evolves s') (hfits : ∀ sel ∈ current, sel.Fits s) :
    ∀ sel ∈ current', sel.Fits s' := by
  intro sel hsel
  cases h with
  | kept => exact (hfits sel hsel).mono hlater
  | used hd =>
    obtain rfl := Option.some.inj hsel
    exact (hs.selection_fits hd rfl).mono hlater
  | created hd hname =>
    obtain rfl := Option.some.inj hsel
    exact hs'.selection_fits hd hname
  | dropped hd => exact (hfits sel (Option.mem_filter_iff.mp hsel).1).mono hlater

/-- A selection of a database that does not exist any more is kept by everything but `USE`. -/
theorem eq_of_gone (h : Reselects s s' (some sel) r current')
    (hgone : sel.id ∉ s.databases.map (·.id)) (hr : ∀ name, r ≠ .use name) :
    current' = some sel := by
  cases h with
  | kept => rfl
  | used hd => exact absurd rfl (hr _)
  | @dropped _ _ d hd =>
    have hne : sel.id ≠ d.id := fun hid => hgone (hid ▸ List.mem_map_of_mem hd)
    rw [Option.filter_some, if_pos (decide_eq_true hne)]

end Reselects

end Session

end SchemaCatalog
