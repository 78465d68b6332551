import SchemaCatalog.Proofs.Named.Abstraction
import SchemaCatalog.Proofs.Session.Scope

/-!
# Agreement of stores and their named forms

`Named.Agree R x y` says that a computation `x` on a store and a computation `y` on names either
both succeed, with results that are related by `R`, or both fail with the same error. Agreement is
kept when computations go on with what they have been given (`Named.Agree.bind`), so it can be shown
part by part.

`Named.Points` relates selections, which hold on to the number of a database, to pointers: a
selection is stale when its number has been given out and no database has it any more. While it
lasts, a store can be changed in two ways with regard to databases: none has been dropped
(`Named.Points.mono`), or a single one has (`Named.Points.lost`).
-/

namespace SchemaCatalog.Named

/-! ### Computations -/

/-- Both computations succeed with related results, or both fail with the same error. -/
inductive Agree {α β : Type} (R : α → β → Prop) : Except Failure α → Except CatalogError β → Prop
  | ok {a : α} {b : β} (h : R a b) : Agree R (.ok a) (.ok b)
  | error (f : Failure) : Agree R (.error f) (.error f.error)

namespace Agree

variable {α β γ δ : Type} {R : α → β → Prop} {S : γ → δ → Prop} {x : Except Failure α}
  {y : Except CatalogError β}

theorem bind {f : α → Except Failure γ} {g : β → Except CatalogError δ} (h : Agree R x y)
    (hfg : ∀ a b, x = .ok a → R a b → Agree S (f a) (g b)) : Agree S (x >>= f) (y >>= g) := by
  cases h with
  | ok hab => exact hfg _ _ rfl hab
  | error f => exact .error f

theorem map {f : α → γ} {g : β → δ} (h : Agree R x y)
    (hfg : ∀ a b, x = .ok a → R a b → S (f a) (g b)) : Agree S (x.map f) (y.map g) := by
  cases h with
  | ok hab => exact .ok (hfg _ _ rfl hab)
  | error f => exact .error f

theorem mono {R' : α → β → Prop} (h : Agree R x y) (hR : ∀ a b, x = .ok a → R a b → R' a b) :
    Agree R' x y := by
  cases h with
  | ok hab => exact .ok (hR _ _ rfl hab)
  | error f => exact .error f

/-- What agrees with a failure fails in the same way. -/
theorem eq_error {f : Failure} (h : Agree R (.error f) y) : y = .error f.error := by
  cases h
  rfl

end Agree

/-! ### Selections -/

/-- A pointer tells what has been selected and whether it still exists. -/
inductive Points (s : SchemaCatalog.Store) : Option Selection → Pointer → Prop
  | nothing : Points s none .nothing
  | selected {id : Id} {name : String} (h : (⟨id, name⟩ : DatabaseRow) ∈ s.databases) :
      Points s (some ⟨id, .text name⟩) (.selected name)
  | stale {id : Id} {name : String} (hle : id ≤ s.lastDatabase)
      (hgone : id ∉ s.databases.map (·.id)) : Points s (some ⟨id, .text name⟩) (.stale name)

namespace Points

variable {s s' : SchemaCatalog.Store} {current : Option Selection} {p : Pointer}
  {d : DatabaseRow}

/-- Whether a database is selected that still exists. -/
theorem selected_agree {x : Session} (h : Points s current p) (hs : s.Valid)
    (hx : x.current = current) :
    Agree (fun sel name => (⟨sel.id, name⟩ : DatabaseRow) ∈ s.databases) (x.selected s)
      p.database := by
  cases h with
  | nothing =>
    rw [Session.selected, hx]
    exact .error _
  | selected hmem =>
    rw [Session.selected_of_mem hx hs hmem rfl]
    exact .ok hmem
  | stale _ hgone =>
    rw [Session.selected_of_gone hx hgone]
    exact .error _

/-- A selection stays what it is as long as no database is dropped. -/
theorem mono (h : Points s current p) (hstore : s.Evolves s')
    (hkept : s.databases ⊆ s'.databases) : Points s' current p := by
  cases h with
  | nothing => exact .nothing
  | selected hmem => exact .selected (hkept hmem)
  | stale hle hgone =>
    exact .stale (Int.le_trans hle hstore.lastDatabase_le) (hstore.database_gone hle hgone)

/-- Who creates a database selects it, unless something is selected already. -/
theorem created (h : Points s current p) (hstore : s.Evolves s')
    (hdatabases : s'.databases = s.databases ++ [d]) :
    Points s' (some (current.getD ⟨d.id, .text d.name⟩)) (p.created d.name) := by
  have hkept : s.databases ⊆ s'.databases := hdatabases ▸ List.subset_append_left _ _
  cases h with
  | nothing => exact .selected (hdatabases ▸ List.mem_append_right _ List.mem_cons_self)
  | selected hmem => exact (Points.selected hmem).mono hstore hkept
  | stale hle hgone => exact (Points.stale hle hgone).mono hstore hkept

/-- When a database is dropped, selections of it become stale, and no others. -/
theorem lost (h : Points s current p) (hs : s.Valid) (hd : d ∈ s.databases)
    (hlast : s'.lastDatabase = s.lastDatabase)
    (hdatabases : s'.databases = s.databases.filter (·.id ≠ d.id)) :
    Points s' current (p.lost d.name) := by
  have hdropped : d.id ∉ s'.databases.map (·.id) := by
    rw [hdatabases]
    simp
  cases h with
  | nothing => exact .nothing
  | @selected id name hmem =>
    by_cases hname : name = d.name
    · obtain rfl : ⟨id, name⟩ = d := List.inj_on_of_nodup_map hs.database_names hmem hd hname
      rw [Pointer.lost, if_pos rfl]
      exact .stale (hlast ▸ (hs.database_numbers.bounds _ (List.mem_map_of_mem hd)).2) hdropped
    · rw [Pointer.lost, if_neg (by simpa using hname)]
      refine .selected (hdatabases ▸ List.mem_filter.mpr ⟨hmem, decide_eq_true fun hid => hname ?_⟩)
      rw [← hs.database_numbers.eq_of_number_eq hmem hd hid]
  | @stale id name hle hgone =>
    rw [Pointer.lost, if_neg (by simp)]
    refine .stale (hlast ▸ hle) fun hback => hgone ?_
    rw [hdatabases] at hback
    obtain ⟨d', hd', hid⟩ := List.mem_map.mp hback
    exact List.mem_map.mpr ⟨d', (List.mem_filter.mp hd').1, hid⟩

/-- Who drops a selected database has selected nothing afterwards. -/
theorem givenUp (h : Points s current p) (hs : s.Valid) (hd : d ∈ s.databases)
    (hlast : s'.lastDatabase = s.lastDatabase)
    (hdatabases : s'.databases = s.databases.filter (·.id ≠ d.id)) :
    Points s' (current.filter (·.id ≠ d.id)) (p.givenUp d.name) := by
  by_cases hp : p = .selected d.name
  · subst hp
    cases h with
    | @selected id _ hmem =>
      have hid : id = d.id :=
        congrArg (·.id) (List.inj_on_of_nodup_map hs.database_names hmem hd rfl)
      rw [Pointer.givenUp, if_pos rfl, Option.filter_some_neg (by simpa using hid)]
      exact .nothing
  · have hlost := h.lost hs hd hlast hdatabases
    rw [Pointer.lost, if_neg hp] at hlost
    -- nothing else that is selected has the number of the database
    have hother : ∀ sel ∈ current, sel.id ≠ d.id := by
      rintro sel hsel hid
      cases h with
      | nothing => simp at hsel
      | @selected id name hmem =>
        obtain rfl := Option.some.inj hsel
        obtain rfl := hs.database_numbers.eq_of_number_eq hmem hd hid
        exact hp rfl
      | @stale id name _ hgone =>
        obtain rfl := Option.some.inj hsel
        exact hgone (List.mem_map.mpr ⟨d, hd, hid.symm⟩)
    rw [Pointer.givenUp, if_neg hp]
    cases current with
    | none => exact hlost
    | some sel =>
      rw [Option.filter_some, if_pos (decide_eq_true (hother sel rfl))]
      exact hlost

end Points

end SchemaCatalog.Named
