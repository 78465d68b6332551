import SchemaCatalog.Proofs.Named.Tables

/-!
# Where a loop fails

Three changes are made of smaller ones that come one after the other: the objects of a database are
dropped with it, a `DROP` goes through names, and an `ALTER TABLE` through operations. All three are
loops (`IsLoop`), and a loop fails exactly when one of its rounds fails on what the rounds before
have left (`IsLoop.eq_error_iff`). What remains to be said is when a single round fails.
-/

namespace SchemaCatalog

/-! ### Loops -/

/-- A computation goes through a list, with one round for each element: a round starts from what the
rounds before it have left. -/
structure IsLoop {σ α ε : Type} (loop : σ → List α → Except ε σ) : Prop where
  nil : ∀ s, loop s [] = .ok s
  cons : ∀ s a rest, loop s (a :: rest) = loop s [a] >>= fun s' => loop s' rest

namespace IsLoop

variable {σ α ε : Type} {loop : σ → List α → Except ε σ}

/-- A loop fails in the first round that fails. -/
theorem eq_error_iff (h : IsLoop loop) {s : σ} {l : List α} {e : ε} :
    loop s l = .error e ↔
      ∃ before a after s', l = before ++ a :: after ∧ loop s before = .ok s' ∧
        loop s' [a] = .error e := by
  induction l generalizing s with
  | nil =>
    refine iff_of_false (by rw [h.nil]; simp) ?_
    rintro ⟨before, a, after, s', hl, -⟩
    simp at hl
  | cons b rest ih =>
    rw [h.cons, bind_eq_error_iff]
    constructor
    · rintro (hfirst | ⟨s₁, hfirst, hrest⟩)
      · exact ⟨[], b, rest, s, rfl, h.nil s, hfirst⟩
      · obtain ⟨before, a, after, s', rfl, hbefore, ha⟩ := ih.mp hrest
        refine ⟨b :: before, a, after, s', rfl, ?_, ha⟩
        rw [h.cons, hfirst, ok_bind, hbefore]
    · rintro ⟨before, a, after, s', hl, hbefore, ha⟩
      cases before with
      | nil =>
        -- the failing round is the first one
        obtain ⟨rfl, rfl⟩ := List.cons.inj hl
        obtain rfl := Except.ok.inj ((h.nil s).symm.trans hbefore)
        exact .inl ha
      | cons b' before =>
        obtain ⟨rfl, rfl⟩ := List.cons.inj hl
        rw [h.cons] at hbefore
        obtain ⟨s₁, hfirst, hbefore⟩ := bind_eq_ok_iff.mp hbefore
        exact .inr ⟨s₁, hfirst, ih.mpr ⟨before, a, after, s', rfl, hbefore, ha⟩⟩

end IsLoop

namespace Store

variable {s s' : Store}

/-! ### Dropping the objects of a database -/

theorem dropObjects_isLoop (database : String) : IsLoop (dropObjects · database) where
  nil _ := rfl
  cons s o rest := by
    rw [dropObjects_cons, dropObjects_cons]
    cases s.removeObject? o.id <;> rfl

/-- An object cannot be dropped with its database as long as a view reads from it. -/
theorem dropObjects_eq_error_iff {database : String} {rows : List ObjectRow} {f : Failure} :
    s.dropObjects database rows = .error f ↔
      ∃ before o after s', rows = before ++ o :: after ∧ s.dropObjects database before = .ok s' ∧
        s'.isReferenced o.id = true ∧
        f = ⟨some (.dropRefused o.kind o.name),
          .constraintViolation (.dropDatabase database o.kind o.name)⟩ := by
  have hround : ∀ (s' : Store) (o : ObjectRow), s'.dropObjects database [o] = .error f ↔
      s'.isReferenced o.id = true ∧
        f = ⟨some (.dropRefused o.kind o.name),
          .constraintViolation (.dropDatabase database o.kind o.name)⟩ := by
    intro s' o
    rw [dropObjects_cons]
    cases href : s'.isReferenced o.id with
    | true => simp [removeObject?_eq_none href, eq_comm]
    | false => simp [removeObject?_eq_some href]
  rw [(dropObjects_isLoop database).eq_error_iff]
  simp only [hround]

end Store

namespace Session

variable {x : Session} {s s' : Store} {databaseId tableId : Id} {kind : ObjectKind}

/-! ### Dropping objects by name -/

theorem dropNames_isLoop (databaseId : Id) (kind : ObjectKind) :
    IsLoop (dropNames databaseId kind) where
  nil _ := rfl
  cons s name rest := by
    rw [dropNames_cons, dropNames_cons]
    cases s.dropObject databaseId kind name with
    | error f => rfl
    | ok r =>
      obtain ⟨count, s₁⟩ := r
      simp only [ok_bind]
      split_ifs <;> rfl

/-- What becomes of a single name. -/
theorem dropNames_singleton (name : String) :
    dropNames databaseId kind s [.text name] =
      match s.objectOfKind? databaseId kind name with
      | none => .error (.of (.notFound (.object kind) name))
      | some o =>
        if s.isReferenced o.id then
          .error ⟨some (.dropRefused kind name), .constraintViolation (.dropObject kind name)⟩
        else .ok (s.without [o.id]) := by
  rw [dropNames_cons, Store.dropObject_eq_bind, requireStorable_text, ok_bind, Label.stored?,
    Option.bind_some]
  cases s.objectOfKind? databaseId kind name with
  | none => rfl
  | some o =>
    cases href : s.isReferenced o.id with
    | true => simp [Store.removeObject?_eq_none href, href]
    | false => simp [Store.removeObject?_eq_some href, href]

/-- A name cannot be dropped if it is the name of nothing, or if a view reads from its object. -/
theorem dropNames_singleton_eq_error_iff {name : NonemptyString} {f : Failure} :
    dropNames databaseId kind s [name.label] = .error f ↔
      s.objectOfKind? databaseId kind name.text = none ∧
          f = .of (.notFound (.object kind) name.label) ∨
        ∃ o, s.objectOfKind? databaseId kind name.text = some o ∧ s.isReferenced o.id = true ∧
          f = ⟨some (.dropRefused kind name.label),
            .constraintViolation (.dropObject kind name.label)⟩ := by
  rw [NonemptyString.label, dropNames_singleton]
  cases s.objectOfKind? databaseId kind name.text with
  | none => simp [eq_comm (a := f)]
  | some o => cases href : s.isReferenced o.id <;> simp [href, eq_comm (a := f)]

/-! ### Altering a table -/

theorem alter_isLoop (tableId : Id) (columns : List ColumnRow) :
    IsLoop (alter tableId columns) where
  nil _ := rfl
  cons s operation rest := by
    cases operation with
    | addColumn column =>
      rw [alter_addColumn, alter_addColumn]
      cases s.addColumn tableId column <;> rfl
    | dropColumn name =>
      rw [alter_dropColumn, alter_dropColumn]
      cases lookUpColumn name columns <;> rfl
    | other label => rfl
    | unreadable flaw => rfl

/-- Columns come and go, but objects stay. -/
theorem objects_of_alter {columns : List ColumnRow} {operations : List AlterRequest}
    (h : alter tableId columns s operations = .ok s') :
    s'.objects = s.objects ∧ s'.tables = s.tables := by
  induction operations generalizing s with
  | nil =>
    obtain rfl := Except.ok.inj h
    exact ⟨rfl, rfl⟩
  | cons operation rest ih =>
    cases operation with
    | addColumn column =>
      rw [alter_addColumn] at h
      obtain ⟨⟨row, s₁⟩, hadd, h⟩ := bind_eq_ok_iff.mp h
      rw [Store.addColumn_eq_bind] at hadd
      obtain ⟨-, -, hadd⟩ := bind_eq_ok_iff.mp hadd
      split at hadd
      · rename_i result hrow
        obtain rfl := Except.ok.inj hadd
        have hrest := ih h
        obtain ⟨name, dataType, -, -, -, -, -, rfl⟩ := Store.insertColumn?_eq_some_iff.mp hrow
        exact hrest
      · simp at hadd
    | dropColumn name =>
      rw [alter_dropColumn] at h
      obtain ⟨c, -, h⟩ := bind_eq_ok_iff.mp h
      have hrest := ih h
      exact hrest
    | other label => simp at h
    | unreadable flaw => simp at h

end Session

end SchemaCatalog
