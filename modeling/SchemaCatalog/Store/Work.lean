import SchemaCatalog.Journal
import SchemaCatalog.Store.Basic

/-!
# Work that may fail

Most requests take several steps, and a later step may fail when earlier ones have been taken.
`Work` changes something in place: when it fails, what has been changed by then stays changed.
To take that back is left to the transaction in which the work is done (`Transaction.rollback`).

`Work.outcome` is what work comes to where only success counts: it gives up what has been changed by
the time of a failure.
-/

namespace SchemaCatalog

/-- Work on something that is changed in place. It may fail, and is then left half done. -/
abbrev Work (σ α : Type) : Type := EStateM Failure σ α

namespace Work

variable {σ α β : Type}

/-- Looks at something that does not change. -/
def check (x : Except Failure α) : Work σ α :=
  match x with
  | .ok a => pure a
  | .error f => throw f

/-- Looks at what is worked on. -/
def look (f : σ → Except Failure α) : Work σ α := do
  check (f (← get))

/-- A single change with an answer; `refusal` is the reason when it is not accepted, and then it is
not made either. -/
def insert (refusal : Failure) (f : σ → Option (α × σ)) : Work σ α := do
  match f (← get) with
  | some (a, s) =>
    set s
    return a
  | none => throw refusal

/-- A single change; `refusal` is the reason when it is not accepted. -/
def update (refusal : Failure) (f : σ → Option σ) : Work σ Unit :=
  insert refusal fun s => (f s).map ((), ·)

/-- What work comes to when all of it is done or none. -/
def outcome (w : Work σ α) (s : σ) : Except Failure (α × σ) :=
  match w s with
  | .ok a s' => .ok (a, s')
  | .error f _ => .error f

/-- What is worked on when all of the work has been done. -/
def finish (w : Work σ Unit) (s : σ) : Except Failure σ := (outcome w s).map (·.2)

/-! ### Outcomes -/

section Outcome

variable {w : Work σ α} {k : α → Work σ β} {u : Work σ Unit} {refusal : Failure} {s : σ}

theorem outcome_bind : outcome (w >>= k) s = outcome w s >>= fun p => outcome (k p.1) p.2 := by
  simp only [outcome, bind, EStateM.bind]
  cases w s <;> rfl

theorem outcome_unit_bind {k : Unit → Work σ β} :
    outcome (u >>= k) s = finish u s >>= fun s' => outcome (k ()) s' := by
  rw [outcome_bind, finish]
  cases outcome u s <;> rfl

@[simp] theorem outcome_get_bind {k : σ → Work σ β} :
    outcome (get >>= k) s = outcome (k s) s := rfl

@[simp] theorem outcome_check_bind {x : Except Failure α} :
    outcome (check x >>= k) s = x >>= fun a => outcome (k a) s := by
  cases x <;> rfl

@[simp] theorem outcome_look_bind {f : σ → Except Failure α} :
    outcome (look f >>= k) s = f s >>= fun a => outcome (k a) s := by
  exact outcome_check_bind

theorem outcome_look {f : σ → Except Failure α} : outcome (look f) s = (f s).map (·, s) := by
  change outcome (check (f s)) s = _
  cases f s <;> rfl

theorem outcome_insert {f : σ → Option (α × σ)} :
    outcome (insert refusal f) s =
      match f s with
      | some p => .ok p
      | none => .error refusal := by
  change outcome (match f s with
    | some (a, s') => do
      set s'
      pure a
    | none => throw refusal) s = _
  cases f s <;> rfl

@[simp] theorem finish_check_bind {x : Except Failure α} {k : α → Work σ Unit} :
    finish (check x >>= k) s = x >>= fun a => finish (k a) s := by
  cases x <;> rfl

theorem finish_bind {k : α → Work σ Unit} :
    finish (w >>= k) s = outcome w s >>= fun p => finish (k p.1) p.2 := by
  rw [finish, outcome_bind]
  cases outcome w s <;> rfl

theorem finish_unit_bind {k : Unit → Work σ Unit} :
    finish (u >>= k) s = finish u s >>= finish (k ()) := by
  rw [finish, outcome_unit_bind]
  cases finish u s <;> rfl

theorem finish_update {f : σ → Option σ} :
    finish (update refusal f) s =
      match f s with
      | some s' => .ok s'
      | none => .error refusal := by
  rw [finish, update, outcome_insert]
  cases f s <;> rfl

end Outcome

end Work

/-! ### Transactions -/

/-- A transaction: the store as it was last committed, and as it is seen inside. -/
structure Transaction where
  committed : Store
  working : Store
  deriving DecidableEq, Repr, Inhabited

namespace Transaction

/-- A transaction on a store in which nothing has been done yet. -/
def begin (s : Store) : Transaction := ⟨s, s⟩

/-- Keeps what has been done inside. -/
def commit (t : Transaction) : Transaction := .begin t.working

/-- Takes back what has been done inside. -/
def rollback (t : Transaction) : Transaction := .begin t.committed

end Transaction

end SchemaCatalog
