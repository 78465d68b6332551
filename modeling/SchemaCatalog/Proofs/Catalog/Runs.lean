import SchemaCatalog.Catalog
import SchemaCatalog.Proofs.Session.Edits

/-!
# Runs of a catalog

An event either makes a request of a session (`Event.request?`), or is about the tables of the
store, or changes nothing. From a store that can be read and changed, every event other than
`clear` leads to another such store along a chain of edits (`Catalog.step_ready`), and therefore so
does every run without `clear` (`Catalog.run_ready`).
-/

namespace SchemaCatalog

/-! ### Events as requests -/

/-- The request that an event makes, and the place of the session that is to handle it. A line makes
a request if it holds a statement. -/
def Event.request? : Event → Option (Nat × Request)
  | .request i r => some (i, r)
  | .line i text =>
    match Statement.read text with
    | .ok stmt => some (i, stmt.request)
    | .error _ => none
  | .setUp | .clear => none

namespace Catalog

variable {c : Catalog} {s : Store} {e : Event} {i : Nat} {r : Request}

/-- A session that stays as it was leaves the sessions as they were. -/
theorem set_session_self {x : Session} (hx : c.sessions[i]? = some x) :
    c.sessions.set i x = c.sessions := by
  obtain ⟨hi, rfl⟩ := List.getElem?_eq_some_iff.mp hx
  exact List.set_getElem_self hi

/-- The catalog after one of its sessions has handled a request. -/
def handled (c : Catalog) (i : Nat) (r : Request) : Catalog :=
  match c.sessions[i]? with
  | none => c
  | some x => ⟨(x.handle r c.access).access, c.sessions.set i (x.handle r c.access).session⟩

theorem handled_of_getElem? {x : Session} (hx : c.sessions[i]? = some x) :
    c.handled i r =
      ⟨(x.handle r c.access).access, c.sessions.set i (x.handle r c.access).session⟩ := by
  rw [handled, hx]

theorem step_request : (c.step (.request i r)).2 = c.handled i r := by
  rw [step, handled]
  cases c.sessions[i]? <;> rfl

/-- What a line does to a session and the store is what its statement does. -/
private theorem runLine_of_read {x : Session} {text : String} {stmt : Statement} {a : Access}
    (h : Statement.read text = .ok stmt) :
    (x.runLine text a).session = (x.handle stmt.request a).session ∧
      (x.runLine text a).access = (x.handle stmt.request a).access := by
  rw [Session.runLine, h]
  dsimp only
  cases (x.handle stmt.request a).answer <;> exact ⟨rfl, rfl⟩

/-- An event that makes a request changes the catalog as the request does. -/
theorem step_of_request? (h : e.request? = some (i, r)) : (c.step e).2 = c.handled i r := by
  cases e with
  | request j r' =>
    obtain ⟨rfl, rfl⟩ := Prod.mk.inj (Option.some.inj h)
    exact step_request
  | line j text =>
    rw [Event.request?] at h
    split at h
    · rename_i stmt hread
      obtain ⟨rfl, rfl⟩ := Prod.mk.inj (Option.some.inj h)
      rw [step, handled]
      cases hx : c.sessions[j]? with
      | none => rfl
      | some x =>
        obtain ⟨hsession, haccess⟩ := runLine_of_read (x := x) (a := c.access) hread
        simp only [hsession, haccess]
    · simp at h
  | setUp | clear => simp [Event.request?] at h

/-- An event that makes no request and leaves the tables alone changes nothing. -/
theorem step_of_request?_eq_none (h : e.request? = none) (hsetUp : e ≠ .setUp)
    (hclear : e ≠ .clear) : (c.step e).2 = c := by
  cases e with
  | request j r' => simp [Event.request?] at h
  | line j text =>
    rw [Event.request?] at h
    split at h
    · simp at h
    · rename_i refusal hread
      rw [step]
      cases hx : c.sessions[j]? with
      | none => rfl
      | some x =>
        simp only [Session.runLine, hread]
        rw [set_session_self hx]
  | setUp => exact absurd rfl hsetUp
  | clear => exact absurd rfl hclear

/-! ### Runs on a store that can be changed -/

theorem step_setUp (hc : c.access = .ready s) : (c.step .setUp).2 = c := by
  simp only [step, hc, Access.initialized, withTables]
  rw [← hc]

theorem step_clear (hc : c.access = .ready s) :
    (c.step .clear).2 = { c with access := .ready .empty } := by
  simp [step, hc, Access.cleared, Access.initialized, withTables, Except.map]

theorem handled_ready (hc : c.access = .ready s) :
    ∃ s', (c.handled i r).access = .ready s' ∧ Store.Edits .resolved s s' := by
  rw [handled]
  cases c.sessions[i]? with
  | none => exact ⟨s, hc, .refl⟩
  | some x =>
    rw [hc]
    exact x.handle_ready r s fun _ => rfl

/-- Every event but `clear` takes the store through a chain of edits. -/
theorem step_ready (hc : c.access = .ready s) (he : e ≠ .clear) :
    ∃ s', (c.step e).2.access = .ready s' ∧ Store.Edits .resolved s s' := by
  cases hr : e.request? with
  | some p =>
    rw [step_of_request? hr]
    exact handled_ready hc
  | none =>
    by_cases hsetUp : e = .setUp
    · rw [hsetUp, step_setUp hc]
      exact ⟨s, hc, .refl⟩
    · rw [step_of_request?_eq_none hr hsetUp he]
      exact ⟨s, hc, .refl⟩

@[simp] theorem run_cons_snd {rest : List Event} :
    (c.run (e :: rest)).2 = ((c.step e).2.run rest).2 := rfl

@[simp] theorem run_cons_fst {rest : List Event} :
    (c.run (e :: rest)).1 = (c.step e).1 :: ((c.step e).2.run rest).1 := rfl

/-- A run in two parts. -/
theorem run_append_snd {es es' : List Event} :
    (c.run (es ++ es')).2 = ((c.run es).2.run es').2 := by
  induction es generalizing c with
  | nil => rfl
  | cons e rest ih => exact ih

/-- Every run without `clear` takes the store through a chain of edits. -/
theorem run_ready {es : List Event} (hc : c.access = .ready s) (hes : .clear ∉ es) :
    ∃ s', (c.run es).2.access = .ready s' ∧ Store.Edits .resolved s s' := by
  induction es generalizing c s with
  | nil => exact ⟨s, hc, .refl⟩
  | cons e rest ih =>
    rw [List.mem_cons, not_or] at hes
    obtain ⟨s₁, hc₁, hedits⟩ := step_ready hc fun he => hes.1 he.symm
    obtain ⟨s₂, hc₂, hedits'⟩ := ih hc₁ hes.2
    exact ⟨s₂, hc₂, hedits.trans hedits'⟩

end Catalog

end SchemaCatalog
