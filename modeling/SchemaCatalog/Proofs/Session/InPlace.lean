import SchemaCatalog.Session.Handling

/-!
# What handlers leave behind

Work in place that fails may have changed anything by then. This module tells what it has not
changed: `Work.Keeps` says that work, however it ends, leaves alone what a function tells of the
state, and `Work.KeepsOnError` says so of work that fails only.

What lasts of a scene are the session and the store as it was last committed (`Scene.lasting`). Work
inside a transaction keeps both, and so a transaction that fails keeps them, however much of the
work has been done (`Handler.keepsOnError_transaction`). A handler that fails keeps them since it
touches the session only after its transaction, when nothing can fail any more
(`Work.KeepsOnError.bind_of_succeeds`).
-/

namespace SchemaCatalog

namespace Work

variable {σ α β γ : Type} {f : σ → γ} {w : Work σ α} {k : α → Work σ β}

/-- What work leaves behind, whether it succeeds or fails. -/
def left (w : Work σ α) (s : σ) : σ :=
  match w s with
  | .ok _ s' | .error _ s' => s'

/-- However work ends, what `f` tells is as it was before. -/
def Keeps (f : σ → γ) (w : Work σ α) : Prop := ∀ s, f (w.left s) = f s

/-- If work fails, what `f` tells is as it was before. -/
def KeepsOnError (f : σ → γ) (w : Work σ α) : Prop :=
  ∀ s failure s', w s = .error failure s' → f s' = f s

/-- Work that cannot fail. -/
def Succeeds (w : Work σ α) : Prop := ∀ s, ∃ a s', w s = .ok a s'

/-! ### How work is put together -/

theorem bind_apply (s : σ) :
    (w >>= k) s =
      match w s with
      | .ok a s' => k a s'
      | .error failure s' => .error failure s' := by
  change EStateM.bind w k s = _
  rw [EStateM.bind]
  cases w s <;> rfl

theorem tryCatch_apply (h : Failure → Work σ α) (s : σ) :
    (tryCatch w h : Work σ α) s =
      match w s with
      | .ok a s' => .ok a s'
      | .error failure s' => h failure s' := by
  change EStateM.tryCatch w h s = _
  delta EStateM.tryCatch
  cases w s <;> rfl

namespace Keeps

theorem pure (a : α) : Keeps f (Pure.pure a : Work σ α) := fun _ => rfl

theorem throw (failure : Failure) : Keeps f (MonadExcept.throw failure : Work σ α) := fun _ => rfl

theorem get : Keeps f (MonadState.get : Work σ σ) := fun _ => rfl

theorem check (x : Except Failure α) : Keeps f (Work.check x : Work σ α) := by
  cases x with
  | ok a => exact .pure a
  | error failure => exact .throw failure

theorem modify {g : σ → σ} (h : ∀ s, f (g s) = f s) : Keeps f (modify g : Work σ Unit) := h

theorem bind (hw : Keeps f w) (hk : ∀ a, Keeps f (k a)) : Keeps f (w >>= k) := by
  intro s
  have hs := hw s
  rw [left] at hs ⊢
  rw [bind_apply]
  cases h : w s with
  | ok a s' =>
    rw [h] at hs
    exact (hk a s').trans hs
  | error failure s' =>
    rw [h] at hs
    exact hs

theorem keepsOnError (h : Keeps f w) : KeepsOnError f w := by
  intro s failure s' herror
  have hs := h s
  rwa [left, herror] at hs

end Keeps

namespace Succeeds

theorem pure (a : α) : Succeeds (Pure.pure a : Work σ α) := fun s => ⟨a, s, rfl⟩

theorem get : Succeeds (MonadState.get : Work σ σ) := fun s => ⟨s, s, rfl⟩

theorem modify (g : σ → σ) : Succeeds (modify g : Work σ Unit) := fun s => ⟨(), g s, rfl⟩

theorem bind (hw : Succeeds w) (hk : ∀ a, Succeeds (k a)) : Succeeds (w >>= k) := by
  intro s
  obtain ⟨a, s', hs⟩ := hw s
  rw [bind_apply, hs]
  exact hk a s'

end Succeeds

namespace KeepsOnError

/-- Work that comes after something that changes nothing. -/
theorem bind_of_keeps (hw : Keeps f w) (hk : ∀ a, KeepsOnError f (k a)) :
    KeepsOnError f (w >>= k) := by
  intro s failure s' herror
  have hs := hw s
  rw [left] at hs
  rw [bind_apply] at herror
  cases h : w s with
  | ok a s₁ =>
    rw [h] at hs herror
    exact (hk a s₁ failure s' herror).trans hs
  | error failure' s₁ =>
    rw [h] at hs herror
    cases herror
    exact hs

/-- Work after which nothing can fail any more. -/
theorem bind_of_succeeds (hw : KeepsOnError f w) (hk : ∀ a, Succeeds (k a)) :
    KeepsOnError f (w >>= k) := by
  intro s failure s' herror
  rw [bind_apply] at herror
  cases h : w s with
  | ok a s₁ =>
    obtain ⟨b, s₂, hsucceeds⟩ := hk a s₁
    rw [h] at herror
    exact absurd (hsucceeds.symm.trans herror) (by simp)
  | error failure' s₁ =>
    rw [h] at herror
    cases herror
    exact hw s _ _ h

end KeepsOnError

end Work

/-- What outlasts the handling of a request: the session, and the store as it was last
committed. -/
def Scene.lasting (scene : Scene) : Session × Store := (scene.session, scene.store.committed)

namespace Handler

open Work (Keeps KeepsOnError Succeeds)

variable {α γ : Type}

/-! ### Transactions -/

/-- Work in a store touches nothing but the store as it is seen inside the transaction. -/
theorem keeps_inStore {f : Scene → γ}
    (hf : ∀ scene s, f { scene with store := { scene.store with working := s } } = f scene)
    (work : Work Store α) : Keeps f (inStore work) := by
  intro scene
  rw [Work.left, inStore]
  cases work scene.store.working with
  | ok a s => exact hf scene s
  | error failure s => exact hf scene s

theorem keeps_lasting_inStore (work : Work Store α) : Keeps Scene.lasting (inStore work) :=
  keeps_inStore (fun _ _ => rfl) work

/-- How a transaction ends. -/
theorem transaction_apply (body : Handler α) (scene : Scene) :
    transaction body scene =
      match body { scene with store := .begin scene.store.committed } with
      | .ok a scene' => .ok a { scene' with store := scene'.store.commit }
      | .error failure scene' => .error failure { scene' with store := scene'.store.rollback } := by
  rw [transaction, Work.bind_apply]
  change tryCatch (body >>= _) _ _ = _
  rw [Work.tryCatch_apply, Work.bind_apply]
  cases body { scene with store := .begin scene.store.committed } <;> rfl

/-- A transaction that fails is taken back, however far the work inside has come. -/
theorem keepsOnError_transaction {body : Handler α} (h : Keeps Scene.lasting body) :
    KeepsOnError Scene.lasting (transaction body) := by
  intro scene failure scene' herror
  have hkept := h { scene with store := .begin scene.store.committed }
  rw [Work.left] at hkept
  rw [transaction_apply] at herror
  cases hbody : body { scene with store := .begin scene.store.committed } with
  | ok a scene₁ =>
    rw [hbody] at herror
    cases herror
  | error failure₁ scene₁ =>
    rw [hbody] at hkept herror
    cases herror
    exact hkept

theorem keepsOnError_transaction_inStore (work : Work Store α) :
    KeepsOnError Scene.lasting (transaction (inStore work)) :=
  keepsOnError_transaction (keeps_lasting_inStore work)

theorem keepsOnError_inSelected (work : Selection → Work Store α) :
    KeepsOnError Scene.lasting (inSelected work) :=
  keepsOnError_transaction <| .bind .get fun _ => .bind (.check _) fun sel =>
    keeps_lasting_inStore (work sel)

/-! ### Requests -/

theorem succeeds_select (current : Option Selection) : Succeeds (select current) := .modify _

/-- A request that is refused leaves the session and the committed store as they were. -/
theorem keepsOnError_perform (r : Request) : KeepsOnError Scene.lasting (perform r) := by
  cases r with
  | createDatabase name =>
    refine (keepsOnError_transaction_inStore _).bind_of_succeeds fun row => ?_
    exact .bind .get fun _ => .bind (succeeds_select _) fun _ => .pure _
  | use name =>
    refine (keepsOnError_transaction_inStore _).bind_of_succeeds fun row => ?_
    exact .bind (succeeds_select _) fun _ => .pure _
  | dropDatabase name =>
    refine (keepsOnError_transaction_inStore _).bind_of_succeeds fun ⟨row, objects⟩ => ?_
    exact .bind .get fun _ => .bind (succeeds_select _) fun _ => .pure _
  | createTable | drop | alterTable | showTables | explainTable =>
    exact (keepsOnError_inSelected _).bind_of_succeeds fun _ => .pure _
  | createView name query =>
    -- what the view reads from is found out before the transaction
    refine .bind_of_keeps .get fun scene => .bind_of_keeps (.check _) fun references => ?_
    exact (keepsOnError_inSelected _).bind_of_succeeds fun _ => .pure _
  | other typeName => exact Keeps.keepsOnError (.throw _)
  | malformed flaw => exact Keeps.keepsOnError (.throw _)

/-- The order matters: a selection that is made before the transaction outlasts its failure. -/
example :
    ((do select (some ⟨1, "a"⟩); use "b" : Handler Response).left ⟨{}, .begin .empty⟩).lasting =
      ({ current := some ⟨1, "a"⟩ }, .empty) := rfl

theorem keepsOnError_performReadOnly (r : Request) :
    KeepsOnError Scene.lasting (performReadOnly r) := by
  refine .bind_of_keeps .get fun scene => .bind_of_keeps (.check _) fun changes => ?_
  cases changes with
  | true => exact Keeps.keepsOnError (.throw _)
  | false => exact keepsOnError_perform r

/-! ### The visitor -/

/-- What the store is in does not matter to what is told of the session. -/
theorem keeps_session_transaction {f : Session → γ} {body : Handler α}
    (h : Keeps (fun scene => f scene.session) body) :
    Keeps (fun scene => f scene.session) (transaction body) := by
  intro scene
  have hkept := h { scene with store := .begin scene.store.committed }
  rw [Work.left] at hkept ⊢
  rw [transaction_apply]
  cases hbody : body { scene with store := .begin scene.store.committed } with
  | ok a scene' =>
    rw [hbody] at hkept
    exact hkept
  | error failure scene' =>
    rw [hbody] at hkept
    exact hkept

theorem keeps_session_transaction_inStore {f : Session → γ} (work : Work Store α) :
    Keeps (fun scene => f scene.session) (transaction (inStore work)) :=
  keeps_session_transaction (keeps_inStore (fun _ _ => rfl) work)

theorem keeps_session_inSelected {f : Session → γ} (work : Selection → Work Store α) :
    Keeps (fun scene => f scene.session) (inSelected work) :=
  keeps_session_transaction <| .bind .get fun _ => .bind (.check _) fun sel =>
    keeps_inStore (fun _ _ => rfl) (work sel)

/-- A session finds what a query reads from in one way for good. -/
theorem keeps_visitor_perform (r : Request) :
    Keeps (fun scene => scene.session.visitor) (perform r) := by
  have hselect : ∀ current, Keeps (fun scene => scene.session.visitor) (select current) :=
    fun current => .modify fun _ => rfl
  cases r with
  | createDatabase name =>
    refine .bind (keeps_session_transaction_inStore _) fun row => ?_
    exact .bind .get fun _ => .bind (hselect _) fun _ => .pure _
  | use name =>
    refine .bind (keeps_session_transaction_inStore _) fun row => ?_
    exact .bind (hselect _) fun _ => .pure _
  | dropDatabase name =>
    refine .bind (keeps_session_transaction_inStore _) fun ⟨row, objects⟩ => ?_
    exact .bind .get fun _ => .bind (hselect _) fun _ => .pure _
  | createTable | drop | alterTable | showTables | explainTable =>
    exact .bind (keeps_session_inSelected _) fun _ => .pure _
  | createView name query =>
    refine .bind .get fun scene => .bind (.check _) fun references => ?_
    exact .bind (keeps_session_inSelected _) fun _ => .pure _
  | other typeName => exact .throw _
  | malformed flaw => exact .throw _

theorem keeps_visitor_performReadOnly (r : Request) :
    Keeps (fun scene => scene.session.visitor) (performReadOnly r) := by
  refine .bind .get fun scene => .bind (.check _) fun changes => ?_
  cases changes with
  | true => exact .throw _
  | false => exact keeps_visitor_perform r

end Handler

namespace Session

variable {x : Session} {r : Request} {a : Access}

/-- The outcome of a handler that fails without leaving a trace. -/
theorem ofResult_eq_of_error {s : Store} {handler : Handler Response} {f : Failure} {scene : Scene}
    (hkeeps : Work.KeepsOnError Scene.lasting handler)
    (h : handler ⟨x, .begin s⟩ = .error f scene) :
    Outcome.ofResult a (.error f scene) = ⟨.error f.error, f.note.toList, x, a.after s⟩ := by
  obtain ⟨rfl, rfl⟩ := Prod.mk.inj (hkeeps _ _ _ h)
  rfl

/-- What a handler leaves behind when it fails. -/
theorem ofResult_of_error {s : Store} {handler : Handler Response} {err : CatalogError}
    (hkeeps : Work.KeepsOnError Scene.lasting handler)
    (h : (Outcome.ofResult a (handler ⟨x, .begin s⟩)).answer = .error err) :
    (Outcome.ofResult a (handler ⟨x, .begin s⟩)).session = x ∧
      (Outcome.ofResult a (handler ⟨x, .begin s⟩)).access = a.after s := by
  cases hresult : handler ⟨x, .begin s⟩ with
  | ok response scene =>
    rw [hresult] at h
    cases h
  | error f scene =>
    rw [ofResult_eq_of_error hkeeps hresult]
    exact ⟨rfl, rfl⟩

/-- A request that is refused changes neither the session nor the store. -/
theorem handle_of_error {err : CatalogError} (h : (x.handle r a).answer = .error err) :
    (x.handle r a).session = x ∧ (x.handle r a).access = a := by
  cases a with
  | ready s => exact ofResult_of_error (Handler.keepsOnError_perform r) h
  | readOnly s => exact ofResult_of_error (Handler.keepsOnError_performReadOnly r) h
  | broken outage => exact ⟨rfl, rfl⟩

end Session

end SchemaCatalog
