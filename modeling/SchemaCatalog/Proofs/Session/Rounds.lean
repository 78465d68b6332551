import SchemaCatalog.Proofs.Session.Loops

/-!
# The first failure

A statement that goes through a list is refused because of the first element that cannot be dealt
with, and whether an element can be dealt with depends on the elements before it. `FirstFails` says
this of the elements alone, without a store. A loop whose rounds do what is said of the elements
(`Rounds`) fails exactly as its first failing element does (`Rounds.error_iff`), and if there is
none, it comes to an end with what its rounds keep (`Rounds.exists_ok`).
-/

namespace SchemaCatalog

/-! ### Elements that fail -/

section

variable {α ε : Type} {fails : List α → α → ε → Prop}

/-- None of some elements fails, each coming after those before it. -/
def NoneFails (fails : List α → α → ε → Prop) (l : List α) : Prop :=
  ∀ before a after, l = before ++ a :: after → ∀ e, ¬ fails before a e

/-- The first of some elements that fails does so for the given reason. -/
def FirstFails (fails : List α → α → ε → Prop) (l : List α) (e : ε) : Prop :=
  ∃ before a after, l = before ++ a :: after ∧ NoneFails fails before ∧ fails before a e

theorem noneFails_nil : NoneFails fails [] := by
  intro before a after h
  simp at h

/-- If none of some elements fails, then neither does one of those up to a place. -/
theorem NoneFails.of_append {l l' : List α} (h : NoneFails fails (l ++ l')) :
    NoneFails fails l := by
  intro before a after hl
  refine h before a (after ++ l') ?_
  rw [hl, List.append_assoc, List.cons_append]

/-- One more element comes after all the others. -/
theorem noneFails_concat_iff {l : List α} {a : α} :
    NoneFails fails (l ++ [a]) ↔ NoneFails fails l ∧ ∀ e, ¬ fails l a e := by
  constructor
  · exact fun h => ⟨h.of_append, h l a [] rfl⟩
  · rintro ⟨hl, ha⟩ before b after h
    rcases List.eq_nil_or_concat after with rfl | ⟨after, c, rfl⟩
    · -- the element is the last one
      obtain ⟨rfl, hlast⟩ := List.append_inj' h rfl
      obtain rfl := List.singleton_inj.mp hlast
      exact ha
    · rw [List.concat_eq_append, ← List.cons_append, ← List.append_assoc] at h
      exact hl before b after (List.append_inj' h rfl).1

/-- One more element comes before all the others. -/
theorem noneFails_cons_iff {l : List α} {a : α} :
    NoneFails fails (a :: l) ↔
      (∀ e, ¬ fails [] a e) ∧ NoneFails (fun before => fails (a :: before)) l := by
  constructor
  · refine fun h => ⟨h [] a l rfl, fun before b after hl => h (a :: before) b after ?_⟩
    rw [hl, List.cons_append]
  · rintro ⟨ha, hl⟩ before b after h
    cases before with
    | nil =>
      obtain ⟨rfl, -⟩ := List.cons.inj h
      exact ha
    | cons c before =>
      obtain ⟨rfl, hrest⟩ := List.cons.inj h
      exact hl before b after hrest

/-- Either none of some elements fails, or one is the first that does. -/
theorem noneFails_or_exists_firstFails (fails : List α → α → ε → Prop) (l : List α) :
    NoneFails fails l ∨ ∃ e, FirstFails fails l e := by
  induction l using List.reverseRecOn with
  | nil => exact .inl noneFails_nil
  | append_singleton l a ih =>
    rcases ih with hnone | ⟨e, before, b, after, rfl, hbefore, hb⟩
    · by_cases ha : ∃ e, fails l a e
      · obtain ⟨e, he⟩ := ha
        exact .inr ⟨e, l, a, [], rfl, hnone, he⟩
      · exact .inl (noneFails_concat_iff.mpr ⟨hnone, not_exists.mp ha⟩)
    · refine .inr ⟨e, before, b, after ++ [a], ?_, hbefore, hb⟩
      rw [List.append_assoc, List.cons_append]

end

/-! ### Loops whose rounds fail -/

namespace IsLoop

variable {σ α β ε : Type} {loop : σ → List α → Except ε σ}

/-- A loop through one list and then through another. -/
theorem append (h : IsLoop loop) (s : σ) (l l' : List α) :
    loop s (l ++ l') = loop s l >>= fun s' => loop s' l' := by
  induction l generalizing s with
  | nil => rw [List.nil_append, h.nil, ok_bind]
  | cons a rest ih =>
    rw [List.cons_append, h.cons, h.cons s a rest]
    cases loop s [a] with
    | error e => rfl
    | ok s' => rw [ok_bind, ok_bind, ih]

/-- A loop through elements that stand for others. -/
theorem map (h : IsLoop loop) (g : β → α) : IsLoop fun s l => loop s (l.map g) where
  nil s := h.nil s
  cons s a rest := h.cons s (g a) (rest.map g)

end IsLoop

/-- What the rounds of a loop do: as long as none has failed, what the state has to do with the
elements so far is kept, and a round fails exactly for the reason for which its element does. -/
structure Rounds {σ α : Type} (loop : σ → List α → Except Failure σ)
    (fails : List α → α → CatalogError → Prop) (kept : List α → σ → Prop) : Prop where
  isLoop : IsLoop loop
  error : ∀ {before a s e}, kept before s → fails before a e →
    ∃ f, loop s [a] = .error f ∧ f.error = e
  ok : ∀ {before a s}, kept before s → (∀ e, ¬ fails before a e) →
    ∃ s', loop s [a] = .ok s' ∧ kept (before ++ [a]) s'

namespace Rounds

variable {σ α : Type} {loop : σ → List α → Except Failure σ}
  {fails : List α → α → CatalogError → Prop} {kept : List α → σ → Prop} {s : σ} {l : List α}
  {e : CatalogError}

/-- A loop comes to an end if no element fails. -/
theorem exists_ok (h : Rounds loop fails kept) (hs : kept [] s) (hl : NoneFails fails l) :
    ∃ s', loop s l = .ok s' ∧ kept l s' := by
  induction l using List.reverseRecOn with
  | nil => exact ⟨s, h.isLoop.nil s, hs⟩
  | append_singleton l a ih =>
    obtain ⟨hnone, ha⟩ := noneFails_concat_iff.mp hl
    obtain ⟨s₁, hbefore, hkept⟩ := ih hnone
    obtain ⟨s₂, hround, hkept'⟩ := h.ok hkept ha
    exact ⟨s₂, by rw [h.isLoop.append, hbefore, ok_bind, hround], hkept'⟩

/-- A loop fails as its first failing element does. -/
theorem exists_error (h : Rounds loop fails kept) (hs : kept [] s) (hl : FirstFails fails l e) :
    ∃ f, loop s l = .error f ∧ f.error = e := by
  obtain ⟨before, a, after, rfl, hnone, ha⟩ := hl
  obtain ⟨s', hbefore, hkept⟩ := h.exists_ok hs hnone
  obtain ⟨f, hround, hf⟩ := h.error hkept ha
  exact ⟨f, h.isLoop.eq_error_iff.mpr ⟨before, a, after, s', rfl, hbefore, hround⟩, hf⟩

/-- A loop fails for a reason exactly if its first failing element does. -/
theorem error_iff (h : Rounds loop fails kept) (hs : kept [] s) :
    (∃ f, loop s l = .error f ∧ f.error = e) ↔ FirstFails fails l e := by
  refine ⟨?_, h.exists_error hs⟩
  rintro ⟨f, hf, rfl⟩
  rcases noneFails_or_exists_firstFails fails l with hnone | ⟨e, hfirst⟩
  · obtain ⟨s', hs', -⟩ := h.exists_ok hs hnone
    simp [hs'] at hf
  · obtain ⟨f', hf', rfl⟩ := h.exists_error hs hfirst
    rw [hf'] at hf
    rwa [← Except.error.inj hf]

/-- If a loop comes to an end, no element has failed. -/
theorem of_eq_ok (h : Rounds loop fails kept) (hs : kept [] s) {s' : σ} (hl : loop s l = .ok s') :
    NoneFails fails l ∧ kept l s' := by
  rcases noneFails_or_exists_firstFails fails l with hnone | ⟨e, hfirst⟩
  · obtain ⟨s'', hs'', hkept⟩ := h.exists_ok hs hnone
    obtain rfl := Except.ok.inj (hl.symm.trans hs'')
    exact ⟨hnone, hkept⟩
  · obtain ⟨f, hf, -⟩ := h.exists_error hs hfirst
    simp [hf] at hl

end Rounds

/-! ### Requests -/

namespace Session

variable {x : Session} {s : Store} {r : Request}

/-- A request that comes down to a computation is refused as that fails. -/
theorem answer_eq_error_iff {α : Type} {y : Except Failure α} {g : α → Effect}
    (h : x.run s r = y.map g) {e : CatalogError} :
    (x.handle r (.ready s)).answer = .error e ↔ ∃ f, y = .error f ∧ f.error = e := by
  rw [handle_eq, attempt, h]
  cases y <;> simp [Except.map]

/-- A request that comes down to a computation has the effect that this gives. -/
theorem handle_of_eq_ok {α : Type} {y : Except Failure α} {g : α → Effect}
    (h : x.run s r = y.map g) {a : α} (hy : y = .ok a) :
    x.handle r (.ready s) =
      ⟨.ok (g a).rows, (g a).note.toList, { x with current := (g a).current },
        .ready (g a).store⟩ := by
  rw [handle_eq, attempt, h, hy]
  rfl

end Session

end SchemaCatalog
