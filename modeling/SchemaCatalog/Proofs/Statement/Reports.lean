import Mathlib.Data.List.Range
import SchemaCatalog.Proofs.Statement.Faults

/-!
# Checks report the faults of the grammar

The outcome of a check is right for a value and a shape (`Checked.Reports`) when the problems in it
are the faults of the value, in their order, and there is a result if there are none. Checks are put
together from smaller ones, and so is the proof that they are right: the fields of an object that
have been checked one after the other (`Checked.ReportsFields`), the items of an array, the choice
of a form by its tag. For each of the ways in which checks are put together there is one lemma here;
nothing in them is special to statements.
-/

namespace SchemaCatalog

open Json

namespace Checked

variable {α β : Type}

/-! ### Problems -/

/-- The problems of an outcome. -/
def problems : Checked α → List Problem
  | .ok _ => []
  | .faulty ps => ps

@[simp] theorem problems_ok (a : α) : (ok a).problems = [] := rfl

@[simp] theorem problems_faulty (ps : List Problem) : (faulty ps : Checked α).problems = ps := rfl

@[simp] theorem problems_map (f : α → β) (x : Checked α) : (x.map f).problems = x.problems := by
  cases x <;> rfl

@[simp] theorem problems_under (step : PathStep) (x : Checked α) :
    (x.under step).problems = x.problems.map (Problem.under step) := by
  cases x <;> rfl

@[simp] theorem problems_and (f : Checked (α → β)) (x : Checked α) :
    (f.and x).problems = f.problems ++ x.problems := by
  cases f <;> cases x <;> simp [Checked.and]

/-- The problems of a list are those of its items, one item after the other. -/
theorem problems_itemsFrom (i : Nat) (xs : List (Checked α)) :
    (itemsFrom i xs).problems =
      (xs.zipIdx i).flatMap fun x => x.1.problems.map (Problem.under (.index x.2)) := by
  induction xs generalizing i with
  | nil => rfl
  | cons x rest ih =>
    rw [itemsFrom, problems_and, problems_map, problems_under, ih, List.zipIdx_cons,
      List.flatMap_cons]

/-- A problem that is seen from further out. -/
theorem mem_map_under {step : PathStep} {ps : List Problem} {p : Problem} :
    p ∈ ps.map (Problem.under step) ↔
      ∃ rest, p.path = step :: rest ∧ (⟨rest, p.fault⟩ : Problem) ∈ ps := by
  rw [List.mem_map]
  constructor
  · rintro ⟨q, hq, rfl⟩
    exact ⟨q.path, rfl, hq⟩
  · rintro ⟨rest, hpath, hmem⟩
    refine ⟨_, hmem, ?_⟩
    rw [Problem.under, ← hpath]

/-! ### Results -/

/-- There is a result if there are no problems. -/
def IsProper (x : Checked α) : Prop := x.problems = [] → ∃ a, x = .ok a

theorem isProper_ok (a : α) : (ok a).IsProper := fun _ => ⟨a, rfl⟩

theorem isProper_faulty {ps : List Problem} (h : ps ≠ []) : (faulty ps : Checked α).IsProper :=
  fun hnone => absurd hnone h

namespace IsProper

theorem map {f : α → β} {x : Checked α} (h : x.IsProper) : (x.map f).IsProper := by
  intro hnone
  rw [problems_map] at hnone
  obtain ⟨a, rfl⟩ := h hnone
  exact ⟨f a, rfl⟩

theorem under {step : PathStep} {x : Checked α} (h : x.IsProper) : (x.under step).IsProper := by
  intro hnone
  rw [problems_under, List.map_eq_nil_iff] at hnone
  obtain ⟨a, rfl⟩ := h hnone
  exact ⟨a, rfl⟩

theorem and {f : Checked (α → β)} {x : Checked α} (hf : f.IsProper) (hx : x.IsProper) :
    (f.and x).IsProper := by
  intro hnone
  rw [problems_and, List.append_eq_nil_iff] at hnone
  obtain ⟨g, rfl⟩ := hf hnone.1
  obtain ⟨a, rfl⟩ := hx hnone.2
  exact ⟨g a, rfl⟩

theorem itemsFrom {i : Nat} {xs : List (Checked α)} (h : ∀ x ∈ xs, x.IsProper) :
    (itemsFrom i xs).IsProper := by
  induction xs generalizing i with
  | nil => exact isProper_ok []
  | cons x rest ih =>
    obtain ⟨hx, hrest⟩ := List.forall_mem_cons.mp h
    exact hx.under.map.and (ih hrest)

end IsProper

/-! ### Values -/

/-- The outcome of a check tells all that is wrong with a value of a shape, and nothing else, in
order; and if nothing is wrong there is a result. -/
structure Reports (x : Checked α) (shape : Shape) (v : Value) : Prop where
  proper : x.IsProper
  mem_iff : ∀ p, p ∈ x.problems ↔ shape.Faulty v p.path p.fault
  ordered : x.problems.Pairwise fun p q => shape.Precedes p.path q.path

variable {shape item : Shape} {v : Value} {o : Fields}

theorem Reports.ok (a : α) (h : shape.Admits v) : (Checked.ok a).Reports shape v where
  proper := isProper_ok a
  mem_iff _ := iff_of_false List.not_mem_nil h.not_faulty
  ordered := .nil

/-- A value that breaks a rule of its shape has one problem. -/
theorem Reports.fault {f : Fault} (hf : shape.Imposes f) (hbroken : f.BrokenBy v) :
    (Checked.fault f : Checked α).Reports shape v where
  proper := isProper_faulty (List.cons_ne_nil _ _)
  mem_iff p := by
    rw [Checked.fault, problems_faulty, List.mem_singleton]
    constructor
    · rintro rfl
      exact .own hf hbroken
    · intro hfaulty
      obtain ⟨hpath, hfault⟩ := hfaulty.eq_of_own hf hbroken
      cases p
      simp only [Problem.mk.injEq]
      exact ⟨hpath, hfault⟩
  ordered := List.pairwise_singleton _ _

/-- The result is there exactly if the value is of the shape. -/
theorem Reports.exists_ok_iff {x : Checked α} (h : x.Reports shape v) :
    (∃ a, x = .ok a) ↔ shape.Admits v := by
  rw [Shape.admits_iff]
  constructor
  · rintro ⟨a, rfl⟩ path fault hfaulty
    exact List.not_mem_nil ((h.mem_iff ⟨path, fault⟩).mpr hfaulty)
  · intro hnone
    refine h.proper (List.eq_nil_iff_forall_not_mem.mpr fun p hp => ?_)
    exact hnone p.path p.fault ((h.mem_iff p).mp hp)

/-! ### Fields -/

end Checked

/-- What is wrong with a declared field of an object, and the path from the object. -/
def FieldDecl.FaultyIn (d : FieldDecl) (o : Fields) (path : List PathStep) (fault : Fault) : Prop :=
  match o.get? d.name with
  | none => d.isRequired = true ∧ path = [.field d.name] ∧ fault = .missing
  | some w => ∃ rest, path = .field d.name :: rest ∧ d.shape.Faulty w rest fault

/-- One path comes before another, both from an object with declared fields. -/
inductive FieldsPrecede (decls : List FieldDecl) : List PathStep → List PathStep → Prop
  | fields {a b : FieldDecl} {p q : List PathStep} (hab : [a, b].Sublist decls) :
      FieldsPrecede decls (.field a.name :: p) (.field b.name :: q)
  | field {a : FieldDecl} {p q : List PathStep} (ha : a ∈ decls) (hpq : a.shape.Precedes p q) :
      FieldsPrecede decls (.field a.name :: p) (.field a.name :: q)

theorem FieldDecl.FaultyIn.exists_path {d : FieldDecl} {o : Fields} {path : List PathStep}
    {fault : Fault} (h : d.FaultyIn o path fault) : ∃ rest, path = .field d.name :: rest := by
  rw [FaultyIn] at h
  split at h
  · exact ⟨[], h.2.1⟩
  · obtain ⟨rest, hpath, -⟩ := h
    exact ⟨rest, hpath⟩

theorem FieldsPrecede.mono {decls decls' : List FieldDecl} {p q : List PathStep}
    (hsub : decls.Sublist decls') (h : FieldsPrecede decls p q) : FieldsPrecede decls' p q := by
  cases h with
  | fields hab => exact .fields (hab.trans hsub)
  | field ha hpq => exact .field (hsub.subset ha) hpq

/-- What is wrong with an object whose fields are known is wrong with one of them. -/
theorem Shape.faulty_obj_iff {shape : Shape} {o : Fields} {steps : List PathStep}
    {decls : List FieldDecl} (hopen : shape.opened? o = some (steps, decls))
    {path : List PathStep} {fault : Fault} :
    shape.Faulty (.obj o) path fault ↔
      ∃ rest, path = steps ++ rest ∧ ∃ d ∈ decls, d.FaultyIn o rest fault := by
  constructor
  · intro h
    cases h with
    | own himposed hbroken => exact absurd hbroken (not_brokenBy_obj hopen himposed)
    | absent hopen' hd hrequired habsent =>
      obtain ⟨rfl, rfl⟩ := Prod.mk.inj (Option.some.inj (hopen.symm.trans hopen'))
      refine ⟨_, rfl, _, hd, ?_⟩
      rw [FieldDecl.FaultyIn, habsent]
      exact ⟨hrequired, rfl, rfl⟩
    | field hopen' hd hw hfaulty =>
      obtain ⟨rfl, rfl⟩ := Prod.mk.inj (Option.some.inj (hopen.symm.trans hopen'))
      refine ⟨_, rfl, _, hd, ?_⟩
      rw [FieldDecl.FaultyIn, hw]
      exact ⟨_, rfl, hfaulty⟩
  · rintro ⟨rest, rfl, d, hd, hfaulty⟩
    rw [FieldDecl.FaultyIn] at hfaulty
    split at hfaulty
    · rename_i habsent
      obtain ⟨hrequired, rfl, rfl⟩ := hfaulty
      exact .absent hopen hd hrequired habsent
    · rename_i w hw
      obtain ⟨rest, rfl, hfaulty⟩ := hfaulty
      exact .field hopen hd hw hfaulty

namespace Checked

variable {α β : Type} {shape item : Shape} {v : Value} {o : Fields}

/-- The outcome of checking some fields of an object tells all that is wrong with them. -/
structure ReportsFields (x : Checked α) (decls : List FieldDecl) (o : Fields) : Prop where
  proper : x.IsProper
  mem_iff : ∀ p, p ∈ x.problems ↔ ∃ d ∈ decls, d.FaultyIn o p.path p.fault
  ordered : x.problems.Pairwise fun p q => FieldsPrecede decls p.path q.path

theorem ReportsFields.ok (a : α) : (Checked.ok a).ReportsFields [] o where
  proper := isProper_ok a
  mem_iff _ := by simp
  ordered := .nil

theorem ReportsFields.map {x : Checked α} {decls : List FieldDecl} (f : α → β)
    (h : x.ReportsFields decls o) : (x.map f).ReportsFields decls o where
  proper := h.proper.map
  mem_iff p := by rw [problems_map, h.mem_iff]
  ordered := by rw [problems_map]; exact h.ordered

/-- Fields that are checked one after the other. -/
theorem ReportsFields.and {f : Checked (α → β)} {x : Checked α} {ds es : List FieldDecl}
    (hf : f.ReportsFields ds o) (hx : x.ReportsFields es o) :
    (f.and x).ReportsFields (ds ++ es) o where
  proper := hf.proper.and hx.proper
  mem_iff p := by
    rw [problems_and, List.mem_append, hf.mem_iff, hx.mem_iff]
    simp only [List.mem_append, or_and_right, exists_or]
  ordered := by
    rw [problems_and, List.pairwise_append]
    refine ⟨hf.ordered.imp (.mono (List.sublist_append_left ds es)),
      hx.ordered.imp (.mono (List.sublist_append_right ds es)), fun p hp q hq => ?_⟩
    obtain ⟨d, hd, hp⟩ := (hf.mem_iff p).mp hp
    obtain ⟨e, he, hq⟩ := (hx.mem_iff q).mp hq
    obtain ⟨rest, hpath⟩ := hp.exists_path
    obtain ⟨rest', hpath'⟩ := hq.exists_path
    rw [hpath, hpath']
    exact .fields ((List.singleton_sublist.mpr hd).append (List.singleton_sublist.mpr he))

/-- A field that is there is checked as its value is. -/
theorem Reports.under_field {x : Checked α} {d : FieldDecl} {w : Value}
    (hw : o.get? d.name = some w) (h : x.Reports d.shape w) :
    (x.under (.field d.name)).ReportsFields [d] o where
  proper := h.proper.under
  mem_iff p := by
    rw [problems_under, mem_map_under]
    simp only [List.mem_singleton, exists_eq_left, FieldDecl.FaultyIn, hw, h.mem_iff]
  ordered := by
    rw [problems_under, List.pairwise_map]
    exact h.ordered.imp fun hpq => .field (List.mem_singleton_self d) hpq

theorem reportsFields_required {check : Value → Checked α} {name : String}
    (h : ∀ w, o.get? name = some w → (check w).Reports shape w) :
    (requiredField o name check).ReportsFields [.required name shape] o := by
  rw [requiredField]
  cases hw : o.get? name with
  | some w =>
    have hvalue : (check w).Reports (FieldDecl.required name shape).shape w := h w hw
    exact hvalue.under_field hw
  | none =>
    refine ⟨isProper_faulty (List.cons_ne_nil _ _), fun p => ?_, List.pairwise_singleton _ _⟩
    simp only [fault, under, problems_faulty, List.map_cons, List.map_nil, List.mem_singleton,
      exists_eq_left, FieldDecl.FaultyIn, FieldDecl.required, hw, true_and]
    constructor
    · rintro rfl
      exact ⟨rfl, rfl⟩
    · rintro ⟨hpath, hfault⟩
      cases p
      exact congrArg₂ Problem.mk hpath hfault

theorem reportsFields_optional {check : Value → Checked α} {name : String} {default : α}
    (h : ∀ w, o.get? name = some w → (check w).Reports shape w) :
    (optionalField o name default check).ReportsFields [.optional name shape] o := by
  rw [optionalField]
  cases hw : o.get? name with
  | some w =>
    have hvalue : (check w).Reports (FieldDecl.optional name shape).shape w := h w hw
    exact hvalue.under_field hw
  | none =>
    refine ⟨isProper_ok default, fun p => ?_, .nil⟩
    simp [FieldDecl.FaultyIn, FieldDecl.optional, hw]

/-! ### Objects -/

/-- An object is checked as its fields are; a tag that has been chosen is in front of every path. -/
theorem ReportsFields.reports {x y : Checked α} {steps : List PathStep} {decls : List FieldDecl}
    (hopen : shape.opened? o = some (steps, decls)) (h : x.ReportsFields decls o)
    (hproper : y.IsProper)
    (hy : y.problems = x.problems.map fun p => ⟨steps ++ p.path, p.fault⟩) :
    y.Reports shape (.obj o) where
  proper := hproper
  mem_iff p := by
    rw [hy, List.mem_map, Shape.faulty_obj_iff hopen]
    constructor
    · rintro ⟨q, hq, rfl⟩
      exact ⟨q.path, rfl, (h.mem_iff q).mp hq⟩
    · rintro ⟨rest, hpath, hfaulty⟩
      refine ⟨⟨rest, p.fault⟩, (h.mem_iff _).mpr hfaulty, ?_⟩
      rw [← hpath]
  ordered := by
    rw [hy, List.pairwise_map]
    refine h.ordered.imp fun hpq => ?_
    -- the paths are no variables yet, as a case split on their order needs
    generalize hp : Problem.path _ = p at hpq
    generalize hq : Problem.path _ = q at hpq
    cases hpq with
    | fields hab => exact .fields hopen hab
    | field ha hpq => exact .field hopen ha hpq

theorem ReportsFields.reports_record {x : Checked α} {r : Record}
    (h : x.ReportsFields r.fields o) : x.Reports (.record r) (.obj o) :=
  h.reports (Shape.opened?_record r) h.proper (by simp)

theorem ReportsFields.reports_union {x : Checked α} {u : Union} {word : String}
    {decls : List FieldDecl} (htag : o.get? u.tagName = some (.str word))
    (hdecls : u.fields? word = some decls) (h : x.ReportsFields decls o) :
    (x.under (.tag word)).Reports (.union u) (.obj o) :=
  h.reports (Shape.opened?_union_eq_some_iff.mpr ⟨word, htag, hdecls, rfl⟩) h.proper.under
    (by rw [problems_under]; rfl)

/-- The tag of an object tells how its fields are checked; without a tag that is known there is one
problem. -/
theorem reports_checkTagged {u : Union} {check : String → Fields → Option (Checked α)}
    (hnone : ∀ word o, u.fields? word = none → check word o = none)
    (hsome : ∀ (word : String) (o : Fields) (decls : List FieldDecl), v = .obj o →
      o.get? u.tagName = some (.str word) → u.fields? word = some decls →
      ∃ x, check word o = some x ∧ x.ReportsFields decls o) :
    (checkTagged u.tagName u.tags check v).Reports (.union u) v := by
  have hother : (∀ o, v ≠ .obj o) → (Checked.fault .notTagged : Checked α).Reports (.union u) v :=
    fun hv => .fault .notTagged hv
  cases v with
  | obj o =>
    rw [checkTagged]
    cases htag : Fields.get? o u.tagName with
    | none => exact .fault .noTag ⟨o, rfl, htag⟩
    | some tag =>
      have hunknown : (∀ word ∈ u.tags, tag ≠ .str word) →
          (Checked.fault (.unknownTag u.tagName tag.shown u.tags) : Checked α).Reports (.union u)
            (.obj o) := fun hword => .fault (.unknownTag tag.shown) ⟨tag, htag, rfl, hword⟩
      cases tag with
      | str word =>
        cases hdecls : u.fields? word with
        | some decls =>
          obtain ⟨x, hx, hreports⟩ := hsome word o decls rfl htag hdecls
          simp only [Value.text?, Option.bind_some, hx, Option.map_some]
          exact hreports.reports_union htag hdecls
        | none =>
          simp only [Value.text?, Option.bind_some, hnone word o hdecls, Option.map_none]
          refine hunknown ?_
          rintro word' hword' heq
          obtain rfl := Value.str.inj heq
          rw [← u.fields?_isSome_iff, hdecls] at hword'
          exact Bool.false_ne_true hword'
      | _ => exact hunknown (by simp)
  | _ => exact hother (by simp)

/-! ### Arrays -/

/-- The items of an array are checked one by one. -/
theorem reports_items {check : Value → Checked α} {items : List Value}
    (hitem : shape.item? = some item) (hown : ∀ f, shape.Imposes f → ¬ f.BrokenBy (.arr items))
    (h : ∀ w ∈ items, (check w).Reports item w) :
    (Checked.items (items.map check)).Reports shape (.arr items) := by
  have hproblems : (Checked.items (items.map check)).problems =
      items.zipIdx.flatMap fun x => (check x.1).problems.map (Problem.under (.index x.2)) := by
    rw [Checked.items, problems_itemsFrom, List.zipIdx_map, List.flatMap_map]
    rfl
  refine ⟨.itemsFrom (by simpa using fun w hw => (h w hw).proper), fun p => ?_, ?_⟩
  · rw [hproblems, List.mem_flatMap]
    constructor
    · rintro ⟨⟨w, i⟩, hmem, hp⟩
      have hw : items[i]? = some w := List.mem_zipIdx_iff_getElem?.mp hmem
      obtain ⟨rest, hpath, hp⟩ := mem_map_under.mp hp
      rw [hpath]
      exact .item hitem hw (((h w (List.mem_of_getElem? hw)).mem_iff _).mp hp)
    · intro hfaulty
      generalize hpath : p.path = path at hfaulty
      cases hfaulty with
      | own himposed hbroken => exact absurd hbroken (hown _ himposed)
      | @item _ item' _ i w rest _ hitem' hw hfaulty =>
        obtain rfl := Option.some.inj (hitem.symm.trans hitem')
        refine ⟨(w, i), List.mem_zipIdx_iff_getElem?.mpr hw, mem_map_under.mpr ⟨rest, hpath, ?_⟩⟩
        exact ((h w (List.mem_of_getElem? hw)).mem_iff ⟨rest, p.fault⟩).mpr hfaulty
  · rw [hproblems, List.pairwise_flatMap]
    constructor
    · rintro ⟨w, i⟩ hmem
      have hw : items[i]? = some w := List.mem_zipIdx_iff_getElem?.mp hmem
      rw [List.pairwise_map]
      exact (h w (List.mem_of_getElem? hw)).ordered.imp fun hpq => .item hitem hpq
    · -- the places of the items increase
      have hindices : items.zipIdx.Pairwise fun x y => x.2 < y.2 := by
        rw [← List.pairwise_map, List.zipIdx_map_snd]
        exact List.pairwise_lt_range'
      refine hindices.imp fun hlt p hp q hq => ?_
      obtain ⟨rest, hpath, -⟩ := mem_map_under.mp hp
      obtain ⟨rest', hpath', -⟩ := mem_map_under.mp hq
      rw [hpath, hpath']
      exact .items hitem hlt

theorem reports_checkList {check : Value → Checked α}
    (h : ∀ items, v = .arr items → ∀ w ∈ items, (check w).Reports item w) :
    (checkList check v).Reports (.list item) v := by
  have hother : (∀ items, v ≠ .arr items) →
      (Checked.fault .notList : Checked (List α)).Reports (.list item) v :=
    fun hv => .fault .notList hv
  cases v with
  | arr items =>
    refine reports_items rfl (fun f hf hbroken => ?_) (h items rfl)
    cases hf
    exact hbroken items rfl
  | _ => exact hother (by simp)

theorem length_of_itemsFrom_eq_ok {i : Nat} {xs : List (Checked α)} {as : List α}
    (h : itemsFrom i xs = .ok as) : as.length = xs.length := by
  induction xs generalizing i as with
  | nil =>
    cases h
    rfl
  | cons x rest ih =>
    rw [itemsFrom] at h
    cases x with
    | faulty ps =>
      cases hrest : itemsFrom (i + 1) rest <;> simp [hrest, under, map, Checked.and] at h
    | ok a =>
      cases hrest : itemsFrom (i + 1) rest with
      | faulty ps => simp [hrest, under, map, Checked.and] at h
      | ok as' =>
        simp only [hrest, under, map, Checked.and, Checked.ok.injEq] at h
        rw [← h, List.length_cons, List.length_cons, ih hrest]

theorem reports_checkNonemptyList {check : Value → Checked α}
    (h : ∀ items, v = .arr items → ∀ w ∈ items, (check w).Reports item w) :
    (checkNonemptyList check v).Reports (.nonemptyList item) v := by
  have hother : (∀ items, v ≠ .arr items) →
      (Checked.fault .notList : Checked (NonemptyList α)).Reports (.nonemptyList item) v :=
    fun hv => .fault .notListEither hv
  cases v with
  | arr items =>
    rw [checkNonemptyList]
    by_cases hempty : items = []
    · subst hempty
      exact .fault .emptyList rfl
    · have hown : ∀ f, (Shape.nonemptyList item).Imposes f → ¬ f.BrokenBy (.arr items) := by
        intro f hf hbroken
        cases hf with
        | notListEither => exact hbroken items rfl
        | emptyList => exact hempty (Value.arr.inj hbroken)
      have hreports : (checkList check (.arr items)).Reports (.nonemptyList item) (.arr items) :=
        reports_items rfl hown (h items rfl)
      -- what is asked afterwards is whether there are results, of which there are as many as items
      cases hx : checkList check (.arr items) with
      | ok xs =>
        have hlength : xs.length = items.length := by
          rw [length_of_itemsFrom_eq_ok hx, List.length_map]
        have hne : xs ≠ [] := by
          rintro rfl
          exact hempty (List.length_eq_zero_iff.mp hlength.symm)
        simp only [dif_neg hne]
        exact .ok _ (hreports.exists_ok_iff.mp ⟨xs, hx⟩)
      | faulty ps =>
        rw [hx] at hreports
        exact ⟨fun hnone => absurd (hreports.proper hnone) (by simp), hreports.mem_iff,
          hreports.ordered⟩
  | _ => exact hother (by simp)

end Checked

end SchemaCatalog
