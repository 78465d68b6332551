import SchemaCatalog.Proofs.Statement.Grammar

/-!
# What is wrong with a value, and where

A value either is of a shape or has faults, and not both (`Shape.admits_iff`). A value that breaks a
rule of its own shape has that single fault (`Shape.Faulty.eq_of_own`): of what is inside of it
nothing is known. Every fault is where its path says (`Shape.Faulty.located`), and of two paths that
stand in the order of `Shape.Precedes` one is not the other (`Shape.Precedes.ne`).
-/

namespace SchemaCatalog

open Json

/-! ### Tags -/

/-- The fields of a form are known exactly if its tag is. -/
theorem Union.fields?_isSome_iff (u : Union) (word : String) :
    (u.fields? word).isSome = true ↔ word ∈ u.tags := by
  cases u with
  | alteration =>
    simp only [fields?, tags, AlterationKind.ofWord?, Option.isSome_map, List.find?_isSome,
      decide_eq_true_eq, List.mem_map]
  | statement =>
    simp only [fields?, tags, StatementKind.ofWord?, Option.isSome_map, List.find?_isSome,
      decide_eq_true_eq, List.mem_map]

namespace Shape

variable {shape : Shape} {o : Fields} {steps : List PathStep} {decls : List FieldDecl} {v : Value}
  {path : List PathStep} {f fault : Fault}

/-! ### Objects -/

@[simp] theorem opened?_record (r : Record) : (record r).opened? o = some ([], r.fields) := rfl

theorem opened?_union_eq_some_iff {u : Union} :
    (union u).opened? o = some (steps, decls) ↔
      ∃ word, o.get? u.tagName = some (.str word) ∧ u.fields? word = some decls ∧
        steps = [.tag word] := by
  simp only [opened?, Option.bind_eq_some_iff, Option.map_eq_some_iff, Prod.mk.injEq]
  constructor
  · rintro ⟨word, ⟨tag, htag, hword⟩, decls', hdecls, rfl, rfl⟩
    cases tag with
    | str s =>
      obtain rfl := Option.some.inj hword
      exact ⟨_, htag, hdecls, rfl⟩
    | _ => simp [Value.text?] at hword
  · rintro ⟨word, htag, hdecls, rfl⟩
    exact ⟨word, ⟨.str word, htag, rfl⟩, decls, hdecls, rfl, rfl⟩

/-- Objects are either of a single kind or of one that a tag tells. -/
theorem exists_of_opened? (h : shape.opened? o = some (steps, decls)) :
    (∃ r, shape = record r) ∨ ∃ u, shape = union u := by
  cases shape with
  | record r => exact .inl ⟨r, rfl⟩
  | union u => exact .inr ⟨u, rfl⟩
  | _ => simp [opened?] at h

/-- The only steps on the way to the fields of an object are tags. -/
theorem untagged_of_opened? (h : shape.opened? o = some (steps, decls)) : untagged steps = [] := by
  obtain ⟨r, rfl⟩ | ⟨u, rfl⟩ := exists_of_opened? h
  · obtain ⟨rfl, -⟩ := Prod.mk.inj (Option.some.inj h)
    rfl
  · obtain ⟨word, -, -, rfl⟩ := opened?_union_eq_some_iff.mp h
    rfl

/-- The fields of an object have different names. -/
theorem nodup_of_opened? (h : shape.opened? o = some (steps, decls)) :
    (decls.map (·.name)).Nodup := by
  obtain ⟨r, rfl⟩ | ⟨u, rfl⟩ := exists_of_opened? h
  · obtain ⟨-, rfl⟩ := Prod.mk.inj (Option.some.inj h)
    cases r <;> decide
  · obtain ⟨word, -, hdecls, -⟩ := opened?_union_eq_some_iff.mp h
    cases u with
    | alteration =>
      obtain ⟨kind, -, rfl⟩ := Option.map_eq_some_iff.mp hdecls
      cases kind <;> decide
    | statement =>
      obtain ⟨kind, -, rfl⟩ := Option.map_eq_some_iff.mp hdecls
      cases kind <;> decide

/-! ### Faults of a value itself -/

/-- An object whose fields are known breaks no rule of its shape. -/
theorem not_brokenBy_obj (hopen : shape.opened? o = some (steps, decls)) (hf : shape.Imposes f) :
    ¬ f.BrokenBy (.obj o) := by
  intro hbroken
  cases hf with
  | notString | emptyString | notObjectKind | notBool | unreadableBool | notList | notListEither
  | emptyList => simp [opened?] at hopen
  | notObject | notTagged => exact hbroken o rfl
  | noTag =>
    obtain ⟨word, htag, -⟩ := opened?_union_eq_some_iff.mp hopen
    obtain ⟨o', ho, habsent⟩ := hbroken
    obtain rfl := Value.obj.inj ho
    simp [htag] at habsent
  | @unknownTag u shown =>
    obtain ⟨word, htag, hdecls, -⟩ := opened?_union_eq_some_iff.mp hopen
    obtain ⟨tag, htag', -, hunknown⟩ := hbroken
    obtain rfl := Option.some.inj (htag.symm.trans htag')
    refine hunknown word ((u.fields?_isSome_iff word).mp ?_) rfl
    rw [hdecls]
    rfl

/-- An array that has an item breaks no rule of its shape. -/
theorem not_brokenBy_arr {item : Shape} {items : List Value} {i : Nat} {w : Value}
    (hitem : shape.item? = some item) (hw : items[i]? = some w) (hf : shape.Imposes f) :
    ¬ f.BrokenBy (.arr items) := by
  intro hbroken
  cases hf with
  | notList | notListEither => exact hbroken items rfl
  | emptyList =>
    obtain rfl := Value.arr.inj hbroken
    simp at hw
  | _ => simp [item?] at hitem

/-- A number or a text is of a type that truth values are read from. -/
theorem not_brokenBy_notBool (h : Fault.unreadableBool.BrokenBy v) :
    ¬ Fault.notBool.BrokenBy v := by
  rintro ⟨-, htext, hnumber⟩
  rcases h.2 with ⟨s, rfl⟩ | hsome
  · exact htext s rfl
  · simp [hnumber] at hsome

/-- An object whose tag is not known has a tag. -/
theorem not_brokenBy_noTag {u : Union} {shown : String}
    (h : (Fault.unknownTag u.tagName shown u.tags).BrokenBy v) :
    ¬ (Fault.noTag u.tagName).BrokenBy v := by
  rintro ⟨o, rfl, habsent⟩
  obtain ⟨tag, htag, -⟩ := h
  rw [Value.field?, habsent] at htag
  simp at htag

/-- What has a field is an object. -/
theorem not_brokenBy_notTagged {u : Union} {shown : String}
    (h : (Fault.unknownTag u.tagName shown u.tags).BrokenBy v) : ¬ Fault.notTagged.BrokenBy v := by
  intro hnot
  obtain ⟨tag, htag, -⟩ := h
  cases v with
  | obj o => exact hnot o rfl
  | _ => simp [Value.field?] at htag

/-- A value breaks at most one of the rules of its shape. -/
theorem Imposes.eq_of_brokenBy (hf : shape.Imposes f) (hg : shape.Imposes fault)
    (hbf : f.BrokenBy v) (hbg : fault.BrokenBy v) : f = fault := by
  cases hf with
  | notObjectKind | notList | notObject =>
    cases hg
    rfl
  | notString =>
    cases hg with
    | notString => rfl
    | emptyString => exact absurd hbg (hbf "")
  | emptyString =>
    cases hg with
    | notString => exact absurd hbf (hbg "")
    | emptyString => rfl
  | notBool =>
    cases hg with
    | notBool => rfl
    | unreadableBool => exact absurd hbf (not_brokenBy_notBool hbg)
  | unreadableBool =>
    cases hg with
    | notBool => exact absurd hbg (not_brokenBy_notBool hbf)
    | unreadableBool => rfl
  | notListEither =>
    cases hg with
    | notListEither => rfl
    | emptyList => exact absurd hbg (hbf [])
  | emptyList =>
    cases hg with
    | notListEither => exact absurd hbf (hbg [])
    | emptyList => rfl
  | notTagged =>
    cases hg with
    | notTagged => rfl
    | noTag =>
      obtain ⟨o, ho, -⟩ := hbg
      exact absurd ho (hbf o)
    | unknownTag shown => exact absurd hbf (not_brokenBy_notTagged hbg)
  | noTag =>
    cases hg with
    | notTagged =>
      obtain ⟨o, ho, -⟩ := hbf
      exact absurd ho (hbg o)
    | noTag => rfl
    | unknownTag shown => exact absurd hbf (not_brokenBy_noTag hbg)
  | unknownTag shown =>
    cases hg with
    | notTagged => exact absurd hbg (not_brokenBy_notTagged hbf)
    | noTag => exact absurd hbg (not_brokenBy_noTag hbf)
    | unknownTag shown' =>
      -- both show the tag that is there
      obtain ⟨tag, htag, rfl, -⟩ := hbf
      obtain ⟨tag', htag', rfl, -⟩ := hbg
      rw [Option.some.inj (htag.symm.trans htag')]

/-- A value that breaks a rule of its shape has no other fault. -/
theorem Faulty.eq_of_own (h : shape.Faulty v path fault) (hf : shape.Imposes f)
    (hbroken : f.BrokenBy v) : path = [] ∧ fault = f := by
  cases h with
  | own himposed hbroken' => exact ⟨rfl, himposed.eq_of_brokenBy hf hbroken' hbroken⟩
  | absent hopen => exact absurd hbroken (not_brokenBy_obj hopen hf)
  | field hopen => exact absurd hbroken (not_brokenBy_obj hopen hf)
  | item hitem hw => exact absurd hbroken (not_brokenBy_arr hitem hw hf)

/-! ### Values of a shape have no faults, and no others -/

theorem Admits.not_faulty (h : shape.Admits v) : ¬ shape.Faulty v path fault := by
  intro hfaulty
  induction h generalizing path fault with
  | text hs =>
    cases hfaulty with
    | own himposed hbroken =>
      cases himposed with
      | notString => exact hbroken _ rfl
      | emptyString => exact hs (Value.str.inj hbroken)
  | objectKind kind =>
    cases hfaulty with
    | own himposed hbroken =>
      cases himposed
      exact hbroken kind rfl
  | truth htruth =>
    cases hfaulty with
    | own himposed hbroken =>
      cases himposed with
      | notBool =>
        obtain ⟨hbool, htext, hnumber⟩ := hbroken
        cases htruth with
        | bool b => exact hbool b rfl
        | str hs => exact htext _ rfl
        | number hv hn => simp [hnumber] at hv
      | unreadableBool => exact hbroken.1 htruth
    | absent hopen => simp [opened?] at hopen
    | field hopen => simp [opened?] at hopen
    | item hitem => simp [item?] at hitem
  | list hitems ih =>
    cases hfaulty with
    | own himposed hbroken =>
      cases himposed
      exact hbroken _ rfl
    | item hitem hw hfaulty =>
      obtain rfl := Option.some.inj hitem
      exact ih _ (List.mem_of_getElem? hw) hfaulty
  | nonemptyList hne hitems ih =>
    cases hfaulty with
    | own himposed hbroken =>
      cases himposed with
      | notListEither => exact hbroken _ rfl
      | emptyList => exact hne (Value.arr.inj hbroken)
    | item hitem hw hfaulty =>
      obtain rfl := Option.some.inj hitem
      exact ih _ (List.mem_of_getElem? hw) hfaulty
  | object hopen hrequired hfields ih =>
    cases hfaulty with
    | own himposed hbroken => exact not_brokenBy_obj hopen himposed hbroken
    | absent hopen' hd hreq habsent =>
      obtain ⟨rfl, rfl⟩ := Prod.mk.inj (Option.some.inj (hopen.symm.trans hopen'))
      exact hrequired _ hd hreq habsent
    | field hopen' hd hw hfaulty =>
      obtain ⟨rfl, rfl⟩ := Prod.mk.inj (Option.some.inj (hopen.symm.trans hopen'))
      exact ih _ hd _ hw hfaulty

/-- An object that breaks no rule of its shape has known fields. -/
theorem exists_opened? {u : Union} (h : ∀ f, (union u).Imposes f → ¬ f.BrokenBy (.obj o)) :
    ∃ steps decls, (union u).opened? o = some (steps, decls) := by
  cases htag : o.get? u.tagName with
  | none => exact absurd ⟨o, rfl, htag⟩ (h _ .noTag)
  | some tag =>
    by_contra hnone
    refine h _ (.unknownTag tag.shown) ⟨tag, htag, rfl, ?_⟩
    rintro word hword rfl
    obtain ⟨decls, hdecls⟩ := Option.isSome_iff_exists.mp ((u.fields?_isSome_iff word).mpr hword)
    exact hnone ⟨_, decls, opened?_union_eq_some_iff.mpr ⟨word, htag, hdecls, rfl⟩⟩

/-- What has no fault is of the shape: by induction on the value, inside of which are those of its
fields and items. -/
theorem admits_of_not_faulty {shape : Shape} {v : Value}
    (h : ∀ path fault, ¬ shape.Faulty v path fault) : shape.Admits v := by
  have hown : ∀ f, shape.Imposes f → ¬ f.BrokenBy v := fun f hf hbroken => h [] f (.own hf hbroken)
  -- an object whose fields are known is treated in the same way whether a tag has told them or not
  have hobject : ∀ o steps decls, v = .obj o → shape.opened? o = some (steps, decls) →
      shape.Admits v := by
    intro o steps decls hv hopen
    rw [hv] at h ⊢
    refine .object hopen (fun d hd hrequired habsent => ?_) fun d hd w hw => ?_
    · exact h _ _ (.absent hopen hd hrequired habsent)
    · have hlt : sizeOf w < sizeOf v := by
        have hfield := Fields.sizeOf_lt_of_get? hw
        rw [hv, Value.obj.sizeOf_spec]
        omega
      exact admits_of_not_faulty fun path fault hfaulty => h _ _ (.field hopen hd hw hfaulty)
  have hitems : ∀ item items, v = .arr items → shape.item? = some item →
      ∀ w ∈ items, item.Admits w := by
    intro item items hv hitem w hw
    rw [hv] at h
    obtain ⟨i, hi⟩ := List.mem_iff_getElem?.mp hw
    have hlt : sizeOf w < sizeOf v := by
      have hmem := List.sizeOf_lt_of_mem hw
      rw [hv, Value.arr.sizeOf_spec]
      omega
    exact admits_of_not_faulty fun path fault hfaulty => h _ _ (.item hitem hi hfaulty)
  cases shape with
  | text =>
    obtain ⟨s, rfl⟩ : ∃ s, v = .str s := not_forall_not.mp (hown _ .notString)
    exact .text fun hs => hown _ .emptyString (congrArg Value.str hs)
  | objectKind =>
    obtain ⟨kind, rfl⟩ : ∃ kind : ObjectKind, v = .str kind.word :=
      not_forall_not.mp (hown _ .notObjectKind)
    exact .objectKind kind
  | truth =>
    refine .truth ?_
    by_contra htruth
    -- the value is of no type that truth values are read from, but that is a fault, too
    refine hown _ .notBool ⟨fun b hb => htruth (hb ▸ .bool b), fun s hs => ?_, ?_⟩
    · exact hown _ .unreadableBool ⟨htruth, .inl ⟨s, hs⟩⟩
    · refine Option.not_isSome_iff_eq_none.mp fun hsome => ?_
      exact hown _ .unreadableBool ⟨htruth, .inr hsome⟩
  | list item =>
    obtain ⟨items, rfl⟩ : ∃ items, v = .arr items := not_forall_not.mp (hown _ .notList)
    exact .list (hitems item items rfl rfl)
  | nonemptyList item =>
    obtain ⟨items, rfl⟩ : ∃ items, v = .arr items := not_forall_not.mp (hown _ .notListEither)
    refine .nonemptyList (fun hempty => ?_) (hitems item items rfl rfl)
    exact hown _ .emptyList (congrArg Value.arr hempty)
  | record r =>
    obtain ⟨o, rfl⟩ : ∃ o, v = .obj o := not_forall_not.mp (hown _ .notObject)
    exact hobject o [] r.fields rfl rfl
  | union u =>
    obtain ⟨o, rfl⟩ : ∃ o, v = .obj o := not_forall_not.mp (hown _ .notTagged)
    obtain ⟨steps, decls, hopen⟩ := exists_opened? hown
    exact hobject o steps decls rfl hopen
termination_by sizeOf v

/-- A value is of a shape exactly if it has no faults. -/
theorem admits_iff : shape.Admits v ↔ ∀ path fault, ¬ shape.Faulty v path fault :=
  ⟨fun h _ _ => h.not_faulty, admits_of_not_faulty⟩

/-! ### Where faults are -/

/-- A fault is where its path says. -/
theorem Faulty.located (h : shape.Faulty v path fault) :
    Problem.LocatedIn ⟨path, fault⟩ v := by
  induction h with
  | @own shape v fault himposed hbroken => exact .inl ⟨v, rfl, hbroken⟩
  | @absent shape o steps decls d hopen hd hrequired habsent =>
    refine .inr ⟨rfl, [], d.name, o, ?_, rfl, habsent⟩
    rw [untagged, List.filter_append, ← untagged, untagged_of_opened? hopen]
    rfl
  | @field shape o steps decls d w path fault hopen hd hw hfaulty ih =>
    have huntagged : untagged (steps ++ .field d.name :: path) =
        .field d.name :: untagged path := by
      rw [untagged, List.filter_append, ← untagged, untagged_of_opened? hopen]
      rfl
    have hat := Value.at?_field hw
    rcases ih with ⟨u, hu, hbroken⟩ | ⟨hmissing, before, name, o', hpath, ho', habsent⟩
    · exact .inl ⟨u, by rw [huntagged, hat]; exact hu, hbroken⟩
    · refine .inr ⟨hmissing, .field d.name :: before, name, o', ?_, by rw [hat]; exact ho', habsent⟩
      rw [huntagged, hpath]
      rfl
  | @item shape item items i w path fault hitem hw hfaulty ih =>
    have hat := Value.at?_index hw
    rcases ih with ⟨u, hu, hbroken⟩ | ⟨hmissing, before, name, o', hpath, ho', habsent⟩
    · exact .inl ⟨u, (hat _).trans hu, hbroken⟩
    · refine .inr ⟨hmissing, .index i :: before, name, o', ?_, (hat _).trans ho', habsent⟩
      exact congrArg (PathStep.index i :: ·) hpath

/-! ### The order of paths -/

/-- A path does not come before itself. -/
theorem Precedes.ne {p q : List PathStep} (h : Precedes shape p q) : p ≠ q := by
  induction h with
  | @fields shape o steps decls a b p q hopen hab =>
    intro heq
    have hname := PathStep.field.inj (List.cons.inj (List.append_cancel_left heq)).1
    -- the names of declared fields are different
    have hnodup := (hab.map (·.name)).nodup (nodup_of_opened? hopen)
    simp [hname] at hnodup
  | field hopen ha hpq ih =>
    exact fun heq => ih (List.cons.inj (List.append_cancel_left heq)).2
  | items hitem hij =>
    intro heq
    have hindex := PathStep.index.inj (List.cons.inj heq).1
    omega
  | item hitem hpq ih => exact fun heq => ih (List.cons.inj heq).2

end Shape

end SchemaCatalog
