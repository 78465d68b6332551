import Mathlib.Data.List.Nodup
import SchemaCatalog.Json.Shown
import SchemaCatalog.Proofs.Json.Grammar

/-!
# Names that occur more than once

In a text, an object may have several fields of one name, of which the last counts. Among the values
that are handed over as such there are none like that: `Value.merged` is the value with each name
once in each object, at the place where it first stands. Nothing that can be seen of a value is lost
with the other fields: what a name stands for (`get?_distinct`) and how a message shows the value
(`shown_merged`).
-/

namespace SchemaCatalog.Json

mutual

/-- A value in all of whose objects each name occurs once. -/
def Value.merged : Value → Value
  | .arr items => .arr (mergedItems items)
  | .obj fields => .obj (Fields.distinct (mergedFields fields))
  | v => v

/-- The items of an array, merged. -/
def mergedItems : List Value → List Value
  | [] => []
  | v :: rest => v.merged :: mergedItems rest

/-- The fields of an object with their values merged. -/
def mergedFields : List (String × Value) → List (String × Value)
  | [] => []
  | (name, v) :: rest => (name, v.merged) :: mergedFields rest

end

theorem mergedItems_eq_map (items : List Value) : mergedItems items = items.map Value.merged := by
  induction items with
  | nil => rfl
  | cons v rest ih => rw [mergedItems, List.map_cons, ih]

theorem mergedFields_eq_map (fields : Fields) :
    mergedFields fields = fields.map fun f => (f.1, f.2.merged) := by
  induction fields with
  | nil => rfl
  | cons field rest ih =>
    obtain ⟨name, v⟩ := field
    rw [mergedFields, List.map_cons, ih]

namespace Fields

variable {fields done : Fields} {name : String} {field : String × Value}

/-! ### What a name stands for -/

theorem get?_map (f : String → Value → Value) (fields : Fields) (name : String) :
    Fields.get? (fields.map fun field => (field.1, f field.1 field.2)) name =
      (fields.get? name).map (f name) := by
  induction fields with
  | nil => rfl
  | cons field rest ih =>
    obtain ⟨key, v⟩ := field
    rw [List.map_cons, Fields.get?, ih, Fields.get?]
    cases Fields.get? rest name with
    | some w => rfl
    | none =>
      by_cases hkey : key = name
      · subst hkey
        simp
      · simp [hkey]

/-- A name that no field has stands for nothing. -/
theorem get?_eq_none_iff : fields.get? name = none ↔ name ∉ fields.map (·.1) := by
  induction fields with
  | nil => simp [Fields.get?]
  | cons field rest ih =>
    obtain ⟨key, v⟩ := field
    rw [Fields.get?, List.map_cons, List.mem_cons, not_or, ← ih]
    cases Fields.get? rest name with
    | some w => simp
    | none =>
      by_cases hkey : key = name
      · simp [hkey]
      · simp [hkey, Ne.symm hkey]

theorem get?_append (fields rest : Fields) (name : String) :
    Fields.get? (fields ++ rest) name = (Fields.get? rest name).or (fields.get? name) := by
  induction fields with
  | nil => rw [List.nil_append, Fields.get?, Option.or_none]
  | cons field fields ih =>
    obtain ⟨key, v⟩ := field
    rw [List.cons_append, Fields.get?, ih, Fields.get?]
    cases Fields.get? rest name with
    | some w => rfl
    | none =>
      rw [Option.none_or, Option.none_or]

theorem mem_of_get? {v : Value} (h : fields.get? name = some v) : (name, v) ∈ fields := by
  induction fields with
  | nil => simp [Fields.get?] at h
  | cons field rest ih =>
    obtain ⟨key, w⟩ := field
    rw [Fields.get?] at h
    cases hrest : Fields.get? rest name with
    | some u =>
      rw [hrest] at h
      exact List.mem_cons_of_mem _ (ih (hrest.trans h))
    | none =>
      rw [hrest] at h
      dsimp only at h
      split_ifs at h with hkey
      obtain rfl := Option.some.inj h
      rw [hkey]
      exact List.mem_cons_self

/-- The field of a name that counts is the first from behind. -/
theorem find?_reverse (fields : Fields) (name : String) :
    fields.reverse.find? (·.1 = name) = (fields.get? name).map fun v => (name, v) := by
  induction fields with
  | nil => rfl
  | cons field rest ih =>
    obtain ⟨key, v⟩ := field
    rw [List.reverse_cons, List.find?_append, ih, Fields.get?]
    cases Fields.get? rest name with
    | some w => rfl
    | none =>
      by_cases hkey : key = name
      · simp [hkey]
      · simp [hkey]

/-! ### Each name once -/

/-- Puts a field to others, in the place of the one that has its name. -/
def put (done : Fields) (field : String × Value) : Fields :=
  if done.any (·.1 = field.1) then
    done.map fun (key, w) => if key = field.1 then (key, field.2) else (key, w)
  else done ++ [field]

theorem distinct_eq_foldl (fields : Fields) : fields.distinct = fields.foldl put [] := rfl

theorem any_eq_true_iff : done.any (·.1 = field.1) = true ↔ field.1 ∈ done.map (·.1) := by
  rw [List.any_eq_true, List.mem_map]
  exact exists_congr fun f => and_congr_right fun _ => decide_eq_true_iff

/-- The names stay, and the name of the field comes behind if it is new. -/
theorem names_put (done : Fields) (field : String × Value) :
    (done.put field).map (·.1) =
      if field.1 ∈ done.map (·.1) then done.map (·.1) else done.map (·.1) ++ [field.1] := by
  rw [put]
  by_cases hmem : field.1 ∈ done.map (·.1)
  · rw [if_pos (any_eq_true_iff.mpr hmem), if_pos hmem, List.map_map]
    refine List.map_congr_left fun f _ => ?_
    obtain ⟨key, w⟩ := f
    dsimp only [Function.comp_apply]
    split_ifs
    · rfl
    · rfl
  · rw [if_neg (fun h => hmem (any_eq_true_iff.mp h)), if_neg hmem, List.map_append]
    rfl

theorem nodup_put (h : (done.map (·.1)).Nodup) : ((done.put field).map (·.1)).Nodup := by
  rw [names_put]
  split_ifs with hmem
  · exact h
  · exact h.append (List.nodup_singleton _) (by simpa using hmem)

/-- The field that is put counts. -/
theorem get?_put (done : Fields) (field : String × Value) (name : String) :
    (done.put field).get? name = if field.1 = name then some field.2 else done.get? name := by
  rw [put]
  by_cases hmem : field.1 ∈ done.map (·.1)
  · have hvalues : (done.map fun (key, w) => if key = field.1 then (key, field.2) else (key, w)) =
        done.map fun f => (f.1, if f.1 = field.1 then field.2 else f.2) := by
      refine List.map_congr_left fun f _ => ?_
      dsimp only
      split_ifs
      · rfl
      · rfl
    rw [if_pos (any_eq_true_iff.mpr hmem), hvalues,
      get?_map fun key w => if key = field.1 then field.2 else w]
    by_cases hname : field.1 = name
    · obtain ⟨w, hw⟩ := Option.ne_none_iff_exists'.mp fun h => get?_eq_none_iff.mp h (hname ▸ hmem)
      rw [if_pos hname, hw, Option.map_some, if_pos hname.symm]
    · simp [hname, Ne.symm hname]
  · rw [if_neg (fun h => hmem (any_eq_true_iff.mp h)), get?_append]
    by_cases hname : field.1 = name
    · simp [Fields.get?, hname]
    · simp [Fields.get?, hname]

theorem get?_distinct (fields : Fields) (name : String) :
    fields.distinct.get? name = fields.get? name := by
  -- what has been put so far counts for the names that do not come any more
  have hfold : ∀ done : Fields,
      (fields.foldl put done).get? name = (fields.get? name).or (done.get? name) := by
    induction fields with
    | nil => exact fun done => rfl
    | cons field rest ih =>
      intro done
      rw [List.foldl_cons, ih, get?_put, Fields.get?]
      cases Fields.get? rest name with
      | some w => rfl
      | none =>
        rw [Option.none_or]
        split_ifs
        · rfl
        · rfl
  rw [distinct_eq_foldl, hfold, Fields.get?, Option.or_none]

theorem nodup_distinct (fields : Fields) : (fields.distinct.map (·.1)).Nodup := by
  have hfold : ∀ done : Fields, (done.map (·.1)).Nodup →
      ((fields.foldl put done).map (·.1)).Nodup := by
    induction fields with
    | nil => exact fun done h => h
    | cons field rest ih => exact fun done h => ih _ (nodup_put h)
  exact hfold [] List.nodup_nil

/-- Where each name occurs once, all fields stay. -/
theorem distinct_of_nodup (h : (fields.map (·.1)).Nodup) : fields.distinct = fields := by
  -- no field finds its name among those that have been put before
  have hfold : ∀ done : Fields, ((done ++ fields).map (·.1)).Nodup →
      fields.foldl put done = done ++ fields := by
    clear h
    induction fields with
    | nil => exact fun done _ => (List.append_nil done).symm
    | cons field rest ih =>
      intro done h
      have hnew : field.1 ∉ done.map (·.1) := by
        rw [List.map_append, List.map_cons] at h
        exact fun hmem => List.disjoint_of_nodup_append h hmem List.mem_cons_self
      have hput : done.put field = done ++ [field] :=
        if_neg fun hany => hnew (any_eq_true_iff.mp hany)
      rw [List.foldl_cons, hput, ih _ (by simpa using h), List.append_assoc, List.singleton_append]
  exact hfold [] h

/-- Which names there are, and in which order, does not depend on the values. -/
theorem names_distinct_congr {fields' : Fields} (h : fields.map (·.1) = fields'.map (·.1)) :
    fields.distinct.map (·.1) = fields'.distinct.map (·.1) := by
  have hfold : ∀ done done' : Fields, done.map (·.1) = done'.map (·.1) →
      (fields.foldl put done).map (·.1) = (fields'.foldl put done').map (·.1) := by
    induction fields generalizing fields' with
    | nil =>
      obtain rfl := List.map_eq_nil_iff.mp h.symm
      exact fun _ _ hdone => hdone
    | cons field rest ih =>
      obtain ⟨field', rest', rfl, hname, hrest⟩ := List.map_eq_cons_iff.mp h.symm
      intro done done' hdone
      refine ih hrest.symm _ _ ?_
      rw [names_put, names_put, hdone, hname]
  exact hfold [] [] rfl

end Fields

/-- What a name stands for in an object that is merged. -/
theorem get?_merged (fields : Fields) (name : String) :
    Fields.get? (Fields.distinct (mergedFields fields)) name =
      (fields.get? name).map Value.merged := by
  rw [Fields.get?_distinct, mergedFields_eq_map, Fields.get?_map fun _ => Value.merged]

/-! ### How a value is shown -/

theorem shownItems_eq_map (items : List Value) :
    shownItems items = items.map Value.shownInside := by
  induction items with
  | nil => rfl
  | cons v rest ih => rw [shownItems, List.map_cons, ih]

theorem shownFields_eq_map (fields : Fields) :
    shownFields fields = fields.map fun f => (f.1, f.2.shownInside) := by
  induction fields with
  | nil => rfl
  | cons field rest ih =>
    obtain ⟨name, v⟩ := field
    rw [shownFields, List.map_cons, ih]

/-- The field of a name that counts, as a message shows it. -/
def Fields.shownField? (fields : Fields) (name : String) : Option String :=
  (fields.get? name).map fun v => showQuoted name ++ ": " ++ v.shownInside

theorem shownInside_obj (fields : Fields) :
    (Value.obj fields).shownInside = "\x7b" ++ String.intercalate ", "
      ((fields.distinct.map (·.1)).filterMap fields.shownField?) ++ "\x7d" := by
  have hlast : ∀ name, (shownFields fields).reverse.find? (·.1 = name) =
      (fields.get? name).map fun v => (name, v.shownInside) := by
    intro name
    have hfind := Fields.find?_reverse fields name
    rw [shownFields_eq_map, ← List.map_reverse, List.find?_map]
    change (fields.reverse.find? (·.1 = name)).map _ = _
    rw [hfind, Option.map_map]
    rfl
  rw [Value.shownInside]
  simp only [hlast, Option.map_map]
  rfl

theorem shownInside_merged (v : Value) : v.merged.shownInside = v.shownInside := by
  induction v using Value.induct_children with
  | _ v ih =>
    cases v with
    | arr items =>
      have hitems : (items.map Value.merged).map Value.shownInside =
          items.map Value.shownInside := by
        rw [List.map_map]
        exact List.map_congr_left ih
      rw [Value.merged, Value.shownInside, Value.shownInside, mergedItems_eq_map,
        shownItems_eq_map, shownItems_eq_map, hitems]
    | obj fields =>
      have hnames : (mergedFields fields).map (·.1) = fields.map (·.1) := by
        rw [mergedFields_eq_map, List.map_map]
        rfl
      have hfields : Fields.shownField? (Fields.distinct (mergedFields fields)) =
          Fields.shownField? fields := by
        funext name
        rw [Fields.shownField?, get?_merged, Fields.shownField?]
        cases hget : Fields.get? fields name with
        | none => rfl
        | some w => simp [ih w (List.mem_map_of_mem (Fields.mem_of_get? hget))]
      rw [Value.merged, shownInside_obj, shownInside_obj,
        Fields.distinct_of_nodup (Fields.nodup_distinct _), hfields,
        Fields.names_distinct_congr hnames]
    | _ => rfl

theorem shown_merged (v : Value) : v.merged.shown = v.shown := by
  cases v with
  | arr items => exact shownInside_merged (.arr items)
  | obj fields => exact shownInside_merged (.obj fields)
  | _ => rfl

end SchemaCatalog.Json
