import Mathlib.Data.List.Nodup
import SchemaCatalog.Proofs.Json.Merging
import SchemaCatalog.Proofs.Json.Reading

/-!
# The order of fields

A value may be written with the fields of its objects in any order. `Value.Reorders` tells the
values that differ from a given one in nothing else. Where no name occurs more than once, each name
stands for the same, in such an order (`Reorders.get?`), and the same is nested
(`Reorders.opensWithin`).
-/

namespace SchemaCatalog.Json

/-- A value is another one, but for the order of fields. -/
inductive Value.Reorders : Value → Value → Prop
  | null : Reorders .null .null
  | bool (b : Bool) : Reorders (.bool b) (.bool b)
  | int (n : Int) : Reorders (.int n) (.int n)
  | real (x : Binary64) : Reorders (.real x) (.real x)
  | str (s : String) : Reorders (.str s) (.str s)
  | arr {items items' : List Value} (h : List.Forall₂ Reorders items items') :
      Reorders (.arr items) (.arr items')
  | obj {fields between fields' : Fields} (hnames : fields.map (·.1) = between.map (·.1))
      (hvalues : List.Forall₂ Reorders (fields.map (·.2)) (between.map (·.2)))
      (hperm : between.Perm fields') : Reorders (.obj fields) (.obj fields')

/-! ### Lists side by side -/

theorem exists_of_mem_forall₂ {α β : Type} {R : α → β → Prop} {as : List α} {bs : List β} {a : α}
    (h : List.Forall₂ R as bs) (ha : a ∈ as) : ∃ b ∈ bs, R a b := by
  induction h with
  | nil => exact absurd ha List.not_mem_nil
  | @cons a' b as bs hhead _ ih =>
    rcases List.mem_cons.mp ha with rfl | ha
    · exact ⟨b, List.mem_cons_self, hhead⟩
    · obtain ⟨b', hb', hrel⟩ := ih ha
      exact ⟨b', List.mem_cons_of_mem b hb', hrel⟩

/-- Fields side by side: the same names, and values that are related. -/
theorem forall₂_fields {R : Value → Value → Prop} {fields fields' : Fields}
    (hnames : fields.map (·.1) = fields'.map (·.1))
    (hvalues : List.Forall₂ R (fields.map (·.2)) (fields'.map (·.2))) :
    List.Forall₂ (fun f g => f.1 = g.1 ∧ R f.2 g.2) fields fields' := by
  induction fields generalizing fields' with
  | nil =>
    obtain rfl := List.map_eq_nil_iff.mp hnames.symm
    exact .nil
  | cons f fields ih =>
    obtain ⟨g, fields', rfl, hname, hnames⟩ := List.map_eq_cons_iff.mp hnames.symm
    cases hvalues with
    | cons hvalue hvalues => exact .cons ⟨hname.symm, hvalue⟩ (ih hnames.symm hvalues)

/-- Where each name occurs once, it stands for its value. -/
theorem Fields.get?_eq_some_iff {fields : Fields} {name : String} {v : Value}
    (hnodup : (fields.map (·.1)).Nodup) : fields.get? name = some v ↔ (name, v) ∈ fields := by
  refine ⟨Fields.mem_of_get?, fun hmem => ?_⟩
  have hne : fields.get? name ≠ none := fun hnone =>
    Fields.get?_eq_none_iff.mp hnone (List.mem_map_of_mem hmem)
  obtain ⟨w, hw⟩ := Option.ne_none_iff_exists'.mp hne
  have hsame := List.inj_on_of_nodup_map hnodup (Fields.mem_of_get? hw) hmem rfl
  rw [hw, (Prod.mk.inj hsame).2]

/-! ### Values in another order -/

namespace Value

variable {v w u : Value} {fields fields' : Fields} {name : String}

theorem Reorders.refl (v : Value) : v.Reorders v := by
  induction v using Value.induct_children with
  | _ v ih =>
    cases v with
    | null => exact .null
    | bool b => exact .bool b
    | int n => exact .int n
    | real x => exact .real x
    | str s => exact .str s
    | arr items => exact .arr (List.forall₂_same.mpr ih)
    | obj fields => exact .obj rfl (List.forall₂_same.mpr ih) (.refl _)

/-- Whatever is in a value is in the other, in its own order. -/
theorem Reorders.exists_of_mem (h : v.Reorders w) (hu : u ∈ v.children) :
    ∃ u' ∈ w.children, u.Reorders u' := by
  cases h with
  | arr h => exact exists_of_mem_forall₂ h hu
  | obj hnames hvalues hperm =>
    obtain ⟨u', hu', hreorders⟩ := exists_of_mem_forall₂ hvalues hu
    exact ⟨u', (hperm.map _).mem_iff.mp hu', hreorders⟩
  | _ => exact absurd hu List.not_mem_nil

theorem Reorders.opensWithin {room : Nat} (h : v.Reorders w) (hw : w.OpensWithin room) :
    v.OpensWithin room := by
  induction room generalizing v w with
  | zero =>
    refine List.eq_nil_iff_forall_not_mem.mpr fun u hu => ?_
    obtain ⟨u', hu', -⟩ := h.exists_of_mem hu
    have hempty : w.children = [] := hw
    simp [hempty] at hu'
  | succ room ih =>
    intro u hu
    obtain ⟨u', hu', hreorders⟩ := h.exists_of_mem hu
    exact ih hreorders (hw u' hu')

/-- Where each name occurs once, it stands for the same. -/
theorem Reorders.get? (h : (Value.obj fields).Reorders (.obj fields'))
    (hnodup : (fields'.map (·.1)).Nodup) (hw : Fields.get? fields' name = some w) :
    ∃ v, Fields.get? fields name = some v ∧ v.Reorders w := by
  cases h with
  | @obj _ between _ hnames hvalues hperm =>
    have hbetween : (between.map (·.1)).Nodup := (hperm.map _).nodup_iff.mpr hnodup
    have hfields : (fields.map (·.1)).Nodup := hnames ▸ hbetween
    have hmem : (name, w) ∈ between := hperm.mem_iff.mpr (Fields.mem_of_get? hw)
    -- from the other object back to this one
    have hsides := (forall₂_fields hnames hvalues).flip
    obtain ⟨⟨name', v⟩, hv, hname, hreorders⟩ := exists_of_mem_forall₂ hsides hmem
    obtain rfl : name' = name := hname
    exact ⟨v, (Fields.get?_eq_some_iff hfields).mpr hv, hreorders⟩

/-! ### Values without numbers -/

/-- Whether a value is a number. -/
def IsNumber : Value → Prop
  | .int _ | .real _ => True
  | _ => False

/-- There is no number anywhere in a value. -/
inductive NumberFree : Value → Prop
  | mk {v : Value} (hv : ¬ v.IsNumber) (hchildren : ∀ w ∈ v.children, NumberFree w) : NumberFree v

theorem numberFree_str (s : String) : (Value.str s).NumberFree :=
  .mk not_false fun _ hw => absurd hw List.not_mem_nil

theorem numberFree_bool (b : Bool) : (Value.bool b).NumberFree :=
  .mk not_false fun _ hw => absurd hw List.not_mem_nil

theorem numberFree_arr {items : List Value} (h : ∀ w ∈ items, w.NumberFree) :
    (Value.arr items).NumberFree :=
  .mk not_false h

theorem numberFree_arr_map {α : Type} {toValue : α → Value} (h : ∀ a, (toValue a).NumberFree)
    (as : List α) : (Value.arr (as.map toValue)).NumberFree := by
  refine numberFree_arr fun w hw => ?_
  obtain ⟨a, -, rfl⟩ := List.mem_map.mp hw
  exact h a

theorem numberFree_obj {fields : Fields} (h : ∀ f ∈ fields, f.2.NumberFree) :
    (Value.obj fields).NumberFree := by
  refine .mk not_false fun w hw => ?_
  obtain ⟨f, hf, rfl⟩ := List.mem_map.mp hw
  exact h f hf

theorem Reorders.numberFree (h : v.Reorders w) (hw : w.NumberFree) : v.NumberFree := by
  induction hw generalizing v with
  | @mk w hw _ ih =>
    refine .mk (fun hv => hw ?_) fun u hu => ?_
    · cases h with
      | int n => trivial
      | real x => trivial
      | _ => exact hv.elim
    · obtain ⟨u', hu', hreorders⟩ := h.exists_of_mem hu
      exact ih u' hu' hreorders

theorem mem_intercalate {tss : List (List Token)} {t : Token}
    (h : t ∈ List.intercalate [.comma] tss) : t = .comma ∨ ∃ ts ∈ tss, t ∈ ts := by
  induction tss with
  | nil => exact absurd h List.not_mem_nil
  | cons ts rest ih =>
    cases rest with
    | nil =>
      rw [List.intercalate_singleton] at h
      exact .inr ⟨ts, List.mem_cons_self, h⟩
    | cons next rest =>
      rw [List.intercalate_cons_cons, List.mem_append, List.mem_append, List.mem_singleton] at h
      rcases h with (h | h) | h
      · exact .inr ⟨ts, List.mem_cons_self, h⟩
      · exact .inl h
      · exact (ih h).imp_right fun ⟨ts', hts', ht⟩ => ⟨ts', List.mem_cons_of_mem ts hts', ht⟩

/-- A literal among the tokens of a value is the value, or it is inside of it. -/
theorem mem_tokens (h : Token.literal u ∈ v.tokens) :
    u = v ∨ ∃ w ∈ v.children, Token.literal u ∈ w.tokens := by
  cases v with
  | arr items =>
    rw [Value.tokens, itemTokens_eq_map] at h
    have hmem : Token.literal u ∈ List.intercalate [.comma] (items.map Value.tokens) := by
      simpa using h
    obtain ⟨ts, hts, hu⟩ := (mem_intercalate hmem).resolve_left (by simp)
    obtain ⟨w, hw, rfl⟩ := List.mem_map.mp hts
    exact .inr ⟨w, hw, hu⟩
  | obj fields =>
    rw [Value.tokens, fieldTokens_eq_map] at h
    have hmem : Token.literal u ∈ List.intercalate [.comma] (fields.map entryTokens) := by
      simpa using h
    obtain ⟨ts, hts, hu⟩ := (mem_intercalate hmem).resolve_left (by simp)
    obtain ⟨field, hfield, rfl⟩ := List.mem_map.mp hts
    exact .inr ⟨field.2, List.mem_map_of_mem hfield, by simpa [entryTokens] using hu⟩
  | str s => simp [Value.tokens] at h
  | _ => exact .inl (by simpa [Value.tokens] using h)

/-- The tokens of a value without numbers are no numbers. -/
theorem NumberFree.not_mem_tokens (h : v.NumberFree) (hu : u.IsNumber) :
    Token.literal u ∉ v.tokens := by
  induction h with
  | @mk v hv _ ih =>
    intro hmem
    rcases mem_tokens hmem with rfl | ⟨w, hw, hmem⟩
    · exact hv hu
    · exact ih w hw hmem

end Value

/-- Where there are no numbers, no number has any digits. -/
theorem Spells.of_no_numbers {n m : Nat} {ts : List Token} {cs : List Char} (h : Spells n ts cs)
    (hts : ∀ v : Value, v.IsNumber → Token.literal v ∉ ts) : Spells m ts cs := by
  induction h with
  | nil hblanks => exact .nil hblanks
  | @cons t ts blanks piece rest hblanks hpiece _ ih =>
    have htoken : SpellsToken m t piece := by
      cases hpiece with
      | number h =>
        refine absurd List.mem_cons_self (hts _ ?_)
        cases h with
        | _ => trivial
      | str h => exact .str h
      | _ => constructor
    exact .cons hblanks htoken (ih fun v hv hmem => hts v hv (List.mem_cons_of_mem t hmem))

namespace Value

theorem NumberFree.hasTextWithin {v : Value} (h : v.NumberFree) {text : String}
    (htext : v.HasText text) (m : Nat) : v.HasTextWithin m text := by
  obtain ⟨n, htext⟩ := htext
  exact htext.of_no_numbers fun u hu => h.not_mem_tokens hu

end Value

end SchemaCatalog.Json
