import SchemaCatalog.Json.Document
import SchemaCatalog.Proofs.Json.Lexing

/-!
# Texts are read as their values

Any text of a value is read as that value (`Value.read?_eq_some`). After the lexer, which
`tokens?_of_spells` is about, the tokens of a value take the reader from where a value is expected
to where it is complete (`reaches_of_tokens`). That is shown level by level: for an array or object,
from what is known of its items or of the values of its fields (`reaches_of_children`).
-/

namespace SchemaCatalog.Json

/-! ### The tokens of a value -/

theorem itemTokens_eq_map (items : List Value) : itemTokens items = items.map Value.tokens := by
  induction items with
  | nil => rfl
  | cons v rest ih => rw [itemTokens, List.map_cons, ih]

/-- The tokens of a field. -/
def entryTokens (field : String × Value) : List Token :=
  .str field.1 :: .colon :: field.2.tokens

theorem fieldTokens_eq_map (fields : Fields) : fieldTokens fields = fields.map entryTokens := by
  induction fields with
  | nil => rfl
  | cons field rest ih =>
    obtain ⟨name, v⟩ := field
    rw [fieldTokens, List.map_cons, ih, entryTokens]

/-- A value does not begin with the end of an array. -/
theorem Value.exists_tokens_eq_cons (v : Value) :
    ∃ t ts, v.tokens = t :: ts ∧ t ≠ .closeArray := by
  cases v with
  | arr items => exact ⟨_, _, by rw [Value.tokens, List.cons_append], by simp⟩
  | obj fields => exact ⟨_, _, by rw [Value.tokens, List.cons_append], by simp⟩
  | _ => exact ⟨_, [], rfl, by simp⟩

/-- What stands between brackets begins with the first token of what stands there first. -/
theorem exists_intercalate_eq_cons (t : Token) (ts : List Token) (rest : List (List Token))
    (tail : List Token) :
    ∃ ts', List.intercalate [.comma] ((t :: ts) :: rest) ++ tail = t :: ts' := by
  cases rest with
  | nil => exact ⟨ts ++ tail, by rw [List.intercalate_singleton, List.cons_append]⟩
  | cons next rest =>
    refine ⟨ts ++ (.comma :: List.intercalate [.comma] (next :: rest) ++ tail), ?_⟩
    rw [List.intercalate_cons_cons]
    simp

/-! ### Reading the tokens of a value -/

section Reader

variable {maxDepth : Nat} {stack : List Frame}

/-- Where an item may stand first, any other token than the end opens the array. -/
theorem step_firstItem (hroom : stack.length < maxDepth) {t : Token} (ht : t ≠ .closeArray) :
    Reader.step maxDepth (.firstItem stack) t =
      Reader.step maxDepth (.value (.array [] :: stack)) t := by
  have henter : Reader.enter maxDepth stack (.array []) = some (.array [] :: stack) := if_pos hroom
  cases t with
  | closeArray => exact absurd rfl ht
  | _ => simp [Reader.step, henter]

/-- The items of an array, up to the bracket that closes it. -/
theorem reaches_of_items (v : Value) (rest before : List Value)
    (hread : ∀ w ∈ v :: rest, ∀ before, Reaches (Reader.step maxDepth)
      (.value (.array before :: stack)) w.tokens (.complete (.array before :: stack) w)) :
    Reaches (Reader.step maxDepth) (.value (.array before :: stack))
      (List.intercalate [.comma] ((v :: rest).map Value.tokens) ++ [.closeArray])
      (.complete stack (.arr (before.reverse ++ v :: rest))) := by
  induction rest generalizing v before with
  | nil =>
    have hclose : Reader.step maxDepth (.complete (.array before :: stack) v) .closeArray =
        some (.complete stack (.arr (before.reverse ++ [v]))) := by
      rw [Reader.step, List.reverse_cons]
    have hv := hread v List.mem_cons_self before
    simpa using hv.append (.cons hclose .nil)
  | cons w rest ih =>
    have hcomma : Reader.step maxDepth (.complete (.array before :: stack) v) .comma =
        some (.value (.array (v :: before) :: stack)) := rfl
    have hrest := ih w (v :: before) fun u hu => hread u (List.mem_cons_of_mem v hu)
    rw [List.reverse_cons, List.append_assoc] at hrest
    rw [List.map_cons, List.map_cons, List.intercalate_cons_cons, List.append_assoc,
      List.append_assoc]
    exact (hread v List.mem_cons_self before).append (.cons hcomma hrest)

/-- The fields of an object, up to the bracket that closes it. -/
theorem reaches_of_fields (field : String × Value) (rest before : Fields)
    (hroom : stack.length < maxDepth)
    (hread : ∀ f ∈ field :: rest, ∀ before name, Reaches (Reader.step maxDepth)
      (.value (.object before name :: stack)) f.2.tokens
        (.complete (.object before name :: stack) f.2)) :
    Reaches (Reader.step maxDepth) (.nextName stack before)
      (List.intercalate [.comma] ((field :: rest).map entryTokens) ++ [.closeObject])
      (.complete stack (.obj (before.reverse ++ field :: rest))) := by
  -- a field, from its name to the end of its value
  have hfield : ∀ {f : String × Value}, f ∈ field :: rest → ∀ before,
      Reaches (Reader.step maxDepth) (.nextName stack before) (entryTokens f)
        (.complete (.object before f.1 :: stack) f.2) := by
    intro f hf before
    have hcolon : Reader.step maxDepth (.colon stack before f.1) .colon =
        some (.value (.object before f.1 :: stack)) := by
      rw [Reader.step, Reader.enter, if_pos hroom, Option.map_some]
    exact .cons rfl (.cons hcolon (hread f hf before f.1))
  induction rest generalizing field before with
  | nil =>
    have hclose : Reader.step maxDepth (.complete (.object before field.1 :: stack) field.2)
        .closeObject = some (.complete stack (.obj (before.reverse ++ [field]))) := by
      rw [Reader.step, List.reverse_cons]
    simpa using (hfield List.mem_cons_self before).append (.cons hclose .nil)
  | cons next rest ih =>
    have hcomma :
        Reader.step maxDepth (.complete (.object before field.1 :: stack) field.2) .comma =
        some (.nextName stack (field :: before)) := rfl
    have hrest := ih next (field :: before) (fun f hf => hread f (List.mem_cons_of_mem field hf))
      fun hf => hfield (List.mem_cons_of_mem field hf)
    rw [List.reverse_cons, List.append_assoc] at hrest
    rw [List.map_cons, List.map_cons, List.intercalate_cons_cons, List.append_assoc,
      List.append_assoc]
    exact (hfield List.mem_cons_self before).append (.cons hcomma hrest)

/-- A value is read from its tokens, if what is inside of it is. -/
theorem reaches_of_children {v : Value} (hroom : v.children ≠ [] → stack.length < maxDepth)
    (hread : ∀ w ∈ v.children, ∀ frame, Reaches (Reader.step maxDepth) (.value (frame :: stack))
      w.tokens (.complete (frame :: stack) w)) :
    Reaches (Reader.step maxDepth) (.value stack) v.tokens (.complete stack v) := by
  cases v with
  | arr items =>
    cases items with
    | nil => exact .cons rfl (.cons rfl .nil)
    | cons w rest =>
      have hopen := hroom (by simp [Value.children])
      have hitems := reaches_of_items w rest [] fun u hu before => hread u hu (.array before)
      -- the first token of the first item tells that the array is not empty
      obtain ⟨t, ts, htokens, ht⟩ := w.exists_tokens_eq_cons
      obtain ⟨ts', hhead⟩ := exists_intercalate_eq_cons t ts (rest.map Value.tokens) [.closeArray]
      rw [List.map_cons, htokens, hhead] at hitems
      rw [Value.tokens, itemTokens_eq_map, List.map_cons, htokens, List.cons_append, hhead]
      exact .cons rfl (hitems.congr (step_firstItem hopen ht))
  | obj fields =>
    cases fields with
    | nil => exact .cons rfl (.cons rfl .nil)
    | cons field rest =>
      have hopen := hroom (by simp [Value.children])
      have hfields := reaches_of_fields field rest [] hopen fun f hf before name =>
        hread f.2 (List.mem_map_of_mem hf) (.object before name)
      obtain ⟨ts', hhead⟩ := exists_intercalate_eq_cons (.str field.1) (.colon :: field.2.tokens)
        (rest.map entryTokens) [.closeObject]
      rw [List.map_cons, entryTokens, hhead] at hfields
      rw [Value.tokens, fieldTokens_eq_map, List.map_cons, entryTokens, List.cons_append, hhead]
      exact .cons rfl (hfields.congr rfl)
  | _ => exact .cons rfl .nil

/-- By induction on how much may be open: whatever is inside of an array or object has one less. -/
theorem reaches_of_tokens {room : Nat} {v : Value} (hv : v.OpensWithin room)
    (hroom : stack.length + room ≤ maxDepth) :
    Reaches (Reader.step maxDepth) (.value stack) v.tokens (.complete stack v) := by
  induction room generalizing v stack with
  | zero =>
    have hempty : v.children = [] := hv
    exact reaches_of_children (fun hne => absurd hempty hne) fun w hw => by simp [hempty] at hw
  | succ room ih =>
    refine reaches_of_children (fun _ => by omega) fun w hw frame => ih (hv w hw) ?_
    rw [List.length_cons]
    omega

end Reader

/-! ### Literals stand apart -/

theorem areApart_append_cons {ts ts' : List Token} {t : Token} (ht : ¬ t.IsLiteral)
    (h : AreApart ts) (h' : AreApart ts') : AreApart (ts ++ t :: ts') := by
  refine List.IsChain.append h (h'.cons fun _ _ hboth => ht hboth.1) fun _ _ t' ht' hboth => ?_
  obtain rfl := Option.some.inj ht'
  exact ht hboth.2

theorem areApart_intercalate {tss : List (List Token)} (h : ∀ ts ∈ tss, AreApart ts) :
    AreApart (List.intercalate [.comma] tss) := by
  induction tss with
  | nil => exact .nil
  | cons ts rest ih =>
    obtain ⟨hts, hrest⟩ := List.forall_mem_cons.mp h
    cases rest with
    | nil => rwa [List.intercalate_singleton]
    | cons next rest =>
      rw [List.intercalate_cons_cons, List.append_assoc]
      exact areApart_append_cons (by simp [Token.IsLiteral]) hts (ih hrest)

/-- Brackets are no literals. -/
theorem areApart_brackets {t t' : Token} {tss : List (List Token)} (ht : ¬ t.IsLiteral)
    (ht' : ¬ t'.IsLiteral) (h : ∀ ts ∈ tss, AreApart ts) :
    AreApart (t :: List.intercalate [.comma] tss ++ [t']) :=
  areApart_append_cons ht' (areApart_append_cons ht .nil (areApart_intercalate h)) .nil

theorem areApart_of_children {v : Value} (h : ∀ w ∈ v.children, AreApart w.tokens) :
    AreApart v.tokens := by
  cases v with
  | arr items =>
    rw [Value.tokens, itemTokens_eq_map]
    refine areApart_brackets (by simp [Token.IsLiteral]) (by simp [Token.IsLiteral])
      fun ts hts => ?_
    obtain ⟨w, hw, rfl⟩ := List.mem_map.mp hts
    exact h w hw
  | obj fields =>
    rw [Value.tokens, fieldTokens_eq_map]
    refine areApart_brackets (by simp [Token.IsLiteral]) (by simp [Token.IsLiteral])
      fun ts hts => ?_
    obtain ⟨field, hfield, rfl⟩ := List.mem_map.mp hts
    exact areApart_append_cons (by simp [Token.IsLiteral])
      (List.IsChain.singleton (Token.str field.1)) (h field.2 (List.mem_map_of_mem hfield))
  | _ => exact .singleton _

/-- In the tokens of a value, no literal follows at once on another one. -/
theorem areApart_tokens {room : Nat} {v : Value} (hv : v.OpensWithin room) : AreApart v.tokens := by
  induction room generalizing v with
  | zero =>
    have hempty : v.children = [] := hv
    exact areApart_of_children fun w hw => by simp [hempty] at hw
  | succ room ih => exact areApart_of_children fun w hw => ih (hv w hw)

/-! ### Whole texts -/

/-- **Reading a text.** Any text of a value is read as that value, where so many arrays and objects
may be nested and numbers may have so many digits. -/
theorem Value.read?_eq_some {v : Value} {text : String} {n maxDepth : Nat}
    (htext : v.HasTextWithin n text) (hn : n ≤ maxDigits) (hdepth : v.OpensWithin maxDepth) :
    Value.read? maxDepth text = some v := by
  have hreach : Reaches (Reader.step maxDepth) (.value []) v.tokens (.complete [] v) :=
    reaches_of_tokens hdepth (by simp)
  rw [Value.read?, tokens?_of_spells htext hn (areApart_tokens hdepth), Option.bind_some, ofTokens?,
    hreach]
  rfl

theorem Value.readBytes?_toUTF8 (maxDepth : Nat) (text : String) :
    Value.readBytes? maxDepth text.toUTF8 = Value.read? maxDepth text := by
  have hvalid : text.toUTF8.IsValidUTF8 := text.isValidUTF8
  rw [Value.readBytes?, String.fromUTF8?, dif_pos hvalid]
  rfl

end SchemaCatalog.Json
