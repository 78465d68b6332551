import SchemaCatalog.Proofs.Json.Reading
import SchemaCatalog.Proofs.Statement.Canonical

/-!
# Statements survive being written

`Statement.survives_writing` says that a statement comes back from its value and from every text of
its value, with whatever blanks and escapes it is written and in whatever order the fields stand;
and that a statement that has been accepted once is accepted again, without a change.

Documents have a limit on the digits of numbers, which is none for statements: there are no numbers
in their values (`Statement.numberFree_toValue`).
-/

namespace SchemaCatalog

open Json

/-! ### No numbers -/

section NumberFree

open Json.Value (numberFree_str numberFree_bool numberFree_arr numberFree_arr_map numberFree_obj)

theorem NonemptyString.numberFree_toValue (s : NonemptyString) : s.toValue.NumberFree :=
  numberFree_str s.text

theorem ColumnDef.numberFree_toValue (c : ColumnDef) : c.toValue.NumberFree :=
  numberFree_obj <| by simp [numberFree_bool, NonemptyString.numberFree_toValue]

theorem Alteration.numberFree_toValue (op : Alteration) : op.toValue.NumberFree := by
  cases op with
  | _ =>
    exact numberFree_obj <| by
      simp [numberFree_str, NonemptyString.numberFree_toValue, ColumnDef.numberFree_toValue]

mutual

theorem Query.numberFree_toValue : ∀ q : Query NonemptyString, q.toValue.NumberFree
  | .mk text relations subqueries =>
    numberFree_obj <| by
      simp [NonemptyString.numberFree_toValue, numberFree_arr_map NonemptyString.numberFree_toValue,
        numberFree_arr (Query.numberFree_toValues subqueries)]

theorem Query.numberFree_toValues : ∀ qs : List (Query NonemptyString),
    ∀ w ∈ Query.toValues qs, w.NumberFree
  | [] => fun _ hw => absurd hw List.not_mem_nil
  | q :: rest => fun w hw => by
    rcases List.mem_cons.mp hw with rfl | hw
    · exact Query.numberFree_toValue q
    · exact Query.numberFree_toValues rest w hw

end

/-- There are no numbers in the value of a statement. -/
theorem Statement.numberFree_toValue (stmt : Statement) : stmt.toValue.NumberFree := by
  cases stmt with
  | _ =>
    exact numberFree_obj <| by
      simp [numberFree_str, NonemptyString.numberFree_toValue,
        numberFree_arr_map NonemptyString.numberFree_toValue,
        numberFree_arr_map ColumnDef.numberFree_toValue,
        numberFree_arr_map Alteration.numberFree_toValue, Query.numberFree_toValue]

end NumberFree

/-! ### Depth -/

theorem Json.Value.NestsWithin.mono {room room' : Nat} {v : Value} (h : v.NestsWithin room)
    (hle : room ≤ room') : v.NestsWithin room' := by
  induction room generalizing room' v with
  | zero => exact h.elim
  | succ room ih =>
    cases room' with
    | zero => exact absurd hle (by omega)
    | succ room' =>
      intro items hitems w hw
      exact ih (h items hitems w hw) (by omega)

theorem Json.Value.OpensWithin.succ {room : Nat} {v : Value} (h : v.OpensWithin room) :
    v.OpensWithin (room + 1) := by
  induction room generalizing v with
  | zero =>
    have hempty : v.children = [] := h
    exact fun w hw => by simp [hempty] at hw
  | succ room ih => exact fun w hw => ih (h w hw)

theorem Json.Value.mem_children_of_field? {v w : Value} {name : String}
    (h : v.field? name = some w) : w ∈ v.children := by
  cases v with
  | obj fields => exact List.mem_map_of_mem (Fields.mem_of_get? h)
  | _ => cases h

/-- Where so much may be open, so many queries can be nested. -/
theorem Json.Value.OpensWithin.nestsWithin {room : Nat} {v : Value} (h : v.OpensWithin room) :
    v.NestsWithin (room + 1) := by
  induction room generalizing v with
  | zero =>
    intro items hitems
    have hempty : v.children = [] := h
    have hmem := mem_children_of_field? hitems
    rw [hempty] at hmem
    exact absurd hmem List.not_mem_nil
  | succ room ih =>
    intro items hitems w hw
    have harr : (Value.arr items).OpensWithin (room + 1) :=
      (h _ (mem_children_of_field? hitems)).succ
    exact ih (harr w hw)

namespace Statement

/-- What can stand in a document can be followed. -/
theorem isWithinLimit_of_opensWithin {stmt : Statement} (h : stmt.toValue.OpensWithin maxDepth) :
    stmt.toValue.IsWithinLimit := by
  refine isWithinLimit_iff.mpr fun name query hstmt => ?_
  subst hstmt
  have hquery : query.toValue ∈ (createView name query).toValue.children :=
    @Value.mem_children_of_field? (createView name query).toValue _ "query" rfl
  -- the statement itself is one of the objects that may be open
  have hopens : query.toValue.OpensWithin 199 := h _ hquery
  exact hopens.nestsWithin.mono (by decide)

/-! ### The round trip -/

/-- **Round trip.** The value of a statement is checked to be that statement, as long as its queries
can be followed; and any text of the value, with the fields of objects in any order, is read as the
statement, as long as not too much is nested. So what has been accepted, as a value or as a
document, is accepted again, and does not change. -/
theorem survives_writing (stmt : Statement) :
    (stmt.toValue.IsWithinLimit → check stmt.toValue = .ok stmt) ∧
      (stmt.toValue.OpensWithin maxDepth → ∀ (v : Value) (text : String),
        v.Reorders stmt.toValue → v.HasText text →
          read text = .ok stmt ∧ readBytes text.toUTF8 = .ok stmt) ∧
      ((∃ v, check v = .ok stmt) ∨ (∃ text, read text = .ok stmt) ∨
          (∃ bytes, readBytes bytes = .ok stmt) → check stmt.toValue = .ok stmt) := by
  have hback : stmt.toValue.IsWithinLimit → check stmt.toValue = .ok stmt := fun hlimit =>
    check_of_reorders hlimit (.refl _)
  have hdocument : ∀ {read? : Option Value}, ofDocument read? = .ok stmt →
      stmt.toValue.IsWithinLimit := by
    intro read? h
    cases read? with
    | none => cases h
    | some v =>
      rw [ofDocument] at h
      cases hv : checkAs .document v with
      | ok stmt' =>
        rw [hv] at h
        obtain rfl := Except.ok.inj h
        exact isWithinLimit_toValue hv
      | faulty ps =>
        rw [hv] at h
        cases h
  refine ⟨hback, fun hdepth v text hreorders htext => ?_, fun haccepted => ?_⟩
  · have hdigits := (hreorders.numberFree stmt.numberFree_toValue).hasTextWithin htext 0
    have hread : read text = .ok stmt := by
      rw [read, Value.read?_eq_some hdigits (Nat.zero_le _) (hreorders.opensWithin hdepth),
        ofDocument, check_of_reorders (isWithinLimit_of_opensWithin hdepth) hreorders]
    exact ⟨hread, by rw [readBytes, Value.readBytes?_toUTF8, ← read, hread]⟩
  · refine hback ?_
    rcases haccepted with ⟨v, hv⟩ | ⟨text, htext⟩ | ⟨bytes, hbytes⟩
    · exact isWithinLimit_toValue hv
    · exact hdocument htext
    · exact hdocument hbytes

end Statement

/-- A statement about a database whose name is a quote, a character with the number zero, and one
from beyond the first plane. -/
def Statement.oddlyNamed : Statement := .use ⟨"\"\x00😀", by decide⟩

/-- The value of `Statement.oddlyNamed`, with the tag behind the name. -/
def Json.Value.oddlyNamed : Value := .obj [("name", .str "\"\x00😀"), ("kind", .str "use")]

/-- A text of `Json.Value.oddlyNamed`, with blanks and escapes. -/
def textOfOddlyNamed : String :=
  "\x7b \"name\":\t\"\\\"\\u0000\\ud83D\\uDE00\",\"\\u006bind\" :\"use\"\x7d\n"

theorem hasText_oddlyNamed : Value.oddlyNamed.HasText textOfOddlyNamed := by
  have hquote : SpellsChar '\"' ['\\', '\"'] := .short (by decide)
  have hzero : SpellsChar '\x00' ['\\', 'u', '0', '0', '0', '0'] :=
    .unit (@SpellsUnit.mk 0 0 0 0 '0' '0' '0' '0' (by decide) (by decide) (by decide) (by decide))
  have hface : SpellsChar '😀' ['\\', 'u', 'd', '8', '3', 'D', '\\', 'u', 'D', 'E', '0', '0'] :=
    @SpellsChar.pair '😀' 0x3D 0x200 ['d', '8', '3', 'D'] ['D', 'E', '0', '0']
      (@SpellsUnit.mk 13 8 3 13 'd' '8' '3' 'D' (by decide) (by decide) (by decide) (by decide))
      (@SpellsUnit.mk 13 14 0 0 'D' 'E' '0' '0' (by decide) (by decide) (by decide) (by decide))
      (by decide) (by decide) (by decide)
  have hk : SpellsChar 'k' ['\\', 'u', '0', '0', '6', 'b'] :=
    .unit (@SpellsUnit.mk 0 0 6 11 '0' '0' '6' 'b' (by decide) (by decide) (by decide) (by decide))
  have hplain : ∀ c ∈ ['i', 'n', 'd'], SpellsChar c [c] := fun c hc => by
    simp only [List.mem_cons, List.not_mem_nil, or_false] at hc
    rcases hc with rfl | rfl | rfl <;> exact .plain (by decide) (by decide) (by decide)
  have hname : SpellsString "name" ('\"' :: "name".toList ++ ['\"']) :=
    spellsString_plain (by decide)
  have huse : SpellsString "use" ('\"' :: "use".toList ++ ['\"']) := spellsString_plain (by decide)
  have hodd : SpellsString "\"\x00😀" "\"\\\"\\u0000\\ud83D\\uDE00\"".toList :=
    ⟨_, .cons hquote (.cons hzero (.cons hface .nil)), rfl⟩
  have hkind : SpellsString "kind" "\"\\u006bind\"".toList :=
    ⟨_, .cons hk (.cons (hplain 'i' (by simp)) (.cons (hplain 'n' (by simp))
      (.cons (hplain 'd' (by simp)) .nil))), rfl⟩
  have hspells : Spells 0 Value.oddlyNamed.tokens
      ([] ++ ['\x7b'] ++ ([' '] ++ _ ++ ([] ++ [':'] ++ (['\t'] ++ _ ++ ([] ++ [','] ++ ([] ++ _ ++
        ([' '] ++ [':'] ++ ([] ++ _ ++ ([] ++ ['\x7d'] ++ ['\n']))))))))) :=
    .cons (by decide) .openObject <| .cons (by decide) (.str hname) <| .cons (by decide) .colon <|
    .cons (by decide) (.str hodd) <| .cons (by decide) .comma <| .cons (by decide) (.str hkind) <|
    .cons (by decide) .colon <| .cons (by decide) (.str huse) <|
    .cons (by decide) .closeObject <| .nil (by decide)
  exact ⟨0, hspells⟩

theorem Statement.survives_writing_oddlyNamed :
    Statement.oddlyNamed.toValue.IsWithinLimit ∧ Statement.oddlyNamed.toValue.OpensWithin maxDepth ∧
      Value.oddlyNamed.Reorders Statement.oddlyNamed.toValue ∧
      Value.oddlyNamed.HasText textOfOddlyNamed ∧
      Statement.check Statement.oddlyNamed.toValue = .ok Statement.oddlyNamed ∧
      Statement.read textOfOddlyNamed = .ok Statement.oddlyNamed := by
  have hlimit : Statement.oddlyNamed.toValue.IsWithinLimit :=
    Statement.isWithinLimit_iff.mpr (by simp [Statement.oddlyNamed])
  have hdepth : Statement.oddlyNamed.toValue.OpensWithin maxDepth := by decide
  have hreorders : Value.oddlyNamed.Reorders Statement.oddlyNamed.toValue := by
    refine .obj rfl (List.forall₂_same.mpr fun v _ => .refl v) ?_
    exact List.Perm.swap _ _ _
  obtain ⟨hvalue, hdocument, -⟩ := Statement.survives_writing Statement.oddlyNamed
  exact ⟨hlimit, hdepth, hreorders, hasText_oddlyNamed, hvalue hlimit,
    (hdocument hdepth _ _ hreorders hasText_oddlyNamed).1⟩

end SchemaCatalog
