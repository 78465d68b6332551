import Mathlib.Data.List.Forall2
import SchemaCatalog.Json.Token

/-!
# Texts of values

What the texts of a value are, by the grammar of JSON, whoever reads them. A value is a sequence of
tokens (`Value.tokens`); a token is written in one of several ways (`SpellsToken`), since a string
may have escapes and a number may have an exponent; and blanks may stand between the tokens and
around them (`Spells`). Nothing here depends on how documents are read.

There is no end to the ways in which a number is written, for a number with an exponent may begin
with any number of digits. How many characters there are before a point or an exponent is counted,
a sign included, since readers may have a limit there: `Value.HasTextWithin` says that a text has
nowhere more than so many.
-/

namespace SchemaCatalog.Json

/-! ### Strings -/

/-- A character spells a hexadecimal digit, in either case. -/
def SpellsHex (n : Nat) (c : Char) : Prop :=
  n < 16 ∧ (c = Nat.digitChar n ∨ c = (Nat.digitChar n).toUpper)

instance (n : Nat) (c : Char) : Decidable (SpellsHex n c) :=
  inferInstanceAs (Decidable (n < 16 ∧ (c = Nat.digitChar n ∨ c = (Nat.digitChar n).toUpper)))

/-- Four hexadecimal digits spell a code unit. -/
inductive SpellsUnit : Nat → List Char → Prop
  | mk {n₁ n₂ n₃ n₄ : Nat} {c₁ c₂ c₃ c₄ : Char} (h₁ : SpellsHex n₁ c₁) (h₂ : SpellsHex n₂ c₂)
      (h₃ : SpellsHex n₃ c₃) (h₄ : SpellsHex n₄ c₄) :
      SpellsUnit (16 * (16 * (16 * n₁ + n₂) + n₃) + n₄) [c₁, c₂, c₃, c₄]

/-- The characters that have an escape of one letter, each after its letter. -/
def shortEscapes : List (Char × Char) :=
  [('\"', '\"'), ('\\', '\\'), ('/', '/'), ('b', '\x08'), ('f', '\x0c'), ('n', '\n'), ('r', '\r'),
    ('t', '\t')]

/-- Inside of a string, a character is written as itself, unless it is a quote, a backslash or a
control character, or as an escape. Characters beyond the first plane have an escape that consists
of the two halves of a surrogate pair. -/
inductive SpellsChar (c : Char) : List Char → Prop
  | plain (hcontrol : ' ' ≤ c) (hquote : c ≠ '\"') (hbackslash : c ≠ '\\') : SpellsChar c [c]
  | short {letter : Char} (h : (letter, c) ∈ shortEscapes) : SpellsChar c ['\\', letter]
  | unit {digits : List Char} (h : SpellsUnit c.toNat digits) : SpellsChar c ('\\' :: 'u' :: digits)
  | pair {high low : Nat} {digits digits' : List Char} (h : SpellsUnit (0xD800 + high) digits)
      (h' : SpellsUnit (0xDC00 + low) digits') (hhigh : high < 0x400) (hlow : low < 0x400)
      (hc : c.toNat = 0x10000 + high * 0x400 + low) :
      SpellsChar c (('\\' :: 'u' :: digits) ++ ('\\' :: 'u' :: digits'))

/-- A string is written in quotes, character by character. -/
def SpellsString (s : String) (cs : List Char) : Prop :=
  ∃ pieces, List.Forall₂ SpellsChar s.toList pieces ∧ cs = '\"' :: pieces.flatten ++ ['\"']

/-! ### Numbers -/

/-- Characters that are decimal digits, at least one. -/
def IsDigits (cs : List Char) : Prop := cs ≠ [] ∧ ∀ c ∈ cs, c.isDigit = true

/-- A number before its point, without its sign: digits, and no zero in front of others. -/
structure IsWhole (cs : List Char) : Prop where
  digits : IsDigits cs
  zero : cs.head? = some '0' → cs = ['0']

/-- The sign of a number. -/
def minusSign (negative : Bool) : List Char := if negative then ['-'] else []

/-- An integer with a sign. -/
def signed (negative : Bool) (n : Nat) : Int := if negative then -(n : Int) else n

/-- What stands for the fraction of a number with the given digits after its point. -/
def pointed (fraction : List Char) : List Char :=
  if fraction = [] then [] else '.' :: fraction

/-- What stands for an exponent. -/
inductive SpellsExponent : Int → List Char → Prop
  | absent : SpellsExponent 0 []
  | plain {e : Char} {digits : List Char} (he : e = 'e' ∨ e = 'E') (hdigits : IsDigits digits) :
      SpellsExponent (natOf digits) (e :: digits)
  | plus {e : Char} {digits : List Char} (he : e = 'e' ∨ e = 'E') (hdigits : IsDigits digits) :
      SpellsExponent (natOf digits) (e :: '+' :: digits)
  | minus {e : Char} {digits : List Char} (he : e = 'e' ∨ e = 'E') (hdigits : IsDigits digits) :
      SpellsExponent (-natOf digits) (e :: '-' :: digits)

/-- A number without point and exponent is an integer. Any other number is the binary64 number that
is nearest to it. At most `n` characters stand before the point or the exponent. -/
inductive SpellsNumber (n : Nat) : Value → List Char → Prop
  | int {negative : Bool} {whole : List Char} (hwhole : IsWhole whole)
      (hlength : (minusSign negative ++ whole).length ≤ n) :
      SpellsNumber n (.int (signed negative (natOf whole))) (minusSign negative ++ whole)
  | real {negative : Bool} {whole fraction exponent : List Char} {e : Int}
      (hwhole : IsWhole whole) (hlength : (minusSign negative ++ whole).length ≤ n)
      (hfraction : ∀ c ∈ fraction, c.isDigit = true) (hexponent : SpellsExponent e exponent)
      (hreal : fraction ≠ [] ∨ exponent ≠ []) :
      SpellsNumber n
        (.real (.ofDecimal negative (natOf (whole ++ fraction)) (e - fraction.length)))
        (minusSign negative ++ whole ++ pointed fraction ++ exponent)

/-! ### Tokens -/

/-- What stands for a token, where no number has more than `n` characters before its point. -/
inductive SpellsToken (n : Nat) : Token → List Char → Prop
  | openArray : SpellsToken n .openArray ['[']
  | closeArray : SpellsToken n .closeArray [']']
  | openObject : SpellsToken n .openObject ['\x7b']
  | closeObject : SpellsToken n .closeObject ['\x7d']
  | colon : SpellsToken n .colon [':']
  | comma : SpellsToken n .comma [',']
  | str {s : String} {cs : List Char} (h : SpellsString s cs) : SpellsToken n (.str s) cs
  | null : SpellsToken n (.literal .null) ['n', 'u', 'l', 'l']
  | true : SpellsToken n (.literal (.bool true)) ['t', 'r', 'u', 'e']
  | false : SpellsToken n (.literal (.bool false)) ['f', 'a', 'l', 's', 'e']
  | number {v : Value} {cs : List Char} (h : SpellsNumber n v cs) : SpellsToken n (.literal v) cs

/-- Characters that may stand anywhere between two tokens. -/
def AreBlank (cs : List Char) : Prop := ∀ c ∈ cs, c ∈ [' ', '\t', '\n', '\r']

instance (cs : List Char) : Decidable (AreBlank cs) :=
  decidable_of_iff (cs.all [' ', '\t', '\n', '\r'].contains = true) (by simp [AreBlank])

/-- The texts of a sequence of tokens: token by token, with blanks anywhere between. -/
inductive Spells (n : Nat) : List Token → List Char → Prop
  | nil {blanks : List Char} (hblanks : AreBlank blanks) : Spells n [] blanks
  | cons {t : Token} {ts : List Token} {blanks piece rest : List Char} (hblanks : AreBlank blanks)
      (hpiece : SpellsToken n t piece) (hrest : Spells n ts rest) :
      Spells n (t :: ts) (blanks ++ piece ++ rest)

/-- Whether a character may stand for itself in a string. -/
def isPlain (c : Char) : Bool := ' ' ≤ c && c != '\"' && c != '\\'

/-- A string without escapes. -/
theorem spellsString_plain {s : String} (h : s.toList.all isPlain = true) :
    SpellsString s ('\"' :: s.toList ++ ['\"']) := by
  refine ⟨s.toList.map fun c => [c], ?_, by rw [← List.flatMap_def, List.flatMap_singleton']⟩
  rw [List.forall₂_map_right_iff, List.forall₂_same]
  intro c hc
  have hplain := List.all_eq_true.mp h c hc
  simp only [isPlain, Bool.and_eq_true, decide_eq_true_eq, bne_iff_ne] at hplain
  exact .plain hplain.1.1 hplain.1.2 hplain.2

mutual

/-- The tokens of a value. -/
def Value.tokens : Value → List Token
  | .str s => [.str s]
  | .arr items => .openArray :: List.intercalate [.comma] (itemTokens items) ++ [.closeArray]
  | .obj fields => .openObject :: List.intercalate [.comma] (fieldTokens fields) ++ [.closeObject]
  | v => [.literal v]

/-- The tokens of an array's items. -/
def itemTokens : List Value → List (List Token)
  | [] => []
  | v :: rest => v.tokens :: itemTokens rest

/-- The tokens of an object's fields. -/
def fieldTokens : List (String × Value) → List (List Token)
  | [] => []
  | (name, v) :: rest => (.str name :: .colon :: v.tokens) :: fieldTokens rest

end

/-- A text is one of a value, where no number has more than `n` characters before its point. -/
def Value.HasTextWithin (n : Nat) (v : Value) (text : String) : Prop :=
  Spells n v.tokens text.toList

/-- A text is one of a value. -/
def Value.HasText (v : Value) (text : String) : Prop := ∃ n, v.HasTextWithin n text

/-! ### Nesting -/

/-- The items of an array, and the values of the fields of an object. -/
def Value.children : Value → List Value
  | .arr items => items
  | .obj fields => fields.map (·.2)
  | _ => []

theorem Value.sizeOf_lt_of_mem_children {v w : Value} (h : w ∈ v.children) :
    sizeOf w < sizeOf v := by
  cases v with
  | arr items =>
    have hw : sizeOf w < sizeOf items := List.sizeOf_lt_of_mem h
    rw [Value.arr.sizeOf_spec]
    omega
  | obj fields =>
    obtain ⟨field, hfield, rfl⟩ := List.mem_map.mp h
    have hw := List.sizeOf_lt_of_mem hfield
    obtain ⟨name, w⟩ := field
    rw [Value.obj.sizeOf_spec]
    rw [Prod.mk.sizeOf_spec] at hw
    dsimp only
    omega
  | _ => exact absurd h List.not_mem_nil

/-- What holds of a value whenever it holds of everything in it holds of all values. -/
theorem Value.induct_children {P : Value → Prop} (h : ∀ v, (∀ w ∈ v.children, P w) → P v)
    (v : Value) : P v :=
  h v fun w _ => induct_children h w
termination_by sizeOf v
decreasing_by exact Value.sizeOf_lt_of_mem_children ‹_›

/-- In a value, at most `room` arrays and objects that are not empty are nested in one another. -/
def Value.OpensWithin : Nat → Value → Prop
  | 0, v => v.children = []
  | room + 1, v => ∀ w ∈ v.children, w.OpensWithin room

instance : ∀ (room : Nat) (v : Value), Decidable (v.OpensWithin room)
  | 0, v => decidable_of_iff (v.children.isEmpty = true) List.isEmpty_iff
  | room + 1, v =>
    have : DecidablePred (Value.OpensWithin room) := instDecidableOpensWithin room
    inferInstanceAs (Decidable (∀ w ∈ v.children, w.OpensWithin room))

end SchemaCatalog.Json
