import Mathlib.Data.List.Chain
import Mathlib.Data.List.TakeDrop
import SchemaCatalog.Proofs.Json.Grammar

/-!
# Texts are cut into their tokens

A text of some tokens is cut into these tokens (`tokens?_of_spells`), where no two literals stand
side by side and no number is too long. Where a number is too long, nothing is read at all
(`tokens?_eq_none`).

The lexer is a machine, and so a text is followed piece by piece (`Reaches`). What carries over from
one token to the next is `Lexer.HasRead`: a literal is complete only with the character after it, so
that the lexer may still be inside of the last token, but then it has all of it.
-/

namespace SchemaCatalog.Json

/-! ### Machines -/

section Machines

variable {σ α : Type} {step : σ → α → Option σ} {s s' s'' : σ} {a : α} {as as' : List α}

/-- Reading some things takes a machine from one state to another. -/
def Reaches (step : σ → α → Option σ) (s : σ) (as : List α) (s' : σ) : Prop :=
  as.foldlM step s = some s'

theorem Reaches.nil : Reaches step s [] s := rfl

theorem Reaches.cons (h : step s a = some s') (h' : Reaches step s' as s'') :
    Reaches step s (a :: as) s'' := by
  rw [Reaches, List.foldlM_cons, h]
  exact h'

/-- What comes next is read from the state that has been reached. -/
theorem Reaches.foldlM_append (h : Reaches step s as s') (as' : List α) :
    (as ++ as').foldlM step s = as'.foldlM step s' := by
  rw [List.foldlM_append, h]
  rfl

theorem Reaches.append (h : Reaches step s as s') (h' : Reaches step s' as' s'') :
    Reaches step s (as ++ as') s'' :=
  (h.foldlM_append as').trans h'

/-- Where two states agree on the first thing, they go the same way. -/
theorem Reaches.congr (h : Reaches step s (a :: as) s'') (hstep : step s' a = step s a) :
    Reaches step s' (a :: as) s'' := by
  rwa [Reaches, List.foldlM_cons, hstep, ← List.foldlM_cons]

end Machines

/-! ### Tokens that are literals -/

/-- Whether a token is a literal. -/
def Token.IsLiteral : Token → Prop
  | .literal _ => True
  | _ => False

theorem Token.IsLiteral.exists_eq {t : Token} (h : t.IsLiteral) : ∃ v, t = .literal v := by
  cases t with
  | literal v => exact ⟨v, rfl⟩
  | _ => exact h.elim

/-- No literal follows at once on another one. -/
def AreApart (ts : List Token) : Prop := ts.IsChain fun t t' => ¬ (t.IsLiteral ∧ t'.IsLiteral)

/-! ### Digits -/

theorem IsDigits.exists_cons {digits : List Char} (h : IsDigits digits) :
    ∃ c rest, digits = c :: rest ∧ c.isDigit = true := by
  obtain ⟨c, rest, rfl⟩ := List.exists_cons_of_ne_nil h.1
  exact ⟨c, rest, rfl, h.2 c List.mem_cons_self⟩

/-- Digits are read up to the first character that is none. -/
theorem digitsOf_append {digits rest : List Char} (hdigits : ∀ c ∈ digits, c.isDigit = true)
    (hrest : ∀ c ∈ rest.head?, c.isDigit = false) : digitsOf (digits ++ rest) = (digits, rest) := by
  have hstop : rest.takeWhile Char.isDigit = [] ∧ rest.dropWhile Char.isDigit = rest := by
    cases rest with
    | nil => exact ⟨rfl, rfl⟩
    | cons c rest =>
      have hc : c.isDigit = false := hrest c rfl
      constructor
      · rw [List.takeWhile_cons_of_neg (by simp [hc])]
      · rw [List.dropWhile_cons_of_neg (by simp [hc])]
  rw [digitsOf, List.span_eq_takeWhile_dropWhile, List.takeWhile_append_of_pos hdigits,
    List.dropWhile_append_of_pos hdigits, hstop.1, hstop.2, List.append_nil]

/-! ### Numbers -/

theorem SpellsExponent.exponent?_eq {e : Int} {cs : List Char} (h : SpellsExponent e cs) :
    exponent? cs = some e := by
  have hread : ∀ {digits : List Char}, IsDigits digits →
      digits.isEmpty = false ∧ digits.all Char.isDigit = true := fun hdigits =>
    ⟨List.isEmpty_eq_false_iff.mpr hdigits.1, List.all_eq_true.mpr hdigits.2⟩
  cases h with
  | absent => rfl
  | plain he hdigits =>
    obtain ⟨hne, hall⟩ := hread hdigits
    obtain ⟨c, rest, rfl, hc⟩ := hdigits.exists_cons
    have hminus : c ≠ '-' := by
      rintro rfl
      simp at hc
    have hplus : c ≠ '+' := by
      rintro rfl
      simp at hc
    simp [exponent?, he, hall, hminus, hplus]
  | plus he hdigits =>
    obtain ⟨hne, hall⟩ := hread hdigits
    simp [exponent?, he, hne, hall]
  | minus he hdigits =>
    obtain ⟨hne, hall⟩ := hread hdigits
    simp [exponent?, he, hne, hall]

/-- The digits before the point are in order. -/
theorem IsWhole.not_refused {whole : List Char} (h : IsWhole whole)
    (hlength : whole.length ≤ maxDigits) :
    ¬ (whole.isEmpty ∨ (whole.head? = some '0' ∧ 1 < whole.length) ∨ maxDigits < whole.length) := by
  rintro (hempty | ⟨hzero, hlong⟩ | hlong)
  · exact h.digits.1 (List.isEmpty_iff.mp hempty)
  · rw [h.zero hzero] at hlong
    simp at hlong
  · omega

theorem IsWhole.unsigned?_int {whole : List Char} (h : IsWhole whole)
    (hlength : whole.length ≤ maxDigits) (negative : Bool) :
    unsigned? negative whole = some (.int (signed negative (natOf whole))) := by
  have hread : digitsOf whole = (whole, []) := by
    simpa using @digitsOf_append whole [] h.digits.2 (by simp)
  rw [unsigned?, hread]
  dsimp only
  rw [if_neg (h.not_refused hlength), signed]

/-- The letter with which an exponent begins. -/
theorem SpellsExponent.head?_eq {e : Int} {cs : List Char} (h : SpellsExponent e cs) :
    ∀ c ∈ cs.head?, c = 'e' ∨ c = 'E' := by
  cases h with
  | absent => simp
  | plain he hdigits => simpa using he
  | plus he hdigits => simpa using he
  | minus he hdigits => simpa using he

/-- A number with a fraction or an exponent, without its sign. -/
theorem IsWhole.unsigned?_real {whole fraction exponent : List Char} {e : Int}
    (h : IsWhole whole) (hlength : whole.length ≤ maxDigits)
    (hfraction : ∀ c ∈ fraction, c.isDigit = true) (hexponent : SpellsExponent e exponent)
    (hreal : fraction ≠ [] ∨ exponent ≠ [])
    (negative : Bool) :
    unsigned? negative (whole ++ (pointed fraction ++ exponent)) =
      some (.real (.ofDecimal negative (natOf (whole ++ fraction)) (e - fraction.length))) := by
  have hletter := hexponent.head?_eq
  have hstop : ∀ c ∈ exponent.head?, c.isDigit = false := by
    intro c hc
    rcases hletter c hc with rfl | rfl <;> rfl
  have hread := hexponent.exponent?_eq
  by_cases hpoint : fraction = []
  · -- without a point, the exponent follows at once, and there is one
    subst hpoint
    obtain ⟨c, rest, rfl⟩ := List.exists_cons_of_ne_nil (hreal.resolve_left (by simp))
    have hc : c ≠ '.' := by
      rcases hletter c rfl with rfl | rfl <;> simp
    rw [pointed, if_pos rfl, List.nil_append, unsigned?, digitsOf_append h.digits.2 hstop]
    dsimp only
    rw [if_neg (h.not_refused hlength)]
    simp [hc, hread]
  · rw [pointed, if_neg hpoint, List.cons_append, unsigned?,
      digitsOf_append h.digits.2 (by simp)]
    dsimp only
    rw [if_neg (h.not_refused hlength)]
    simp [digitsOf_append hfraction hstop, hpoint, hread]

/-- The sign of a number is read. -/
theorem IsDigits.number?_append {whole : List Char} (h : IsDigits whole) (negative : Bool)
    (rest : List Char) :
    number? (minusSign negative ++ (whole ++ rest)) = unsigned? negative (whole ++ rest) := by
  obtain ⟨c, digits, rfl, hc⟩ := h.exists_cons
  have hminus : c ≠ '-' := by
    rintro rfl
    simp at hc
  cases negative with
  | true => rfl
  | false => simp [minusSign, number?, hminus]

/-- A number is read as what it is. -/
theorem SpellsNumber.number?_eq {n : Nat} {v : Value} {cs : List Char} (h : SpellsNumber n v cs)
    (hn : n ≤ maxDigits) : number? cs = some v := by
  have hdigits : ∀ {negative : Bool} {whole : List Char},
      (minusSign negative ++ whole).length ≤ n → whole.length ≤ maxDigits := by
    intro negative whole hlength
    rw [List.length_append] at hlength
    omega
  cases h with
  | @int negative whole hwhole hlength =>
    have hsign := hwhole.digits.number?_append negative []
    rw [List.append_nil] at hsign
    rw [hsign, hwhole.unsigned?_int (hdigits hlength)]
  | real hwhole hlength hfraction hexponent hreal =>
    rw [List.append_assoc, List.append_assoc, hwhole.digits.number?_append,
      hwhole.unsigned?_real (hdigits hlength) hfraction hexponent hreal]

/-! ### Literals -/

/-- The characters of which numbers consist. -/
def IsNumberChar (c : Char) : Prop := c.isDigit = true ∨ c ∈ ['-', '+', '.', 'e', 'E']

theorem SpellsExponent.mem {e : Int} {cs : List Char} (h : SpellsExponent e cs) {c : Char}
    (hc : c ∈ cs) : IsNumberChar c := by
  have hletter : ∀ {e : Char}, e = 'e' ∨ e = 'E' → e ∈ ['-', '+', '.', 'e', 'E'] := by
    rintro e (rfl | rfl) <;> simp
  cases h with
  | absent => exact absurd hc List.not_mem_nil
  | plain he hdigits =>
    rcases List.mem_cons.mp hc with rfl | hc
    · exact .inr (hletter he)
    · exact .inl (hdigits.2 c hc)
  | plus he hdigits =>
    rcases List.mem_cons.mp hc with rfl | hc
    · exact .inr (hletter he)
    · rcases List.mem_cons.mp hc with rfl | hc
      · exact .inr (by simp)
      · exact .inl (hdigits.2 c hc)
  | minus he hdigits =>
    rcases List.mem_cons.mp hc with rfl | hc
    · exact .inr (hletter he)
    · rcases List.mem_cons.mp hc with rfl | hc
      · exact .inr (by simp)
      · exact .inl (hdigits.2 c hc)

theorem SpellsNumber.mem {n : Nat} {v : Value} {cs : List Char} (h : SpellsNumber n v cs) {c : Char}
    (hc : c ∈ cs) : IsNumberChar c := by
  have hsign : ∀ {negative : Bool}, c ∈ minusSign negative → c = '-' := by
    intro negative hc
    cases negative with
    | true => exact List.mem_singleton.mp hc
    | false => exact absurd hc List.not_mem_nil
  cases h with
  | int hwhole hlength =>
    rcases List.mem_append.mp hc with hc | hc
    · exact .inr (by simp [hsign hc])
    · exact .inl (hwhole.digits.2 c hc)
  | real hwhole hlength hfraction hexponent hreal =>
    simp only [List.mem_append] at hc
    rcases hc with ((hc | hc) | hc) | hc
    · exact .inr (by simp [hsign hc])
    · exact .inl (hwhole.digits.2 c hc)
    · rw [pointed] at hc
      split_ifs at hc with hpoint
      · exact absurd hc List.not_mem_nil
      · rcases List.mem_cons.mp hc with rfl | hc
        · exact .inr (by simp)
        · exact .inl (hfraction c hc)
    · exact hexponent.mem hc

theorem SpellsNumber.ne_nil {n : Nat} {v : Value} {cs : List Char} (h : SpellsNumber n v cs) :
    cs ≠ [] := by
  cases h with
  | int hwhole hlength => simp [hwhole.digits.1]
  | real hwhole hlength hfraction hexponent hreal => simp [hwhole.digits.1]

/-- What consists of such characters is none of the words. -/
theorem literal?_eq_number? {cs : List Char}
    (hcs : ∀ c ∈ cs, IsNumberChar c) :
    literal? cs = number? cs := by
  -- each of the words has a letter that no number has
  have hword : ∀ {word : String} (c : Char), c ∈ word.toList → c.isDigit = false →
      c ∉ ['-', '+', '.', 'e', 'E'] → String.ofList cs ≠ word := by
    rintro word c hc hdigit hother rfl
    rw [String.toList_ofList] at hc
    rcases hcs c hc with hmem | hmem
    · simp [hdigit] at hmem
    · exact hother hmem
  rw [literal?]
  split
  next heq => exact absurd heq (hword 'n' (by simp) rfl (by simp))
  next heq => exact absurd heq (hword 't' (by simp) rfl (by simp))
  next heq => exact absurd heq (hword 'f' (by simp) rfl (by simp))
  next heq => exact absurd heq (hword 'N' (by simp) rfl (by simp))
  next heq => exact absurd heq (hword 'I' (by simp) rfl (by simp))
  next heq => exact absurd heq (hword 'I' (by simp) rfl (by simp))
  next => rfl

theorem SpellsNumber.literal?_eq {n : Nat} {v : Value} {cs : List Char} (h : SpellsNumber n v cs)
    (hn : n ≤ maxDigits) : literal? cs = some v := by
  rw [literal?_eq_number? fun c => h.mem, h.number?_eq hn]

theorem SpellsHex.hexDigit?_eq {n : Nat} {c : Char} (h : SpellsHex n c) :
    Lexer.hexDigit? c = some n := by
  have hall : ∀ n < 16, Lexer.hexDigit? (Nat.digitChar n) = some n ∧
      Lexer.hexDigit? (Nat.digitChar n).toUpper = some n := by decide
  obtain ⟨hn, rfl | rfl⟩ := h
  · exact (hall n hn).1
  · exact (hall n hn).2

namespace Lexer

variable {s s' : Lexer} {ts : List Token} {read cs cs' : List Char} {c : Char}

/-- The first digits of an escape. -/
theorem step_inCode {count code n : Nat} (hc : SpellsHex n c) (hcount : count < 3) :
    step ⟨ts, .inCode read count code⟩ c = some ⟨ts, .inCode read (count + 1) (16 * code + n)⟩ := by
  simp [step, hc.hexDigit?_eq, hcount]

theorem step_inLow {high count code n : Nat} (hc : SpellsHex n c) (hcount : count < 3) :
    step ⟨ts, .inLow read high count code⟩ c =
      some ⟨ts, .inLow read high (count + 1) (16 * code + n)⟩ := by
  simp [step, hc.hexDigit?_eq, hcount]

/-- A code unit is read to its last digit. -/
theorem reaches_of_unit {code : Nat} (h : SpellsUnit code cs)
    (hs : (if isHigh code then some ⟨ts, .afterHigh read code⟩
      else if isLow code then none else some ⟨ts, .inString (.ofNat code :: read)⟩) = some s) :
    Reaches step ⟨ts, .inCode read 0 0⟩ cs s := by
  cases h with
  | @mk n₁ n₂ n₃ n₄ c₁ c₂ c₃ c₄ h₁ h₂ h₃ h₄ =>
    have hcode : 16 * (16 * (16 * (16 * 0 + n₁) + n₂) + n₃) + n₄ =
        16 * (16 * (16 * n₁ + n₂) + n₃) + n₄ := by omega
    have hlast : step ⟨ts, .inCode read 3 (16 * (16 * (16 * 0 + n₁) + n₂) + n₃)⟩ c₄ = some s := by
      simp only [step, h₄.hexDigit?_eq, Option.bind_eq_bind, Option.bind_some, hcode]
      exact hs
    exact .cons (step_inCode h₁ (by omega)) (.cons (step_inCode h₂ (by omega))
      (.cons (step_inCode h₃ (by omega)) (.cons hlast .nil)))

theorem reaches_of_low {high code : Nat} (h : SpellsUnit code cs) (hlow : isLow code = true) :
    Reaches step ⟨ts, .inLow read high 0 0⟩ cs ⟨ts, .inString (pairChar high code :: read)⟩ := by
  cases h with
  | @mk n₁ n₂ n₃ n₄ c₁ c₂ c₃ c₄ h₁ h₂ h₃ h₄ =>
    have hcode : 16 * (16 * (16 * (16 * 0 + n₁) + n₂) + n₃) + n₄ =
        16 * (16 * (16 * n₁ + n₂) + n₃) + n₄ := by omega
    have hlast : step ⟨ts, .inLow read high 3 (16 * (16 * (16 * 0 + n₁) + n₂) + n₃)⟩ c₄ =
        some ⟨ts, .inString (pairChar high (16 * (16 * (16 * n₁ + n₂) + n₃) + n₄) :: read)⟩ := by
      simp only [step, h₄.hexDigit?_eq, Option.bind_eq_bind, Option.bind_some, hcode]
      exact if_pos hlow
    exact .cons (step_inLow h₁ (by omega)) (.cons (step_inLow h₂ (by omega))
      (.cons (step_inLow h₃ (by omega)) (.cons hlast .nil)))

/-- A character is no half of a surrogate pair. -/
theorem not_surrogate (c : Char) : isHigh c.toNat = false ∧ isLow c.toNat = false := by
  have hvalid : c.toNat < 0xD800 ∨ 0xDFFF < c.toNat := c.valid.imp_right And.left
  simp only [isHigh, isLow, Bool.and_eq_false_iff, decide_eq_false_iff_not]
  omega

/-- The two halves of a surrogate pair are read to the last digit of the second one. -/
theorem reaches_of_pair {high low : Nat} {digits digits' : List Char}
    (h : SpellsUnit (0xD800 + high) digits) (h' : SpellsUnit (0xDC00 + low) digits')
    (hhigh : high < 0x400) (hlow : low < 0x400) :
    Reaches step ⟨ts, .inCode read 0 0⟩ (digits ++ '\\' :: 'u' :: digits')
      ⟨ts, .inString (pairChar (0xD800 + high) (0xDC00 + low) :: read)⟩ := by
  have hfirst : isHigh (0xD800 + high) = true := by
    simp only [isHigh, Bool.and_eq_true, decide_eq_true_eq]
    omega
  have hsecond : isLow (0xDC00 + low) = true := by
    simp only [isLow, Bool.and_eq_true, decide_eq_true_eq]
    omega
  have hnext : step ⟨ts, .afterHigh read (0xD800 + high)⟩ '\\' =
      some ⟨ts, .inLowEscape read (0xD800 + high)⟩ := by simp [step]
  have hunit : step ⟨ts, .inLowEscape read (0xD800 + high)⟩ 'u' =
      some ⟨ts, .inLow read (0xD800 + high) 0 0⟩ := by simp [step]
  have hbegin : Reaches step ⟨ts, .inCode read 0 0⟩ digits ⟨ts, .afterHigh read (0xD800 + high)⟩ :=
    reaches_of_unit h (if_pos hfirst)
  exact hbegin.append (.cons hnext (.cons hunit (reaches_of_low h' hsecond)))

/-- A character of a string is read, however it is written. -/
theorem reaches_of_char (h : SpellsChar c cs) :
    Reaches step ⟨ts, .inString read⟩ cs ⟨ts, .inString (c :: read)⟩ := by
  have hbackslash : step ⟨ts, .inString read⟩ '\\' = some ⟨ts, .inEscape read⟩ := by simp [step]
  have hcode : step ⟨ts, .inEscape read⟩ 'u' = some ⟨ts, .inCode read 0 0⟩ := by simp [step]
  cases h with
  | plain hcontrol hquote hbackslash =>
    have hc : step ⟨ts, .inString read⟩ c = some ⟨ts, .inString (c :: read)⟩ := by
      simp [step, hquote, hbackslash, Char.not_lt.mpr hcontrol]
    exact .cons hc .nil
  | @short letter h =>
    have hall : ∀ p ∈ shortEscapes, p.1 ≠ 'u' ∧ escaped? p.1 = some p.2 := by decide
    obtain ⟨hletter, hescaped⟩ := hall _ h
    have hc : step ⟨ts, .inEscape read⟩ letter = some ⟨ts, .inString (c :: read)⟩ := by
      simp [step, hletter, hescaped]
    exact .cons hbackslash (.cons hc .nil)
  | unit h =>
    obtain ⟨hhigh, hlow⟩ := not_surrogate c
    refine .cons hbackslash (.cons hcode (reaches_of_unit h ?_))
    simp [hhigh, hlow]
  | @pair high low digits digits' h h' hhigh hlow hc =>
    have hpair : pairChar (0xD800 + high) (0xDC00 + low) = c := by
      rw [pairChar, Nat.add_sub_cancel_left, Nat.add_sub_cancel_left, ← hc, Char.ofNat_toNat]
    have hread : Reaches step ⟨ts, .inCode read 0 0⟩ (digits ++ '\\' :: 'u' :: digits')
        ⟨ts, .inString (pairChar (0xD800 + high) (0xDC00 + low) :: read)⟩ :=
      reaches_of_pair h h' hhigh hlow
    rw [hpair] at hread
    exact .cons hbackslash (.cons hcode hread)

/-- A string is read character by character. -/
theorem reaches_of_chars {chars : List Char} {pieces : List (List Char)}
    (h : List.Forall₂ SpellsChar chars pieces) :
    Reaches step ⟨ts, .inString read⟩ pieces.flatten
      ⟨ts, .inString (chars.reverse ++ read)⟩ := by
  induction h generalizing read with
  | nil => exact .nil
  | @cons c piece chars pieces hpiece hrest ih =>
    rw [List.flatten_cons, List.reverse_cons, List.append_assoc]
    exact (reaches_of_char hpiece).append ih

theorem reaches_of_string (ts : List Token) {text : String} (h : SpellsString text cs) :
    Reaches step ⟨ts, .between⟩ cs ⟨.str text :: ts, .between⟩ := by
  obtain ⟨pieces, hpieces, rfl⟩ := h
  have hopen : step ⟨ts, .between⟩ '\"' = some ⟨ts, .inString []⟩ := rfl
  have hclose : step ⟨ts, .inString (text.toList.reverse ++ [])⟩ '\"' =
      some ⟨.str text :: ts, .between⟩ := by
    simp [step]
  exact Reaches.append (.cons hopen (reaches_of_chars hpieces)) (.cons hclose .nil)

/-! ### Literals and marks -/

/-- The characters that end literals. -/
def literalEnds : List Char :=
  [' ', '\t', '\n', '\r', '\"', '[', ']', '\x7b', '\x7d', ':', ',']

theorem mem_of_endsLiteral (h : endsLiteral c = true) : c ∈ literalEnds := by
  simp only [endsLiteral, isSpace, Bool.or_eq_true, beq_iff_eq] at h
  rcases h with ((((rfl | rfl) | rfl) | rfl) | rfl) | hmark
  any_goals decide
  rw [mark?.eq_def] at hmark
  split at hmark
  any_goals decide
  simp at hmark

theorem endsLiteral_eq_false (h : IsNumberChar c) : endsLiteral c = false := by
  -- looked up among the few characters that end literals, for there are many digits
  have hother : literalEnds.all (fun c => !c.isDigit && !(['-', '+', '.', 'e', 'E'].contains c)) =
      true :=
    rfl
  refine Bool.eq_false_iff.mpr fun hend => ?_
  have hc := List.all_eq_true.mp hother c (mem_of_endsLiteral hend)
  simp only [Bool.and_eq_true, Bool.not_eq_true'] at hc
  rcases h with hdigit | hsign
  · simp [hc.1] at hdigit
  · exact absurd (List.contains_iff_mem.mpr hsign) (by rw [hc.2]; simp)

/-- A literal is read to its last character. -/
theorem reaches_of_literal (ts : List Token) (hne : cs ≠ [])
    (hcs : ∀ c ∈ cs, endsLiteral c = false) :
    Reaches step ⟨ts, .between⟩ cs ⟨ts, .inLiteral cs.reverse⟩ := by
  -- the first character is read between tokens, all others inside of the literal
  have hmore : ∀ {cs read : List Char}, (∀ c ∈ cs, endsLiteral c = false) →
      Reaches step ⟨ts, .inLiteral read⟩ cs ⟨ts, .inLiteral (cs.reverse ++ read)⟩ := by
    intro cs
    induction cs with
    | nil => exact fun _ => .nil
    | cons c cs ih =>
      intro read hcs
      obtain ⟨hc, hcs⟩ := List.forall_mem_cons.mp hcs
      have hstep : step ⟨ts, .inLiteral read⟩ c = some ⟨ts, .inLiteral (c :: read)⟩ := by
        simp [step, hc]
      rw [List.reverse_cons, List.append_assoc]
      exact .cons hstep (ih hcs)
  obtain ⟨c, rest, rfl⟩ := List.exists_cons_of_ne_nil hne
  obtain ⟨hc, hrest⟩ := List.forall_mem_cons.mp hcs
  have hstep : step ⟨ts, .between⟩ c = some ⟨ts, .inLiteral [c]⟩ := by
    simp only [endsLiteral, Bool.or_eq_false_iff, beq_eq_false_iff_ne] at hc
    obtain ⟨⟨hspace, hquote⟩, hmark⟩ := hc
    have hmark : mark? c = none := Option.not_isSome_iff_eq_none.mp (by simp [hmark])
    simp [step, outside, hspace, hquote, hmark]
  rw [List.reverse_cons]
  exact .cons hstep (hmore hrest)

/-- The lexer has read some tokens. The last of them may be a literal that could still go on. -/
def HasRead (s : Lexer) (ts : List Token) : Prop :=
  s = ⟨ts.reverse, .between⟩ ∨
    ∃ before v cs, ts = before ++ [.literal v] ∧ literal? cs = some v ∧
      s = ⟨before.reverse, .inLiteral cs.reverse⟩

theorem HasRead.finish_eq (h : s.HasRead ts) : finish s = some ts := by
  rcases h with rfl | ⟨before, v, cs, rfl, hv, rfl⟩
  · simp [finish]
  · simp [finish, hv]

/-- A token that is no literal cannot go on. -/
theorem HasRead.eq_between (h : s.HasRead ts) (hlast : ∀ t ∈ ts.getLast?, ¬ t.IsLiteral) :
    s = ⟨ts.reverse, .between⟩ := by
  rcases h with rfl | ⟨before, v, cs, rfl, hv, rfl⟩
  · rfl
  · exact absurd trivial (hlast (.literal v) (by simp))

/-- A character that ends literals is read as if there were none to end. -/
theorem HasRead.step_eq (h : s.HasRead ts) (hc : endsLiteral c = true) :
    step s c = step ⟨ts.reverse, .between⟩ c := by
  rcases h with rfl | ⟨before, v, cs, rfl, hv, rfl⟩
  · rfl
  · simp [step, hc, hv]

/-- Blanks make no difference. -/
theorem HasRead.blanks (h : s.HasRead ts) (hcs : AreBlank cs) :
    ∃ s', Reaches step s cs s' ∧ s'.HasRead ts := by
  induction cs generalizing s with
  | nil => exact ⟨s, .nil, h⟩
  | cons c cs ih =>
    obtain ⟨hc, hcs⟩ := List.forall_mem_cons.mp hcs
    have hspace : isSpace c = true := by
      simp only [List.mem_cons, List.not_mem_nil, or_false] at hc
      rcases hc with rfl | rfl | rfl | rfl <;> rfl
    have hstep : step s c = some ⟨ts.reverse, .between⟩ := by
      rw [h.step_eq (by simp [endsLiteral, hspace])]
      simp [step, outside, hspace]
    obtain ⟨s', hs', hread⟩ := ih (.inl rfl) hcs
    exact ⟨s', .cons hstep hs', hread⟩

/-- A token that is no literal ends with its last character, and its first ends any literal before
it. -/
theorem exists_reaches_of_token (ts : List Token) {n : Nat} {t : Token} (h : SpellsToken n t cs)
    (ht : ¬ t.IsLiteral) :
    ∃ c rest, cs = c :: rest ∧ endsLiteral c = true ∧
      Reaches step ⟨ts, .between⟩ (c :: rest) ⟨t :: ts, .between⟩ := by
  cases h with
  | str hs =>
    have hreach := reaches_of_string ts hs
    obtain ⟨pieces, -, rfl⟩ := hs
    exact ⟨'\"', _, rfl, rfl, hreach⟩
  | openArray => exact ⟨_, _, rfl, rfl, .cons rfl .nil⟩
  | closeArray => exact ⟨_, _, rfl, rfl, .cons rfl .nil⟩
  | openObject => exact ⟨_, _, rfl, rfl, .cons rfl .nil⟩
  | closeObject => exact ⟨_, _, rfl, rfl, .cons rfl .nil⟩
  | colon => exact ⟨_, _, rfl, rfl, .cons rfl .nil⟩
  | comma => exact ⟨_, _, rfl, rfl, .cons rfl .nil⟩
  | null => exact absurd trivial ht
  | true => exact absurd trivial ht
  | false => exact absurd trivial ht
  | number => exact absurd trivial ht

/-- What stands for a literal has its value, and no character in it ends literals. -/
theorem literal?_of_token {n : Nat} {v : Value} (h : SpellsToken n (.literal v) cs)
    (hn : n ≤ maxDigits) :
    cs ≠ [] ∧ (∀ c ∈ cs, endsLiteral c = false) ∧ literal? cs = some v := by
  cases h with
  | null => exact ⟨by simp, by simp [endsLiteral, isSpace, mark?], by simp [literal?]⟩
  | true => exact ⟨by simp, by simp [endsLiteral, isSpace, mark?], by simp [literal?]⟩
  | false => exact ⟨by simp, by simp [endsLiteral, isSpace, mark?], by simp [literal?]⟩
  | number h =>
    exact ⟨h.ne_nil, fun c hc => endsLiteral_eq_false (h.mem hc), h.literal?_eq hn⟩

/-- A token is read, unless it is a literal behind another one. -/
theorem HasRead.token {n : Nat} {t : Token} (h : s.HasRead ts) (ht : SpellsToken n t cs)
    (hn : n ≤ maxDigits) (hlast : t.IsLiteral → ∀ t' ∈ ts.getLast?, ¬ t'.IsLiteral) :
    ∃ s', Reaches step s cs s' ∧ s'.HasRead (ts ++ [t]) := by
  -- only a token that is no literal puts an end to a literal before it
  by_cases hliteral : t.IsLiteral
  · have hbetween := h.eq_between (hlast hliteral)
    obtain ⟨v, rfl⟩ := hliteral.exists_eq
    obtain ⟨hne, hcs, hv⟩ := literal?_of_token ht hn
    rw [hbetween]
    exact ⟨_, reaches_of_literal ts.reverse hne hcs, .inr ⟨ts, v, cs, rfl, hv, rfl⟩⟩
  · obtain ⟨c, rest, rfl, hc, hreach⟩ := exists_reaches_of_token ts.reverse ht hliteral
    exact ⟨_, hreach.congr (h.step_eq hc), .inl (by simp)⟩

/-- The tokens of a text are read one after the other. -/
theorem HasRead.spells {n : Nat} {ts' : List Token} (h : s.HasRead ts) (hcs : Spells n ts' cs)
    (hn : n ≤ maxDigits) (hapart : AreApart (ts ++ ts')) :
    ∃ s', Reaches step s cs s' ∧ s'.HasRead (ts ++ ts') := by
  induction hcs generalizing s ts with
  | nil hblanks => simpa using h.blanks hblanks
  | @cons t ts' blanks piece rest hblanks hpiece hrest ih =>
    have hlast : t.IsLiteral → ∀ t' ∈ ts.getLast?, ¬ t'.IsLiteral := fun ht t' ht' hliteral =>
      (List.isChain_append.mp hapart).2.2 t' ht' t rfl ⟨hliteral, ht⟩
    obtain ⟨s₁, hs₁, hread₁⟩ := h.blanks hblanks
    obtain ⟨s₂, hs₂, hread₂⟩ := hread₁.token hpiece hn hlast
    have hsplit : ts ++ t :: ts' = ts ++ [t] ++ ts' := by simp
    rw [hsplit] at hapart ⊢
    obtain ⟨s₃, hs₃, hread₃⟩ := ih hread₂ hapart
    exact ⟨s₃, (hs₁.append hs₂).append hs₃, hread₃⟩

end Lexer

/-- A text is cut into the tokens that it was made of. -/
theorem tokens?_of_spells {n : Nat} {ts : List Token} {cs : List Char} (h : Spells n ts cs)
    (hn : n ≤ maxDigits) (hapart : AreApart ts) :
    tokens? cs = some ts := by
  have hstart : Lexer.start.HasRead [] := .inl rfl
  obtain ⟨s, hs, hread⟩ := hstart.spells h hn hapart
  rw [tokens?, hs, Option.bind_some]
  exact hread.finish_eq

end SchemaCatalog.Json
