/-!
# Bytes as text

Bytes that should be UTF-8 but need not be. `utf8Text` reads them in any case: what is no
character, as long as it could have become one, is read as a single replacement character.
-/

namespace SchemaCatalog.Text

/-- The character that stands for bytes that are none. -/
def replacementChar : Char := '\ufffd'

/-- What has been read: the characters, last one first, and the beginning of another one. -/
structure Utf8Reader where
  read : List Char
  /-- The value so far, how many bytes are missing, and the ends of the range of the next. -/
  begun : Option (Nat × Nat × Nat × Nat)

namespace Utf8Reader

/-- Reads the first byte of a character. The range of the second byte leaves out what has a
shorter form, the halves of surrogate pairs, and numbers beyond the last character. -/
def first (read : List Char) (b : Nat) : Utf8Reader :=
  if b < 0x80 then ⟨.ofNat b :: read, none⟩
  else if b < 0xc2 ∨ 0xf4 < b then ⟨replacementChar :: read, none⟩
  else if b < 0xe0 then ⟨read, some (b - 0xc0, 1, 0x80, 0xbf)⟩
  else if b < 0xf0 then
    let low := if b = 0xe0 then 0xa0 else 0x80
    let high := if b = 0xed then 0x9f else 0xbf
    ⟨read, some (b - 0xe0, 2, low, high)⟩
  else
    let low := if b = 0xf0 then 0x90 else 0x80
    let high := if b = 0xf4 then 0x8f else 0xbf
    ⟨read, some (b - 0xf0, 3, low, high)⟩

/-- Reads a byte. -/
def step (r : Utf8Reader) (b : Nat) : Utf8Reader :=
  match r.begun with
  | none => first r.read b
  | some (value, missing, low, high) =>
    if low ≤ b ∧ b ≤ high then
      let value := 64 * value + (b - 0x80)
      if missing ≤ 1 then ⟨.ofNat value :: r.read, none⟩
      else ⟨r.read, some (value, missing - 1, 0x80, 0xbf)⟩
    else first (replacementChar :: r.read) b

/-- The characters, when no byte follows. -/
def finish (r : Utf8Reader) : List Char :=
  (if r.begun.isSome then replacementChar :: r.read else r.read).reverse

end Utf8Reader

/-- Bytes as text. -/
def utf8Text (bytes : List Nat) : List Char :=
  (bytes.foldl Utf8Reader.step ⟨[], none⟩).finish

/-- The bytes of a character. -/
def utf8Bytes (c : Char) : List Nat := (String.singleton c).toUTF8.toList.map UInt8.toNat

end SchemaCatalog.Text
