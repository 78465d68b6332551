/-!
# Terminal control sequences

Text that is not shown on a terminal is written without the sequences that would control one: an
escape character and an opening bracket, then any number of parameter characters, then any number
of intermediate characters, then a final character.
-/

namespace SchemaCatalog.Text

/-- The escape character. -/
def escapeChar : Char := '\x1b'

/-- Whether a character is part of the parameters of a control sequence. -/
def isParameter (c : Char) : Bool := '0' ≤ c && c ≤ '?'

/-- Whether a character may stand between the parameters and the end of a control sequence. -/
def isIntermediate (c : Char) : Bool := ' ' ≤ c && c ≤ '/'

/-- Whether a character ends a control sequence. -/
def isFinal (c : Char) : Bool := '@' ≤ c && c ≤ '~'

/-- What follows a control sequence, when the text after an escape character begins with the rest
of one. -/
def afterSequence? : List Char → Option (List Char)
  | '[' :: rest =>
    match (rest.dropWhile isParameter).dropWhile isIntermediate with
    | c :: tail => if isFinal c then some tail else none
    | [] => none
  | _ => none

/-- What follows a control sequence is shorter than the text that held it. -/
theorem length_afterSequence?_lt {cs tail : List Char} (h : afterSequence? cs = some tail) :
    tail.length < cs.length := by
  match cs with
  | [] => simp [afterSequence?] at h
  | c :: rest =>
    unfold afterSequence? at h
    split at h
    next rest' heq =>
      obtain ⟨-, rfl⟩ := List.cons.inj heq
      have hle : ((rest.dropWhile isParameter).dropWhile isIntermediate).length ≤ rest.length :=
        ((List.dropWhile_suffix _).trans (List.dropWhile_suffix _)).length_le
      split at h
      next d tail' hd =>
        split at h
        · obtain rfl : tail' = tail := by simpa using h
          rw [hd] at hle
          simp only [List.length_cons] at hle ⊢
          omega
        · simp at h
      next => simp at h
    next => simp at h

/-- A text without its control sequences. -/
def withoutControls : List Char → List Char
  | [] => []
  | c :: rest =>
    if c = escapeChar then
      match _h : afterSequence? rest with
      | some tail => withoutControls tail
      | none => c :: withoutControls rest
    else c :: withoutControls rest
termination_by cs => cs.length
decreasing_by
  · have := length_afterSequence?_lt _h
    simp only [List.length_cons]
    omega
  all_goals simp

end SchemaCatalog.Text
