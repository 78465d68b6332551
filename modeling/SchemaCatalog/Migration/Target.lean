import SchemaCatalog.Migration.History
import SchemaCatalog.Text.Number

/-!
# Targets of migrations

A target is a revision by its identifier or by a beginning of it, `base` for the state before the
first revision, `head` or `heads` for the last one, or a number of steps, with a sign, from one of
these or from the current revision. Before an at sign a revision may be named that the target must
be related to; in a history without branches any two revisions are.

`upgradeTo` and `downgradeTo` tell how far a migration takes a store.
-/

namespace SchemaCatalog.Migration

/-! ### Revisions -/

/-- How far a store has come at the revision that an identifier, or the beginning of one, stands
for. -/
def position (id : String) : Except MigrationError Nat :=
  if id = "" then .error .noRevision
  else
    match history.findIdx? (·.id = id) with
    | some i => .ok (i + 1)
    | none =>
      match (history.zipIdx.filter fun (r, _) => r.id.startsWith id) with
      | [(_, i)] => .ok (i + 1)
      | _ => .error .badTarget

/-- A text up to its first at sign, if it has one, and what follows the sign. -/
def splitBranch (text : String) : Option String × String :=
  match text.toList.span (· != '@') with
  | (branch, _ :: id) => (some (String.ofList branch), String.ofList id)
  | (_, []) => (none, text)

/-- Fails for the name of a branch that no revision has. No name will do. -/
def requireBranch : Option String → Except MigrationError Unit
  | none | some "" => .ok ()
  | some branch => (position branch).map fun _ => ()

/-- Whether a name stands for the last revision. -/
def isHead (id : String) : Bool := id == "head" || id == "heads"

/-- How far a store has come at the revision that a name stands for. -/
def named (text : String) : Except MigrationError Nat := do
  let (branch, id) := splitBranch text
  requireBranch branch
  if id = "base" then .ok 0
  else if isHead id then .ok history.length
  else position id

/-- Fails for something that revisions should be related to and that is none. -/
def requireRelated (label : String) : Except MigrationError Unit := do
  let (branch, id) := splitBranch label
  requireBranch branch
  if id = "base" ∨ isHead id then .ok () else (position id).map fun _ => ()

/-! ### Steps -/

/-- A place in the history that steps lead to: a number of revisions that a store has been through,
or what lies below the first revision when it is reached from above. -/
inductive Place
  | after (n : Nat)
  | bottom
  deriving DecidableEq, Repr

/-- Goes up by so many revisions, if there are as many. Each of them must be related to what a
label names, if one is given. -/
def stepsUp (label : Option String) (n : Nat) : Nat → Except MigrationError (Option Nat)
  | 0 => .ok (some n)
  | steps + 1 =>
    if history.length ≤ n then .ok none
    else
      match label with
      | none => stepsUp label (n + 1) steps
      | some name => do
        requireRelated name
        stepsUp label (n + 1) steps

/-- Goes down by so many revisions. What lies before the first revision is the last one, and what
lies below it is nothing. -/
def stepsDown : Place → Nat → Option Place
  | place, 0 => some place
  | .bottom, _ + 1 => none
  | .after 0, steps + 1 => stepsDown (.after history.length) steps
  | .after 1, steps + 1 => stepsDown .bottom steps
  | .after (n + 2), steps + 1 => stepsDown (.after (n + 1)) steps

/-! ### Reading -/

/-- A number of steps from a revision, or from the current one. -/
structure Steps where
  branch : Option String
  start : Option String
  backward : Bool
  digits : List Char
  deriving DecidableEq, Repr

/-- How many steps there are. -/
def Steps.count (s : Steps) : Except MigrationError Nat :=
  if Text.maxIntegerDigits < s.digits.length then .error .tooManyDigits
  else .ok (s.digits.foldl (fun n c => 10 * n + (Text.digit? c).getD 0) 0)

/-- Reads steps without a branch: perhaps a word, then a sign and digits. What follows the digits
does not count. -/
def stepsOf? (branch : Option String) (cs : List Char) : Option Steps :=
  let (word, rest) := cs.span Text.isWordChar
  let start := if word = [] then none else some (String.ofList word)
  match rest with
  | sign :: rest =>
    let digits := rest.takeWhile Text.isDigit
    if (sign = '+' ∨ sign = '-') ∧ digits ≠ [] then
      some ⟨branch, start, sign == '-', digits⟩
    else none
  | [] => none

/-- Reads steps after a branch, which ends at the first at sign for which that is possible; it has
at least one character and stays on one line. -/
def branchStepsOf? (before : List Char) : List Char → Option Steps
  | [] => none
  | c :: rest =>
    if c = '\n' then none
    else
      let here :=
        if c = '@' ∧ before ≠ [] then stepsOf? (some (String.ofList before.reverse)) rest else none
      here.orElse fun _ => branchStepsOf? (c :: before) rest

/-- Reads a number of steps. -/
def Steps.read? (text : String) : Option Steps :=
  (branchStepsOf? [] text.toList).orElse fun _ => stepsOf? none text.toList

/-! ### Upgrades -/

/-- A place that has to be a revision. -/
def requireRevision : Option Place → Except MigrationError Nat
  | some (.after (n + 1)) => .ok (n + 1)
  | _ => .error .noRevision

/-- The revisions that an upgrade without steps goes to: one, or none where the target is the base.
A negative number counts down from the last revision. -/
def upgradeGoal (target : String) : Except MigrationError Nat :=
  let (branch, id) := splitBranch target
  if id = "base" then .ok 0
  else
    match Text.integer? id.toList with
    | some (.negSucc n) =>
      if branch.isSome then .ok 0
      else requireRevision (stepsDown (.after history.length) (n + 1))
    | _ => named target

/-- How far an upgrade goes that is given as steps. -/
def upgradeSteps (current : Nat) (s : Steps) : Except MigrationError Nat := do
  let count ← s.count
  if ¬ s.backward ∧ count ≠ 0 then
    match s.start with
    | none =>
      s.branch.forM requireRelated
      match ← stepsUp s.branch current count with
      | some n => .ok n
      | none => .error .badTarget
    | some name =>
      match ← stepsUp s.branch (← named name) count with
      | some n => .ok n
      | none => .error .noRevision
  else
    match s.start with
    | none => .error .badTarget
    | some name =>
      let n ← named ((s.branch.map (· ++ "@")).getD "" ++ name)
      requireRevision (stepsDown (.after n) count)

/-- How far an upgrade from `current` goes. An upgrade never goes back. -/
def upgradeTo (current : Nat) (target : String) : Except MigrationError Nat :=
  (match Steps.read? target with
    | some s => upgradeSteps current s
    | none => upgradeGoal target).map (max current)

/-! ### Downgrades -/

/-- How far a downgrade leaves a store that is given as steps. -/
def downgradeSteps (current : Nat) (s : Steps) : Except MigrationError Nat := do
  let count ← s.count
  if ¬ s.backward ∨ count = 0 then
    match s.start with
    | none => .error .badTarget
    | some name =>
      match ← stepsUp s.branch (← named name) count with
      | none | some 0 => .error .badTarget
      | some n => .ok n
  else
    let start ←
      match s.start, s.branch with
      | none, none => if current = 0 then .error .badTarget else .ok current
      | none, some label =>
        if current = 0 then .error .noRevision
        else do
          requireRelated label
          named (label ++ "@" ++ (recordedAt current).getD "")
      | some name, branch => named ((branch.map (· ++ "@")).getD "" ++ name)
    match stepsDown (.after start) count with
    | none => .error .badTarget
    | some .bottom => .ok 0
    | some (.after n) => .ok n

/-- How far a downgrade leaves a store that is given without steps. What stands before the last at
sign does not count. -/
def downgradeGoal (target : String) : Except MigrationError Nat :=
  named (String.ofList (target.toList.reverse.takeWhile (· != '@')).reverse)

/-- How far a downgrade from `current` leaves a store. A revision that the store has not been
through cannot be gone back to. -/
def downgradeTo (current : Nat) (target : String) : Except MigrationError Nat := do
  let goal ←
    match Steps.read? target with
    | some s => downgradeSteps current s
    | none => downgradeGoal target
  if current < goal then .error .badTarget else .ok goal

end SchemaCatalog.Migration
