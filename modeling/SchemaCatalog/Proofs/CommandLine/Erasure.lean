import SchemaCatalog.CommandLine.Run
import SchemaCatalog.Proofs.Console.Erasure

/-!
# Commands without their failed lines

`apply` and `shell` given the same lines leave the same store, and it is the store that they leave
when they are given only those lines that succeed (`failed_lines_erasable`). Lines get to `apply` on
its standard input or in a file (`Feeds`), and come out as they went in as long as there is no break
inside of them (`Text.lines_joined`).
-/

namespace SchemaCatalog

/-! ### Lines of a text -/

namespace Text

/-- A text without a break. -/
def IsLine (s : String) : Prop := '\n' ∉ s.toList ∧ '\r' ∉ s.toList

instance (s : String) : Decidable (IsLine s) :=
  inferInstanceAs (Decidable ('\n' ∉ s.toList ∧ '\r' ∉ s.toList))

/-- The text that consists of lines. -/
def joined (lines : List String) : String := String.join (lines.map (· ++ "\n"))

theorem toList_joined (lines : List String) :
    (joined lines).toList = lines.flatMap fun line => line.toList ++ ['\n'] := by
  simp [joined, String.toList_join, List.flatMap_map]

theorem linesFrom_cons {c : Char} (hfeed : c ≠ '\n') (hreturn : c ≠ '\r')
    (current rest : List Char) (started : Bool) :
    linesFrom current started (c :: rest) = linesFrom (c :: current) true rest := by
  simp [linesFrom, hreturn]

/-- What is read up to a line feed is a line. -/
theorem linesFrom_append {cs : List Char} (hfeed : '\n' ∉ cs) (hreturn : '\r' ∉ cs)
    (current rest : List Char) (started : Bool) :
    linesFrom current started (cs ++ '\n' :: rest) =
      (current.reverse ++ cs) :: linesFrom [] false rest := by
  induction cs generalizing current started with
  | nil => simp [linesFrom]
  | cons c cs ih =>
    rw [List.mem_cons, not_or] at hfeed hreturn
    rw [List.cons_append, linesFrom_cons (Ne.symm hfeed.1) (Ne.symm hreturn.1),
      ih hfeed.2 hreturn.2]
    simp

/-- Lines that are joined come apart again. -/
theorem lines_joined {lines : List String} (h : ∀ line ∈ lines, IsLine line) :
    Text.lines (joined lines) = lines := by
  rw [Text.lines, toList_joined]
  induction lines with
  | nil => rfl
  | cons line rest ih =>
    obtain ⟨hfeed, hreturn⟩ := h line List.mem_cons_self
    rw [List.flatMap_cons, List.append_assoc, List.singleton_append,
      linesFrom_append hfeed hreturn, List.map_cons,
      ih fun l hl => h l (List.mem_cons_of_mem line hl)]
    simp

end Text

namespace CommandLine

open Session

variable {settings : Settings} {uri : Option String} {d after : Disk} {connection : Connection}
  {o : Disk.OpenStore} {a : Access} {input source text : String} {lines : List String}

/-! ### Stores and texts that a command gets -/

/-- A command opens a store, whose tables exist once it has been initialized. -/
structure Opens (settings : Settings) (uri : Option String) (d : Disk) (connection : Connection)
    (o : Disk.OpenStore) (a : Access) : Prop where
  connect : settings.connect uri none = .ok connection
  openStore : d.openStore connection.location = .ok o
  initialized : o.access.initialized = .ok a

/-- The files with the store as it is seen through an access. -/
def Disk.OpenStore.filesWith (o : Disk.OpenStore) (a : Access) : Disk := o.saved (updated o.file a)

/-- A text gets to `apply`: on its standard input, or in a file that exists before the store is
opened and is looked into afterwards. -/
inductive Feeds (d after : Disk) : String → String → String → Prop
  | standardInput (text : String) : Feeds d after text "-" text
  | file {input source text : String} (hsource : source ≠ "-") (hfound : (d.file? source).isSome)
      (htext : (after.file? source).bind (·.text?) = some text) : Feeds d after input source text

theorem runLines_of_opens (hopens : Opens settings uri d connection o a)
    {text? : Disk → Option String} (htext : text? (o.filesWith a) = some text)
    (run : List String → Access → Transcript) (exitCode : Transcript → Nat) :
    runLines settings uri d text? run exitCode =
      let t := run (Text.lines text) a
      ⟨exitCode t, t.output, .catalogReady connection.address.text :: t.notes, none,
        o.filesWith t.access⟩ := by
  rw [Disk.OpenStore.filesWith] at htext
  rw [runLines, hopens.connect, withStore, hopens.openStore]
  simp only [hopens.initialized, htext, Disk.OpenStore.filesWith]

theorem runApply_of_opens (hopens : Opens settings uri d connection o a)
    (hfed : Feeds d (o.filesWith a) input source text) :
    runApply settings uri d input source =
      let t := ({} : Session).applyLines a (Text.lines text)
      ⟨if t.failures = 0 then 0 else 1, t.output, .catalogReady connection.address.text :: t.notes,
        none, o.filesWith t.access⟩ := by
  cases hfed with
  | standardInput =>
    rw [runApply, if_pos rfl]
    exact runLines_of_opens hopens rfl _ _
  | file hsource hfound htext =>
    rw [runApply, if_neg hsource, if_neg (by simpa [Option.isSome_iff_ne_none] using hfound)]
    exact runLines_of_opens hopens htext _ _

theorem runShell_of_opens (hopens : Opens settings uri d connection o a) (text : String) :
    runShell settings uri d text =
      let t := ({} : Session).shellLines a (Text.lines text)
      ⟨0, t.output, .catalogReady connection.address.text :: t.notes, none,
        o.filesWith t.access⟩ :=
  runLines_of_opens hopens rfl _ _

/-! ### Failed lines -/

/-- The exit code tells whether a line fails. -/
theorem exitCode_runApply_eq_one_iff (hopens : Opens settings uri d connection o a)
    (hfed : Feeds d (o.filesWith a) input source text) :
    (runApply settings uri d input source).exitCode = 1 ↔
      ∃ before line after, Text.lines text = before ++ line :: after ∧
        Text.isBlankText line = false ∧
        (({} : Session).applyLines a before).session.Fails
          (({} : Session).applyLines a before).access line := by
  rw [runApply_of_opens hopens hfed, ← failures_ne_zero_iff]
  dsimp only
  split_ifs with h <;> simp [h]

/-- **Failed lines are erasable.** Given the same lines, without breaks inside of them, `apply` and
`shell` leave the same store. It is also the one that they leave when only those lines are given
that are not blank and succeed; then every line succeeds again, and `apply` prints the same. The
exit code of `apply` is 1 if and only if a line that is not blank fails in the place where the lines
before it end. -/
theorem failed_lines_erasable {input' source' : String}
    (hopens : Opens settings uri d connection o a) (hlines : ∀ line ∈ lines, Text.IsLine line)
    (hfed : Feeds d (o.filesWith a) input source (Text.joined lines))
    (hfed' : Feeds d (o.filesWith a) input' source'
      (Text.joined (({} : Session).succeedingLines a lines))) :
    let x : Session := {}
    let kept := x.succeedingLines a lines
    let t := x.applyLines a lines
    let applied := runApply settings uri d input source
    let typed := runShell settings uri d (Text.joined lines)
    let appliedKept := runApply settings uri d input' source'
    let typedKept := runShell settings uri d (Text.joined kept)
    -- one store is left
    ((x.shellLines a lines).EndsLike t ∧ (x.applyLines a kept).EndsLike t ∧
        (x.shellLines a kept).EndsLike t) ∧
      (applied.disk = o.filesWith t.access ∧ typed.disk = o.filesWith t.access ∧
        appliedKept.disk = o.filesWith t.access ∧ typedKept.disk = o.filesWith t.access) ∧
      -- no line is erased but those that are blank or fail
      (kept.Sublist (lines.filter (!Text.isBlankText ·)) ∧
        kept.length + t.failures = (lines.filter (!Text.isBlankText ·)).length) ∧
      -- the other ones succeed again
      (x.succeedingLines a kept = kept ∧ appliedKept.exitCode = 0 ∧
        appliedKept.output = applied.output) ∧
      (applied.exitCode = 1 ↔ ∃ before line after, lines = before ++ line :: after ∧
        Text.isBlankText line = false ∧
        (x.applyLines a before).session.Fails (x.applyLines a before).access line) := by
  intro x kept t applied typed appliedKept typedKept
  have hsublist : kept.Sublist (lines.filter (!Text.isBlankText ·)) :=
    x.succeedingLines_sublist a lines
  have hkept : ∀ line ∈ kept, Text.IsLine line := fun line h =>
    hlines line (List.mem_of_mem_filter (hsublist.subset h))
  obtain ⟨houtput, hfailures, happlyKept⟩ := applyLines_succeedingLines x a lines
  have hshell : (x.shellLines a lines).EndsLike t := shellLines_endsLike x a lines
  have hshellKept : (x.shellLines a kept).EndsLike t :=
    (shellLines_endsLike x a kept).trans happlyKept
  have hexit := exitCode_runApply_eq_one_iff hopens hfed
  have happlied := runApply_of_opens hopens hfed
  have happliedKept := runApply_of_opens hopens hfed'
  have htyped := runShell_of_opens hopens (Text.joined lines)
  have htypedKept := runShell_of_opens hopens (Text.joined kept)
  rw [Text.lines_joined hlines] at hexit happlied htyped
  rw [Text.lines_joined hkept] at happliedKept htypedKept
  refine ⟨⟨hshell, happlyKept, hshellKept⟩, ⟨congrArg Result.disk happlied, ?_, ?_, ?_⟩,
    ⟨hsublist, length_succeedingLines x a lines⟩,
    ⟨succeedingLines_succeedingLines x a lines, ?_, ?_⟩, hexit⟩
  · exact (congrArg Result.disk htyped).trans (congrArg o.filesWith hshell.access)
  · exact (congrArg Result.disk happliedKept).trans (congrArg o.filesWith happlyKept.access)
  · exact (congrArg Result.disk htypedKept).trans (congrArg o.filesWith hshellKept.access)
  · exact (congrArg Result.exitCode happliedKept).trans (if_pos hfailures)
  · exact (congrArg Result.output happliedKept).trans
      (houtput.trans (congrArg Result.output happlied).symm)

/-- Of the lines in a file, the third one is no statement, and the fourth one creates a database
whose name is taken. -/
theorem failed_lines_erasable_taken :
    let create := "\x7b\"kind\": \"create_database\", \"name\": \"shop\"\x7d"
    let lines := [create, "", "\x7b", create, "\x7b\"kind\": \"show_tables\"\x7d"]
    let settings : Settings := ⟨"sqlite:///shop.db", false⟩
    let d : Disk := ⟨"/", "/", ["/"], [("/shop.jsonl", .text (Text.joined lines))]⟩
    let o : Disk.OpenStore := ⟨"/shop.db", .fresh, false, d.put "/shop.db" (.store .fresh)⟩
    let kept := ({} : Session).succeedingLines (.ready .empty) lines
    let applied := runApply settings none d "" "shop.jsonl"
    let appliedKept := runApply settings none d (Text.joined kept) "-"
    (∃ connection, Opens settings none d connection o (.ready .empty)) ∧
      (∀ line ∈ lines, Text.IsLine line) ∧
      Feeds d (o.filesWith (.ready .empty)) "" "shop.jsonl" (Text.joined lines) ∧
      appliedKept.disk = applied.disk ∧ appliedKept.output = applied.output ∧
      appliedKept.exitCode = 0 ∧ applied.exitCode = 1 := by
  intro create lines settings d o kept applied appliedKept
  have hconnect : settings.connect none none = .ok ⟨⟨"sqlite", none, none, none, none,
      some "shop.db", []⟩, .file "shop.db" {}, .flag false⟩ := by decide +kernel
  have hopen : d.openStore (.file "shop.db" {}) = .ok o := by
    have hparts : d.storeParts? "shop.db" = some ["shop.db"] := by decide +kernel
    simp only [Disk.openStore, Disk.openFile, hparts]
    rfl
  have hopens : Opens settings none d _ o (.ready .empty) := ⟨hconnect, hopen, rfl⟩
  have hlines : ∀ line ∈ lines, Text.IsLine line := by decide +kernel
  have hfed : Feeds d (o.filesWith (.ready .empty)) "" "shop.jsonl" (Text.joined lines) :=
    .file (by decide) (by decide +kernel) (by decide +kernel)
  have hread : Statement.read "\x7b" = .error .notJson := rfl
  obtain ⟨-, ⟨happlied, -, hkept, -⟩, -, ⟨-, hexitKept, houtput⟩, hexit⟩ :=
    failed_lines_erasable hopens hlines hfed (.standardInput (Text.joined kept))
  exact ⟨⟨_, hopens⟩, hlines, hfed, hkept.trans happlied.symm, houtput, hexitKept,
    hexit.mpr ⟨[create, ""], "\x7b", _, rfl, by decide, .notAStatement hread⟩⟩

end CommandLine

end SchemaCatalog
