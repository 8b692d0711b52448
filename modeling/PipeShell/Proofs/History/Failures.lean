import PipeShell.Proofs.History.Saved
import PipeShell.Proofs.Shell.Control
import PipeShell.Session

/-!
# Operations that fail

A file cannot be opened, what it holds is no text, or it takes only a part of what is written. Then
the history stays what it was, its entries and its generation as well as the mark for what is in a
file. Nothing that is done later can tell that the operation was tried, apart from what has become
of the files. The builtin command says in one line what went wrong.
-/

namespace PipeShell

def failureOf {α : Type} : Except OsError α → Option OsError
  | .error e => some e
  | .ok _ => none

theorem failureOf_eq_some {α : Type} {r : Except OsError α} {e : OsError} :
    failureOf r = some e ↔ r = .error e := by
  cases r <;> simp [failureOf]

namespace History

def Archive.failure? (a : Archive) : Operation → Option OsError
  | .readFrom path => failureOf (a.history.readFrom a.files path).1
  | .writeTo path => failureOf (a.history.writeTo a.files path).1
  | .appendTo path => failureOf (a.history.appendTo a.files path).1
  | .load => a.history.file.bind fun file => failureOf (a.history.readFrom a.files file).1
  | .save => a.history.file.bind fun file =>
      failureOf (a.history.writeTo (prepareDirectory a.files file).1 file).1
  | _ => none

theorem linesAt_of_error {h : History} {files : Files} {path : String} {e : OsError}
    (hr : (h.readFrom files path).1 = .error e) : linesAt files path = [] := by
  cases ht : files.readText path with
  | error cause => simp only [linesAt, ht]
  | ok text => simp [readFrom, ht] at hr

theorem Archive.idle_of_failure {a : Archive} {op : Operation} {e : OsError}
    (hf : a.failure? op = some e) : op ≠ .clear ∧ a.offers op = [] ∧ a.settles op = false := by
  cases op with
  | add line => cases hf
  | clear => cases hf
  | disturb files => cases hf
  | readFrom path =>
    rw [failure?, failureOf_eq_some] at hf
    exact ⟨by simp, linesAt_of_error hf, rfl⟩
  | writeTo path =>
    rw [failure?, failureOf_eq_some] at hf
    exact ⟨by simp, rfl, by simp [settles, hf, Except.isOk, Except.toBool]⟩
  | appendTo path =>
    rw [failure?, failureOf_eq_some] at hf
    exact ⟨by simp, rfl, by simp [settles, hf, Except.isOk, Except.toBool]⟩
  | load =>
    obtain ⟨file, hfile, hread⟩ := Option.bind_eq_some_iff.1 hf
    rw [failureOf_eq_some] at hread
    refine ⟨by simp, ?_, ?_⟩
    · simp only [offers, hfile, Option.map_some, Option.getD_some]
      exact linesAt_of_error hread
    · simp [settles, hfile, hread, Except.isOk, Except.toBool]
  | save =>
    obtain ⟨file, hfile, hwrite⟩ := Option.bind_eq_some_iff.1 hf
    rw [failureOf_eq_some] at hwrite
    exact ⟨by simp, rfl, by simp [settles, hfile, hwrite, Except.isOk, Except.toBool]⟩

theorem Archive.history_of_failure {a : Archive} {op : Operation} {e : OsError}
    (hf : a.failure? op = some e) : (a.after op).history = a.history := by
  obtain ⟨hclear, hoffers, hsettles⟩ := idle_of_failure hf
  rw [history_after, if_neg hclear, hsettles, hoffers]
  rfl

namespace Account

theorem after_disturb (a : Account) (g : Files) :
    a.after (.disturb g) = { a with files := g } := by
  simp [after, Archive.after, Archive.admits, Archive.offers, Archive.settles, History.admitted]

theorem after_of_failure {a : Account} {op : Operation} {e : OsError}
    (hf : a.failure? op = some e) : a.after op = { a with files := (a.after op).files } := by
  obtain ⟨hclear, hoffers, hsettles⟩ := Archive.idle_of_failure hf
  have hhistory := Archive.history_of_failure hf
  have hadmits : a.admits op = [] := by rw [Archive.admits, hoffers, History.admitted]
  simp only [after, hadmits, hoffers, hsettles, if_neg hclear, List.append_nil, Bool.false_eq_true,
    if_false, ← hhistory]

/-- Once the files are given, it makes no difference whether an operation was tried and failed. -/
theorem run_of_failure {a : Account} {op : Operation} {e : OsError} (hf : a.failure? op = some e)
    (g : Files) (more : List Operation) :
    a.run (op :: .disturb g :: more) = a.run (.disturb g :: more) := by
  have htwice : (a.after op).after (.disturb g) = a.after (.disturb g) := by
    rw [after_disturb, after_disturb, after_of_failure hf]
  simp only [run, List.foldl_cons, htwice]

end Account

def Operation.words? : Operation → Option (String × String)
  | .readFrom path => some ("-r", path)
  | .writeTo path => some ("-w", path)
  | .appendTo path => some ("-a", path)
  | _ => none

end History

theorem Builtin.withHistoryFile_of_error {action : String → Shell → Except OsError Unit × Shell}
    {path : String} {e : OsError} {s t : Shell} (ha : action path s = (.error e, t))
    (verb : String) :
    withHistoryFile verb (some path) action s =
      goOn (t.printLine .stderr s!"history: {path}: {e.message}") := by
  simp only [withHistoryFile, ha]

namespace History

/-- The builtin command for an operation that fails writes a line to the stream for errors, and does
nothing else to the shell. -/
theorem runHistory_of_failure {s : Shell} {op : Operation} {e : OsError} {option path : String}
    (hf : (Archive.mk s.history s.host.files).failure? op = some e)
    (hw : op.words? = some (option, path)) (rest : List String) :
    Builtin.history.run (option :: path :: rest) s =
      goOn ({ s with host := { s.host with
          files := (Archive.after ⟨s.history, s.host.files⟩ op).files } }.printLine .stderr
        s!"history: {path}: {e.message}") := by
  have hhistory := Archive.history_of_failure hf
  cases op with
  | readFrom file =>
    cases hw
    rw [Archive.failure?, failureOf_eq_some] at hf
    simp only [Archive.after] at hhistory hf ⊢
    refine Builtin.withHistoryFile_of_error ?_ "read"
    simp only [Builtin.readHistory, hf, hhistory, Except.map]
  | writeTo file =>
    cases hw
    rw [Archive.failure?, failureOf_eq_some] at hf
    simp only [Archive.after] at hhistory hf ⊢
    refine Builtin.withHistoryFile_of_error ?_ "write"
    simp only [Builtin.writeHistory, hf, hhistory]
  | appendTo file =>
    cases hw
    rw [Archive.failure?, failureOf_eq_some] at hf
    simp only [Archive.after] at hhistory hf ⊢
    refine Builtin.withHistoryFile_of_error ?_ "append"
    simp only [Builtin.appendHistory, hf, hhistory, Except.map]
  | add line => cases hw
  | clear => cases hw
  | load => cases hw
  | save => cases hw
  | disturb files => cases hw

/-- An operation on a file that fails leaves the history as it was after any run. If the files are
then the same, everything that follows is as if the operation had not been tried, and a regular file
to which the history is appended later gets the lines that it would have got. The builtin command
writes one line to the stream for errors, which names the file and the cause, and the shell goes
on. -/
theorem failed_operation_leaves_history (limit : Nat) (file : Option String) (files : Files)
    (ops : List Operation) (op : Operation) (e : OsError)
    (hf : ((Account.start limit file files).run ops).failure? op = some e) :
    let start := Account.start limit file files
    let a := start.run ops
    (a.after op).history = a.history ∧
    (∀ g more,
      start.run (ops ++ op :: .disturb g :: more) = start.run (ops ++ .disturb g :: more)) ∧
    (∀ g more good old,
      let later := start.run (ops ++ op :: .disturb g :: more)
      let clean := start.run (ops ++ .disturb g :: more)
      clean.files.content? good = some old →
      (later.history.appendTo later.files good).1.isOk = true →
      (later.history.appendTo later.files good).2.2.Holds good
        (old ++ written clean.history.fresh)) ∧
    ∀ (b : Behaviour) (s : Shell) (option path : String) (rest : List String),
      s.history = a.history → s.host.files = a.files → op.words? = some (option, path) →
      let told := { s.host with files := (a.after op).files }.write s.streams.err
        (Text.encode (s!"history: {path}: {e.message}" ++ "\n"))
      Builtin.history.run (option :: path :: rest) s =
          (told.1.map fun _ => true, { s with host := told.2 }) ∧
        ∀ c : Command, c.program = Builtin.history.name → (s.execute b (.command c)).1 = true := by
  intro start a
  have hlater : ∀ g more,
      start.run (ops ++ op :: .disturb g :: more) = start.run (ops ++ .disturb g :: more) := by
    intro g more
    have hrun := Account.run_of_failure hf g more
    simp only [Account.run, List.foldl_append] at hrun ⊢
    exact hrun
  refine ⟨Archive.history_of_failure hf, hlater, ?_, ?_⟩
  · intro g more good old later clean hc hok
    have hsame : later = clean := hlater g more
    rw [hsame] at hok ⊢
    exact (appendTo_of_isOk hc hok).2.2
  · intro b s option path rest hhistory hfiles hw told
    have harchive : Archive.mk s.history s.host.files = a.toArchive := by rw [hhistory, hfiles]
    have hrun := runHistory_of_failure (harchive ▸ hf) hw rest
    rw [harchive, Shell.printLine_eq] at hrun
    refine ⟨hrun, ?_⟩
    intro c hc
    apply (Shell.single_of_not_exit b _).1
    rintro ⟨hexit, -⟩
    rw [hc] at hexit
    revert hexit
    decide

/-- The device has room for the first line and a part of the second. The file that is appended to
afterwards gets both lines, and the one that was added in between. -/
theorem failed_operation_leaves_history_midline :
    let tree : Files := ⟨#[.dir 0 [("d", 1)] false 0o755, .device (some 3)], 0⟩
    let start := Account.start 5 none tree
    let ops : List Operation := [.add "a", .add "bc"]
    let a := start.run ops
    let later := start.run (ops ++ .appendTo "/d" :: .disturb tree :: [.add "x"])
    let s : Shell := { Session.start (Settings.ofEnvironment []) false { files := tree } with
      history := a.history }
    a.failure? (.appendTo "/d") = some .noSpace ∧
      (a.after (.appendTo "/d")).history = a.history ∧
      (later.history.appendTo later.files "/g").2.2.Holds "/g" (written ["a", "bc", "x"]) ∧
      (Builtin.history.run ["-a", "/d"] s).1 = .ok true ∧
      (Builtin.history.run ["-a", "/d"] s).2.host.terminalErr =
        Text.encode "history: /d: No space left on device (os error 28)\n" := by
  intro tree start ops a later s
  have hf : a.failure? (.appendTo "/d") = some .noSpace := by decide +kernel
  obtain ⟨hkept, -, hgood, hshell⟩ :=
    failed_operation_leaves_history 5 none tree ops (.appendTo "/d") .noSpace hf
  have hlines : (later.history.appendTo later.files "/g").2.2.Holds "/g"
      ([] ++ written (start.run (ops ++ .disturb tree :: [.add "x"])).history.fresh) :=
    hgood tree [.add "x"] "/g" [] (by decide +kernel) (by decide +kernel)
  have hfresh : (start.run (ops ++ .disturb tree :: [.add "x"])).history.fresh =
      ["a", "bc", "x"] := by
    decide +kernel
  rw [hfresh, List.nil_append] at hlines
  obtain ⟨hrun, -⟩ := hshell (fun _ h => (.exited 0, h)) s "-a" "/d" [] rfl rfl rfl
  refine ⟨hf, hkept, hlines, ?_, ?_⟩
  · rw [hrun]
    rfl
  · rw [hrun]
    decide +kernel

end History

end PipeShell
