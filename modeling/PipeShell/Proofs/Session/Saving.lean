import PipeShell.Proofs.History.Saved
import PipeShell.Proofs.Shell.Readings
import PipeShell.Session

/-!
# What a session leaves in its history file

A session that ends with its input or with a line that stops it saves its history. After a reading
that failed, or when output could not be written out before one, it does not: the history file is
then what it was when the loop ended, and the lines of the session are lost. All this is said of any
readings, those of a terminal that can be interrupted included.
-/

namespace PipeShell

namespace Shell

theorem jobClosed_sameSettings (b : Behaviour) :
    JobClosed b fun s t => s.history.SameSettings t.history where
  refl _ := ⟨rfl, rfl⟩
  trans h k := ⟨k.1.trans h.1, k.2.trans h.2⟩
  note _ _ := ⟨rfl, rfl⟩
  print _ _ _ := ⟨rfl, rfl⟩
  find _ _ := ⟨rfl, rfl⟩
  files _ _ := ⟨rfl, rfl⟩
  history _ _ h := h
  openTargets _ _ := ⟨rfl, rfl⟩
  newBuffer _ := ⟨rfl, rfl⟩
  take _ _ := ⟨rfl, rfl⟩
  runSingle _ _ _ := ⟨rfl, rfl⟩
  runPipeline _ _ _ := ⟨rfl, rfl⟩
  exitCode _ _ := ⟨rfl, rfl⟩
  within _ := id

theorem history_sync (s : Shell) (e : Editor) : (s.sync e).2.history = s.history := by
  unfold sync
  split_ifs <;> rfl

section Attends

variable {b : Behaviour} {e : Editor} {s t u : Shell} {readings : List Reading}
  {result : Except Fault Nat}

def Reading.fault? : Reading → Option Fault
  | .failed fault | .unprepared fault => some fault
  | .line _ | .ended | .interrupted => none

theorem Reading.fault?_eq_some {reading : Reading} {fault : Fault} :
    reading.fault? = some fault ↔ reading = .failed fault ∨ reading = .unprepared fault := by
  cases reading <;> simp [fault?]

theorem fault?_of_respond {reading : Reading} {turn : Turn}
    (hr : t.respond b reading = (turn, u)) (fault : Fault) :
    turn = .failed fault ↔ reading.fault? = some fault := by
  obtain rfl : (t.respond b reading).1 = turn := congrArg Prod.fst hr
  cases reading with
  | line text => rcases hh : t.handle b text with ⟨_ | _, u⟩ <;> simp [respond, hh, Reading.fault?]
  | ended => simp [respond, Reading.fault?]
  | interrupted => simp [respond, Reading.fault?]
  | failed cause => cases cause <;> simp [respond, Reading.fault?]
  | unprepared cause => simp [respond, Reading.fault?]

theorem Attends.error_iff (ha : Attends b e s readings result t) (fault : Fault) :
    result = .error fault ↔ ∃ reading ∈ readings, reading.fault? = some fault := by
  induction ha with
  | stop _ hr => simp [← fault?_of_respond hr fault]
  | failed _ hr => simp [← fault?_of_respond hr fault]
  | again _ _ hr _ ih => simp [ih, ← fault?_of_respond hr fault]

theorem sameSettings_respond (b : Behaviour) (reading : Reading) (s : Shell) :
    s.history.SameSettings (s.respond b reading).2.history := by
  cases reading with
  | line text =>
    rw [respond_line_host]
    exact (jobClosed_sameSettings b).handle text s
  | ended => exact ⟨rfl, rfl⟩
  | interrupted => exact ⟨rfl, rfl⟩
  | failed cause => cases cause <;> exact ⟨rfl, rfl⟩
  | unprepared cause => exact ⟨rfl, rfl⟩

theorem Obtains.history {reading : Reading} (ho : s.Obtains e reading t) :
    t.history = s.history := by
  obtain ⟨input, shown, blocked, rfl⟩ := ho.rest
  exact history_sync _ e

theorem Attends.sameSettings (ha : Attends b e s readings result t) :
    s.history.SameSettings t.history := by
  have hstep {e : Editor} {s t u : Shell} {reading : Reading} {turn : Turn}
      (ho : s.Obtains e reading t) (hr : t.respond b reading = (turn, u)) :
      s.history.SameSettings u.history := by
    have hs := sameSettings_respond b reading t
    rwa [hr, ho.history] at hs
  induction ha with
  | stop ho hr => exact hstep ho hr
  | failed ho hr => exact hstep ho hr
  | again _ ho hr _ ih => exact (jobClosed_sameSettings b).trans (hstep ho hr) ih

end Attends

end Shell

end PipeShell

namespace PipeShell.Session

def ready (s : Shell) : Shell :=
  (loadHistory (s.note (Log.debug "初始化 ripple..."))).note (Log.debug "ripple 准备就绪...")

def finish : Except Fault Nat × Shell → Except Fault Nat × Shell
  | (.error e, s) => (.error e, s)
  | (.ok code, s) => (.ok code, (saveHistory s).note (Log.debug s!"退出 ripple, 退出码 {code}"))

theorem serve_eq (b : Behaviour) (s : Shell) :
    serve b s = finish ((ready s).loop b (.new (ready s).host.environment)) := by
  unfold serve
  simp only [ready]
  split
  · next h => rw [h, finish]
  · next h => rw [h, finish]

theorem sameSettings_ready (s : Shell) : s.history.SameSettings (ready s).history :=
  History.Archive.sameSettings_after
    ⟨s.history, (s.note (Log.debug "初始化 ripple...")).host.files⟩ .load

/-- The history can be saved in a file. Once its directory is there, the path leads to a regular
file or to none yet, it can be opened for writing, and it is not the log. -/
def writable (s : Shell) (path : String) : Bool :=
  let files := (History.prepareDirectory s.host.files path).1
  match files.content? path, files.openForWriting path false with
  | some _, .ok opened => s.host.logFile.all fun log => opened.1 != log.node
  | _, _ => false

variable {s : Shell} {path : String}

theorem exists_of_writable (h : writable s path = true) :
    ∃ content opened,
      (History.prepareDirectory s.host.files path).1.content? path = some content ∧
      (History.prepareDirectory s.host.files path).1.openForWriting path false = .ok opened ∧
      ∀ log, s.host.logFile = some log → opened.1 ≠ log.node := by
  unfold writable at h
  simp only at h
  split at h
  · next content opened hc ho =>
    refine ⟨content, opened, hc, ho, ?_⟩
    intro log hl
    simpa [hl] using h
  · cases h

theorem fileAt_of_logged {log : Option LogFile} {f g : Files} (hg : Host.Logged log f g) {i : Inode}
    {content : Bytes} (hf : f.FileAt path i content) (hne : ∀ l, log = some l → i ≠ l.node) :
    g.FileAt path i content := by
  induction hg with
  | same f => exact hf
  | line hl text _ ih => exact ih (hf.writeAt_of_ne (hne _ hl) none text)

theorem holds_finish (hfile : s.history.file = some path) (hw : writable s path = true)
    (code : Nat) :
    (finish (.ok code, s)).2.host.files.Holds path (History.written s.history.entries) := by
  obtain ⟨content, opened, hc, ho, hlog⟩ := exists_of_writable hw
  obtain ⟨-, -, hsaved⟩ := History.fileAt_writeTo s.history ho hc
  rw [← History.files_save hfile] at hsaved
  -- what is told to the log after that is not written to the file
  have hn : Host.Noted { s.host with files := (s.history.save s.host.files).2.1 }
      (finish (.ok code, s)).2.host :=
    (Host.noted_noteAll _ (s.history.save s.host.files).2.2).trans (Host.noted_note _ _)
  exact (fileAt_of_logged hn.files hsaved hlog).holds

/-- A session that has a file for its history saves it when the loop is over, unless a reading
failed or the shell could not be prepared for one: then nothing more happens at all. The loop over
the terminal makes such readings. -/
theorem saves_unless_loop_fails (b : Behaviour) (s : Shell) (path : String)
    (hfile : s.history.file = some path) :
    (∀ readings result t,
      Shell.Attends b (.new (ready s).host.environment) (ready s) readings result t →
        (∀ fault, .failed fault ∈ readings ∨ .unprepared fault ∈ readings →
          finish (result, t) = (.error fault, t)) ∧
        ((∀ fault, .failed fault ∉ readings ∧ .unprepared fault ∉ readings) →
          writable t path = true →
          (finish (result, t)).2.host.files.Holds path (History.written t.history.entries))) ∧
    (b.Consumes → ∃ readings result t,
      Shell.Attends b (.new (ready s).host.environment) (ready s) readings result t ∧
        serve b s = finish (result, t)) := by
  constructor
  · intro readings result t ha
    have hkept : t.history.file = some path :=
      (ha.sameSettings.2.trans (sameSettings_ready s).2).trans hfile
    have herror := fun fault => ha.error_iff fault
    constructor
    · intro fault hf
      have hresult : result = .error fault := by
        refine (herror fault).2 ?_
        rcases hf with hf | hf
        · exact ⟨_, hf, rfl⟩
        · exact ⟨_, hf, rfl⟩
      rw [hresult, finish]
    · intro hf hw
      cases result with
      | error fault =>
        obtain ⟨reading, hm, hfault⟩ := (herror fault).1 rfl
        rcases Shell.Reading.fault?_eq_some.1 hfault with rfl | rfl
        · exact absurd hm (hf fault).1
        · exact absurd hm (hf fault).2
      | ok code => exact holds_finish hkept hw code
  · intro hb
    obtain ⟨readings, ha⟩ := Shell.attends_loop hb (.new (ready s).host.environment) (ready s)
    exact ⟨readings, _, _, ha, serve_eq b s⟩

/-- After an interruption, a line and the end of the input the line is in the file. If the terminal
does not take what was begun, nothing is done. Input that is empty from the start makes a session as
well. -/
theorem saves_unless_loop_fails_echo :
    let b : Behaviour := fun _ h => (.exited 0, h)
    let settings := Settings.ofEnvironment [("RIPPLE_HISTORY", "/hist")]
    let s := start settings false { files := Files.empty }
    let blocked := start settings false
      { files := Files.empty, blockedOut := some ⟨.noSpace, Text.encode "hi"⟩ }
    (∃ t, Shell.Attends b (.new (ready s).host.environment) (ready s)
        [.interrupted, .line "echo ok", .ended] (.ok 0) t ∧
      (finish (.ok 0, t)).2.host.files.Holds "/hist" (History.written ["echo ok"])) ∧
    (∃ t, Shell.Attends b (.new (ready blocked).host.environment) (ready blocked)
        [.unprepared (.output .noSpace)] (.error (.output .noSpace)) t ∧
      finish (.error (.output .noSpace), t) = (.error (.output .noSpace), t)) ∧
    ∃ readings result t,
      Shell.Attends b (.new (ready s).host.environment) (ready s) readings result t ∧
        serve b s = finish (result, t) := by
  intro b settings s blocked
  have h := saves_unless_loop_fails b s "/hist" (by decide +kernel)
  have hblocked := saves_unless_loop_fails b blocked "/hist" (by decide +kernel)
  obtain ⟨t, hend, hw, hentries⟩ : ∃ t,
      Shell.Attends b (.new (ready s).host.environment) (ready s)
        [.interrupted, .line "echo ok", .ended] (.ok 0) t ∧
      writable t "/hist" = true ∧ t.history.entries = ["echo ok"] := by
    refine ⟨_, .of_answered_again (by decide +kernel) (by simp) (by decide +kernel)
      (.of_answered_again (by decide +kernel) (by simp) (by decide +kernel)
        (.of_answered_stop (by decide +kernel) (by simp) (by decide +kernel))), ?_, ?_⟩
    · decide +kernel
    · decide +kernel
  obtain ⟨t', hrefused⟩ : ∃ t', Shell.Attends b (.new (ready blocked).host.environment)
      (ready blocked) [.unprepared (.output .noSpace)] (.error (.output .noSpace)) t' := by
    have hp : ((ready blocked).prepare (.new (ready blocked).host.environment)).1 =
        .error (.output .noSpace) := by decide +kernel
    refine ⟨_, .failed ⟨?_, [], [], none, rfl⟩ rfl⟩
    intro fault
    rw [hp]
    simp
  have hsaved := (h.1 _ _ _ hend).2 (by simp) hw
  rw [hentries] at hsaved
  exact ⟨⟨t, hend, hsaved⟩, ⟨t', hrefused, (hblocked.1 _ _ _ hrefused).1 _ (by simp)⟩,
    h.2 fun _ _ => Nat.le_refl _⟩

/-- After a line and one that is not text the line is in the history but not in the file, although
the file could be written. -/
theorem not_saved_after_invalid_text :
    let b : Behaviour := fun _ h => (.exited 0, h)
    let s := start (Settings.ofEnvironment [("RIPPLE_HISTORY", "/hist")]) false
      { files := Files.empty, terminalIn := Text.encode "echo ok\n" ++ [0xFF] }
    let ended := (ready s).loop b (.new (ready s).host.environment)
    writable ended.2 "/hist" = true ∧ ended.2.history.entries = ["echo ok"] ∧
      ¬ (serve b s).2.host.files.Holds "/hist" (History.written ended.2.history.entries) := by
  intro b s ended
  refine ⟨by decide +kernel, by decide +kernel, ?_⟩
  intro hh
  exact absurd hh.content? (by decide +kernel)

end PipeShell.Session
