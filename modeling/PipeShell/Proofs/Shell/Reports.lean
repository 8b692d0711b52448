import PipeShell.Proofs.Host.Follow
import PipeShell.Proofs.Shell.Stages
import PipeShell.Session

/-!
# Reports

A failure is reported by one line on the sink for errors. All programs of a pipeline are found
before anything of it is opened or started, so that a missing program leaves nothing but its report
behind, whatever the other stages would have done.

The log and the memory of searches are apart from this: they change with every step.
-/

namespace PipeShell

theorem Failure.line_notFound (program : String) :
    (Failure.notFound program).line = Text.encode (program ++ ": command not found\n") := by
  have hend : program ++ ": command not found" ++ "\n" = program ++ ": command not found\n" := by
    simp [← String.toList_inj]
  exact congrArg Text.encode hend

namespace Host

/-- The log may have grown and other searches may be remembered. Everything else is the same. -/
def Unmoved (h k : Host) : Prop :=
  ∃ files cache echoed, Logged h.logFile h.files files ∧ Echo h echoed ∧
    k = { h with files := files, cache := cache, terminalErr := h.terminalErr ++ echoed }

namespace Unmoved

theorem refl (h : Host) : Unmoved h h :=
  ⟨h.files, h.cache, [], .same _, Echo.nil h, by rw [List.append_nil]⟩

theorem trans {h k l : Host} (hk : Unmoved h k) (hl : Unmoved k l) : Unmoved h l := by
  obtain ⟨files, cache, echoed, hg, he, rfl⟩ := hk
  obtain ⟨files', cache', echoed', hg', he', rfl⟩ := hl
  exact ⟨files', cache', echoed ++ echoed', hg.trans hg', he.append he',
    by rw [List.append_assoc]⟩

theorem noted {h k : Host} (hk : Unmoved h k) : Noted h k := by
  obtain ⟨files, cache, echoed, hg, he, rfl⟩ := hk
  exact ⟨hg, ⟨echoed, he, rfl⟩, rfl, rfl, rfl, rfl, rfl, rfl, rfl, rfl, rfl, rfl, rfl⟩

theorem alike {h k : Host} (hk : Unmoved h k) :
    h.files.Alike (h.logFile.map LogFile.node) k.files :=
  Mirrors.alike_logged (.refl _ _) rfl hk.noted.files

theorem isExecutable {h k : Host} (hk : Unmoved h k) (path : String) :
    k.files.isExecutable path = h.files.isExecutable path :=
  Files.isExecutable_eq hk.alike.grown path

end Unmoved

theorem unmoved_note (h : Host) (e : Log.Entry) : Unmoved h (h.note e) := by
  obtain ⟨files, echoed, hg, he, hn⟩ := note_eq h e
  exact ⟨files, h.cache, echoed, hg, he, hn⟩

theorem unmoved_noteAll (h : Host) (es : List Log.Entry) : Unmoved h (h.noteAll es) := by
  induction es generalizing h with
  | nil => exact .refl h
  | cons e es ih => exact (unmoved_note h e).trans (ih (h.note e))

theorem unmoved_findProgram (h : Host) (name : String) : Unmoved h (h.findProgram name).2 := by
  obtain ⟨files, cache, echoed, hg, he, hn⟩ := unmoved_noteAll
    { h with cache := (h.cache.lookup h.files h.environment.searchPath name).2 }
    ((h.cache.events h.files h.environment.searchPath name).map searchEntry)
  exact ⟨files, cache, echoed, hg, he, hn⟩

theorem recalls_note (h : Host) (e : Log.Entry) : Recalls h (h.note e) :=
  ⟨(noted_note h e).environment, fun name => by rw [cache_note]⟩

def nodeBehind (h : Host) : Sink → Option Inode
  | .file handle => h.opened[handle]?.map OpenFile.node
  | _ => none

/-- One sink is written to, once, and nothing else happens. -/
structure Told (sink : Sink) (data : Bytes) (h k : Host) : Prop where
  once : ∃ g, Unmoved h g ∧ Unmoved (g.write sink data).2 k
  /-- No process is started and none ends. -/
  rest : k = { h with
    files := k.files, cache := k.cache, opened := k.opened, buffers := k.buffers,
    terminalOut := k.terminalOut, terminalErr := k.terminalErr }
  /-- No file is opened, and no other open file is written to. -/
  size : k.opened.size = h.opened.size
  opened : ∀ n, sink ≠ .file n → k.opened[n]? = h.opened[n]?
  /-- No file is made, and none is changed but the one behind the sink. -/
  nodes : k.files.nodes.size = h.files.nodes.size
  cwd : k.files.cwd = h.files.cwd
  node : ∀ i, h.logFile.map LogFile.node ≠ some i → h.nodeBehind sink ≠ some i →
    k.files.node? i = h.files.node? i
  written : ∀ handle file, sink = .file handle → h.opened[handle]? = some file →
    h.logFile.map LogFile.node ≠ some file.node →
    k.files.node? file.node = (h.files.node? file.node).map (Node.written file.position data)
  buffers : ∀ n, k.buffers[n]? = h.buffers[n]?.map (· ++ if sink = .buffer n then data else [])
  terminalOut : k.terminalOut =
    h.terminalOut ++ h.admits .terminalOut (if sink = .terminalOut then data else [])
  terminalErr : h.echoes = false →
    k.terminalErr =
      h.terminalErr ++ h.admits .terminalErr (if sink = .terminalErr then data else [])

theorem opened_write (h : Host) {sink : Sink} (data : Bytes) {n : Nat} (hn : sink ≠ .file n) :
    (h.write sink data).2.opened[n]? = h.opened[n]? := by
  cases sink with
  | terminalOut => rw [write_terminalOut]
  | terminalErr => rw [write_terminalErr]
  | buffer n => rfl
  | file handle =>
    obtain ⟨files, opened, -, hother, hw⟩ := writeFile_eq h handle data
    rw [write, hw]
    refine hother n ?_
    rintro rfl
    exact hn rfl

theorem alike_write (h : Host) (sink : Sink) (data : Bytes) :
    h.files.Alike (h.nodeBehind sink) (h.write sink data).2.files := by
  rcases write_cases h sink data with ⟨hf, -⟩ | ⟨handle, file, rfl, ho, hf, -⟩
  · rw [hf]
    exact .refl _ _
  · rw [hf]
    exact (Files.Alike.refl _ _).write_log (by rw [nodeBehind, ho]; rfl) _ _

theorem nodeBehind_congr {h k : Host} (ho : k.opened = h.opened) (sink : Sink) :
    k.nodeBehind sink = h.nodeBehind sink := by
  cases sink <;> simp only [nodeBehind, ho]

theorem Told.of_once {sink : Sink} {data : Bytes} {h g k : Host} (hg : Unmoved h g)
    (hk : Unmoved (g.write sink data).2 k) : Told sink data h k := by
  have hng := hg.noted
  have hnk := hk.noted
  have htakes := (quiet_of_noted h hng).takes
  have hbefore := hg.alike
  have hwrite := alike_write g sink data
  have hafter := hk.alike
  rw [logFile_write, hng.logFile] at hafter
  rw [nodeBehind_congr hng.opened] at hwrite
  exact {
    once := ⟨g, hg, hk⟩
    rest := by
      obtain ⟨_, _, _, _, _, hw⟩ := write_rest g sink data
      rw [hw] at hk
      obtain ⟨_, _, _, -, -, rfl⟩ := hg
      obtain ⟨_, _, _, -, -, rfl⟩ := hk
      rfl
    size := by rw [hnk.opened, size_write, hng.opened]
    opened := fun n hn => by rw [hnk.opened, opened_write g data hn, hng.opened]
    nodes := by rw [hafter.size, hwrite.size, hbefore.size]
    cwd := by rw [hafter.cwd, hwrite.cwd, hbefore.cwd]
    node := fun i hlog hsink => by
      rw [hafter.node i hlog, hwrite.node i hsink, hbefore.node i hlog]
    written := by
      rintro handle file rfl ho hlog
      rw [hafter.node _ hlog, write_file (hng.opened ▸ ho), Files.writeAt_eq,
        Files.node?_alter_self, hbefore.node _ hlog]
    buffers := fun n => by rw [hnk.buffers, buffers_write, hng.buffers]
    terminalOut := by
      rw [hnk.terminalOut, terminalOut_write, hng.terminalOut, admits_congr htakes]
    terminalErr := by
      intro hecho
      obtain ⟨echoed, he, hte⟩ := hng.terminalErr
      obtain ⟨echoed', he', hte'⟩ := hnk.terminalErr
      have hecho' : (g.write sink data).2.echoes = false := by
        rw [echoes, logFile_write, hng.logFile]
        exact hecho
      rw [hte', he' hecho', List.append_nil, terminalErr_write, hte, he hecho, List.append_nil,
        admits_congr htakes] }

end Host

namespace Shell

open Host (Told)

theorem report_told (s : Shell) (f : Failure) :
    ∃ k, s.report f = { s with host := k } ∧ Told s.streams.err f.line s.host k := by
  have hn := Host.unmoved_note s.host (Log.error f.message)
  have hp : (s.note (Log.error f.message)).printLine .stderr f.message =
      (((s.note (Log.error f.message)).host.write s.streams.err f.line).1,
        { s with host := ((s.note (Log.error f.message)).host.write s.streams.err f.line).2 }) :=
    printLine_eq _ _ _
  unfold report complain
  rw [hp]
  cases ((s.note (Log.error f.message)).host.write s.streams.err f.line).1 with
  | ok u => exact ⟨_, rfl, .of_once hn (.refl _)⟩
  | error e => exact ⟨_, rfl, .of_once hn (Host.unmoved_note _ _)⟩

theorem findProgram_again {base : Host} {s : Shell} (hu : base.Unmoved s.host)
    (hr : base.Recalls s.host) (name : String) :
    ∃ k, base.Unmoved k ∧ base.Recalls k ∧
      s.findProgram name = ((base.findProgram name).1, { s with host := k }) := by
  obtain ⟨hfound, hrecalls⟩ := hr.findProgram hu.isExecutable name
  refine ⟨_, hu.trans (s.host.unmoved_findProgram name), hrecalls, ?_⟩
  rw [← hfound]
  rfl

theorem resolve_missing {base : Host} {s : Shell} (hu : base.Unmoved s.host)
    (hr : base.Recalls s.host) {cs : List Command} {c : Command}
    (hc : cs.find? (fun c => (base.findProgram c.program).1.isNone) = some c) :
    ∃ k, base.Unmoved k ∧
      s.resolve cs = (.error (.notFound c.program), { s with host := k }) := by
  induction cs generalizing s with
  | nil => cases hc
  | cons d cs ih =>
    obtain ⟨k, hk, hrecalls, hd⟩ := findProgram_again hu hr d.program
    rw [resolve, hd]
    cases hfound : (base.findProgram d.program).1 with
    | none =>
      rw [List.find?_cons_of_pos (by rw [hfound]; rfl), Option.some.injEq] at hc
      subst hc
      exact ⟨k, hk, rfl⟩
    | some path =>
      rw [List.find?_cons_of_neg (by rw [hfound]; simp)] at hc
      obtain ⟨l, hl, hresolve⟩ := ih (s := { s with host := k }) hk hrecalls hc
      exact ⟨l, hl, by simp only [hresolve]; rfl⟩

theorem execute_programs (b : Behaviour) (s : Shell) {cs : List Command}
    (hb : cs.any isBuiltin = false) :
    ∃ e, s.execute b (.pipeline cs) = (true, (s.note e).external b cs) := by
  rw [execute, pipeline, hb, if_neg Bool.false_ne_true]
  exact ⟨_, rfl⟩

/-- A pipeline of programs that are not all found says which is the first that is missing, and does
nothing else: the stages before it do not start, and no target is opened. -/
theorem missing_program_only_reported (b : Behaviour) (s : Shell) {cs : List Command} {c : Command}
    (hb : cs.any isBuiltin = false)
    (hc : cs.find? (fun c => (s.findProgram c.program).1.isNone) = some c) :
    ∃ k, s.execute b (.pipeline cs) = (true, { s with host := k }) ∧
      Told s.streams.err (Text.encode (c.program ++ ": command not found\n")) s.host k := by
  obtain ⟨e, he⟩ := s.execute_programs b hb
  obtain ⟨k, hk, hresolve⟩ :=
    resolve_missing (s := s.note e) (s.host.unmoved_note e) (s.host.recalls_note e) hc
  obtain ⟨l, hreport, htold⟩ := report_told { s.note e with host := k } (.notFound c.program)
  obtain ⟨g, hg, hl⟩ := htold.once
  rw [Failure.line_notFound] at hl
  refine ⟨l, ?_, .of_once (hk.trans hg) hl⟩
  rw [he, external, hresolve]
  exact congrArg _ hreport

/-- A program that is found and would have made a new file does not, as the two after it are
missing. -/
theorem missing_program_only_reported_second :
    let tree : Files := ⟨#[.dir 0 [("c", 1)] false 0o755, .file [] 0o755], 0⟩
    let s := Session.start (Settings.ofEnvironment []) false { files := tree }
    let first : Command := { program := "/c", redirects := { stdout := some ⟨"o", false⟩ } }
    let second : Command := { program := "b", background := true }
    let cs := [first, second, { program := "a" }]
    let b : Behaviour := fun _ h => (.exited 0, h)
    cs.any isBuiltin = false ∧
      cs.find? (fun c => (s.findProgram c.program).1.isNone) = some second ∧
      ∃ k, s.execute b (.pipeline cs) = (true, { s with host := k }) ∧ k.files = tree ∧
        k.started = [] ∧ k.terminalOut = [] ∧
        k.terminalErr = Text.encode "b: command not found\n" := by
  intro tree s first second cs b
  have hb : cs.any isBuiltin = false := by decide
  have hc : cs.find? (fun c => (s.findProgram c.program).1.isNone) = some second := by decide
  obtain ⟨k, hrun, hk⟩ := missing_program_only_reported b s hb hc
  have hfiles : k.files = tree := Files.ext_node? hk.cwd fun i => hk.node i nofun nofun
  have hstarted : k.started = s.host.started := by rw [hk.rest]
  exact ⟨hb, hc, k, hrun, hfiles, hstarted, hk.terminalOut, hk.terminalErr rfl⟩

end Shell

end PipeShell
