import PipeShell.Program.Basic
import PipeShell.Proofs.Host.Delivery

/-!
# Programs as functions

A program is taken as a function of its argument list, the file tree with its working directory, and
the whole of its input. It answers with what it writes and how it changes the file tree, in order.
A program of this kind that is started on two sinks of the shell delivers to them just what it
writes.
-/

namespace PipeShell

inductive Deed
  | write (channel : Channel) (data : Bytes)
  | change (act : Files → Files)

/-- What a program does, what it leaves of the terminal's input, and how it ends. -/
structure Reaction where
  deeds : List Deed := []
  unread : Bytes := []
  status : Status := .exited 0

abbrev Programs := String → List String → Files → Bytes → Reaction

def Deed.written? : Deed → Option (Channel × Bytes)
  | .write channel data => some (channel, data)
  | .change _ => none

def Reaction.writes (r : Reaction) : List (Channel × Bytes) := r.deeds.filterMap Deed.written?

def said (channel : Channel) : List (Channel × Bytes) → Bytes
  | [] => []
  | (written, data) :: w => (if written = channel then data else []) ++ said channel w

def Redirects.keeps (r : Redirects) : Channel → Bool
  | .stdout => r.stdout.isNone
  | .stderr => r.stderr.isNone

namespace Streams

def sink (streams : Streams) : Channel → Sink
  | .stdout => streams.out
  | .stderr => streams.err

@[simp] theorem sink_stdout (streams : Streams) : streams.sink .stdout = streams.out := rfl

@[simp] theorem sink_stderr (streams : Streams) : streams.sink .stderr = streams.err := rfl

def deliver (streams : Streams) (w : List (Channel × Bytes)) : List (Sink × Bytes) :=
  w.map fun x => (streams.sink x.1, x.2)

@[simp] theorem deliver_nil (streams : Streams) : streams.deliver [] = [] := rfl

@[simp] theorem deliver_cons (streams : Streams) (x : Channel × Bytes) (w : List (Channel × Bytes)) :
    streams.deliver (x :: w) = (streams.sink x.1, x.2) :: streams.deliver w := rfl

theorem deliver_append (streams : Streams) (v w : List (Channel × Bytes)) :
    streams.deliver (v ++ w) = streams.deliver v ++ streams.deliver w := List.map_append

theorem deliver_input (streams : Streams) (input : Source) (w : List (Channel × Bytes)) :
    Streams.deliver ⟨input, streams.out, streams.err⟩ w = streams.deliver w := by
  induction w with
  | nil => rfl
  | cons x w ih =>
    obtain ⟨channel, data⟩ := x
    cases channel <;> simp [ih]

end Streams

def Inlet.held (h : Host) : Inlet → Bytes
  | .null => []
  | .terminal => h.terminalIn
  | .bytes data => data
  | .pipe n => (h.flowOf n).bytes

def Process.outlet (p : Process) : Channel → Outlet
  | .stdout => p.out
  | .stderr => p.err

/-- Carries out a deed of a process. The working directory is that of the process alone. -/
def Deed.perform (p : Process) (h : Host) : Deed → Host
  | .write channel data => (h.writeOutlet (p.outlet channel) data).2
  | .change act => { h with files := { act h.files with cwd := h.files.cwd } }

def Inlet.consume (h : Host) (unread : Bytes) : Inlet → Host
  | .terminal => { h with terminalIn := unread }
  | _ => h

def Programs.behaviour (P : Programs) : Behaviour := fun p h =>
  let r := P p.program p.argv h.files (p.input.held h)
  (r.status, r.deeds.foldl (Deed.perform p) (p.input.consume h r.unread))

namespace Host

theorem started_write (h : Host) (sink : Sink) (data : Bytes) :
    (h.write sink data).2.started = h.started := by
  obtain ⟨_, _, _, _, _, hw⟩ := write_rest h sink data
  rw [hw]

theorem started_say (h : Host) (sink : Sink) (data : Bytes) :
    (h.say sink data).2.started = h.started := by
  rcases say_cases h sink data with hw | ⟨b, -, -, hw⟩
  · rw [hw, started_write]
  · rw [hw]

theorem started_perform (p : Process) (h : Host) (d : Deed) :
    (d.perform p h).started = h.started := by
  cases d with
  | change act => rfl
  | write channel data =>
    simp only [Deed.perform, writeOutlet]
    cases p.outlet channel with
    | sink sink => exact started_write h sink data
    | pipe n => rfl

theorem started_deeds (p : Process) (ds : List Deed) (h : Host) :
    (ds.foldl (Deed.perform p) h).started = h.started := by
  induction ds generalizing h with
  | nil => rfl
  | cons d ds ih =>
    rw [List.foldl_cons, ih]
    exact started_perform p h d

theorem started_behaviour (P : Programs) (p : Process) (h : Host) :
    (P.behaviour p h).2.started = h.started := by
  refine (started_deeds p _ _).trans ?_
  cases p.input <;> rfl

section Run

variable {base : Host} {streams : Streams} (hs : ∀ channel, base.Has (streams.sink channel))

include hs

theorem delivers_deeds {p : Process} (hp : ∀ channel, p.outlet channel = .sink (streams.sink channel))
    (ds : List Deed) (h : Host) :
    Delivers base h (streams.deliver (ds.filterMap Deed.written?)) (ds.foldl (Deed.perform p) h) := by
  induction ds generalizing h with
  | nil => exact .done h
  | cons d ds ih =>
    cases d with
    | change act =>
      have hq : Quiet base h (Deed.perform p h (.change act)) := Quiet.of_eq rfl rfl rfl rfl rfl rfl
      exact .quiet hq (ih _)
    | write channel data =>
      have hd : Deed.perform p h (.write channel data) = (h.write (streams.sink channel) data).2 := by
        rw [Deed.perform, hp channel, writeOutlet]
      rw [List.foldl_cons, hd]
      exact .write (hs channel) (ih _)

theorem delivers_behaviour (P : Programs) {p : Process}
    (hp : ∀ channel, p.outlet channel = .sink (streams.sink channel)) (h : Host) :
    Delivers base h
      (streams.deliver (P p.program p.argv h.files (p.input.held h)).writes)
      (P.behaviour p h).2 := by
  refine .quiet ?_ (delivers_deeds hs hp _ _)
  cases p.input <;> exact Quiet.of_eq rfl rfl rfl rfl rfl rfl

end Run

theorem held_inlet {h k : Host} (ht : k.terminalIn = h.terminalIn) (source : Source) :
    source.inlet.held k = source.inlet.held h := by
  cases source with
  | terminal => exact ht
  | buffer unread => rfl

theorem join_singleton (b : Behaviour) {h : Host} {p : Process} (hp : h.started = [p]) :
    join b h = (.ok (), runChild b { h with started := [] } p) := by
  rw [join, hp]
  rfl

theorem runSingle_of_start (b : Behaviour) {h k : Host} {streams : Streams} {stage : Stage}
    {image : Image} {p : Process} (hi : h.started = [])
    (hs : start ⟨stage, streams.input.inlet, some streams.out, streams.err⟩ h =
      (.ok h.processes, k))
    (hk : Launched ⟨stage, streams.input.inlet, some streams.out, streams.err⟩ image h k)
    (hp : p = child ⟨stage, streams.input.inlet, some streams.out, streams.err⟩ image h.processes) :
    (machine b).runSingle streams stage false h =
      (.ok (), (runChild b { k with started := [] } p).note
        (Machine.endEntry stage.command.program (b p { k with started := [] }).1)) := by
  have hstarted : k.started = [p] := by rw [hk.started, hi, hp, List.nil_append]
  have hnumber : p.number = h.processes := by rw [hp]; rfl
  have hinlet : streams.inlet false = streams.input.inlet := rfl
  have hjoin : (machine b).join k = (.ok (), runChild b { k with started := [] } p) :=
    (machine_join b k).trans (join_singleton b hstarted)
  rw [Machine.runSingle, hinlet, show (machine b).start = start from rfl, hs]
  simp only [Bool.false_eq_true, if_false, hjoin]
  simp only [machine]
  cases hr : b p { k with started := [] } with
  | mk status ran =>
    simp only [runChild, hr, wait, hnumber, setStatus, List.lookup_cons_self, Option.getD_some]
    rfl

/-- A program in the foreground runs to its end, unless it cannot be started. -/
theorem runSingle_cases (P : Programs) {base h : Host} {streams : Streams} (stage : Stage)
    (hi : h.started = []) (hs : ∀ channel, base.Has (streams.sink channel)) :
    (∃ e, h.Unstartable stage.path (stage.command.program :: stage.command.arguments) e ∧
        (machine P.behaviour).runSingle streams stage false h =
          (.error (.process stage.command.program e), h)) ∨
      ∃ image files k,
        h.Startable stage.path (stage.command.program :: stage.command.arguments) image ∧
        Logged h.logFile h.files files ∧
        (machine P.behaviour).runSingle streams stage false h = (.ok (), k) ∧ k.started = [] ∧
        Delivers base h
          (streams.deliver
            (P image.program image.argv files (streams.input.inlet.held h)).writes) k := by
  generalize hl : (⟨stage, streams.input.inlet, some streams.out, streams.err⟩ : Launch) = l
  have hq := quiet_start base l h
  rcases start_cases l h with ⟨e, hst, hu⟩ | ⟨image, k, hst, hk⟩
  · left
    refine ⟨e, by subst hl; exact hu, ?_⟩
    have hinlet : streams.inlet false = streams.input.inlet := rfl
    rw [Machine.runSingle]
    simp only [machine, hinlet, hl, hst]
  · right
    generalize hc : child l image h.processes = p
    have hp : ∀ channel, p.outlet channel = .sink (streams.sink channel) := by
      intro channel
      subst hc hl
      cases channel <;> rfl
    have hinput : p.input.held { k with started := [] } = streams.input.inlet.held h := by
      subst hc hl
      exact held_inlet hk.terminalIn streams.input
    have hprogram : p.program = image.program ∧ p.argv = image.argv := by
      subst hc
      exact ⟨rfl, rfl⟩
    have hd := delivers_behaviour hs P hp { k with started := [] }
    have hran := started_behaviour P p { k with started := [] }
    rw [hinput, hprogram.1, hprogram.2] at hd
    subst hl
    refine ⟨image, k.files, _, hk.startable, hk.files, runSingle_of_start _ hi hst hk hc.symm, ?_, ?_⟩
    · exact (noted_note _ _).started.trans hran
    · rw [hst] at hq
      have hset : Quiet base k { k with started := [] } := Quiet.of_eq rfl rfl rfl rfl rfl rfl
      have hstatus : Quiet base (P.behaviour p { k with started := [] }).2
          (runChild P.behaviour { k with started := [] } p) := Quiet.of_eq rfl rfl rfl rfl rfl rfl
      exact .quiet hq (.quiet hset (hd.trans_quiet (hstatus.trans (quiet_note base _ _))))

end Host

end PipeShell
