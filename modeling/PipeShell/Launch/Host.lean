import PipeShell.Host.Redirect
import PipeShell.Launch.Machine
import PipeShell.Program.Image

/-!
# Children of the host

The host as a machine. A child that was started waits in `started` until the machine is joined or
the children are left to themselves; then all of them run, one after the other, each reading what
those before it have written. A child that is killed before that has done nothing.
-/

namespace PipeShell

abbrev Behaviour := Process → Host → Status × Host

namespace Host

def holdsZero (words : List String) : Bool := words.any fun w => w.toList.contains (Char.ofNat 0)

/-- What is to run when a program is started. What the shell has begun to write comes first, so that
the output is in order. -/
def prepareImage (path : String) (argv : List String) (h : Host) : Except OsError Image :=
  match h.flush with
  | .error e => .error e
  | .ok () =>
    if holdsZero (path :: argv) then .error .nulInArgument
    else Image.load h.files Image.chainLimit path argv

def start (l : Launch) (h : Host) : Except OsError Nat × Host :=
  let argv := l.stage.command.program :: l.stage.command.arguments
  match prepareImage l.stage.path argv h with
  | .error e => (.error e, h)
  | .ok image =>
    let number := h.processes
    let out := match l.out with
      | some sink => Outlet.sink sink
      | none => Outlet.pipe number
    let child : Process := ⟨number, image.program, image.argv, l.input, out, .sink l.err⟩
    let h := { h with
      processes := number + 1
      pipes := (number, {}) :: h.pipes
      started := h.started ++ [child] }
    (.ok number, h.note (Log.debug s!"已启动进程 {number} ({l.stage.path})"))

def setStatus (h : Host) (number : Nat) (status : Status) : Host :=
  { h with statuses := (number, status) :: h.statuses }

def kill (number : Nat) (h : Host) : Except OsError Unit × Host :=
  let h := { h with started := h.started.filter (·.number != number) }
  (.ok (), h.setStatus number (.signalled 9))

def wait (number : Nat) (h : Host) : Except OsError Status × Host :=
  (.ok ((h.statuses.lookup number).getD (.exited 0)), h)

def runChild (b : Behaviour) (h : Host) (child : Process) : Host :=
  let (status, h) := b child h
  h.setStatus child.number status

def join (b : Behaviour) (h : Host) : Except OsError Unit × Host :=
  (.ok (), h.started.foldl (runChild b) { h with started := [] })

/-- Runs a child beside the shell: its end comes later, and the time of the shell goes on from
where it was. -/
def runBeside (b : Behaviour) (h : Host) (child : Process) : Host :=
  let after := runChild b h child
  { after with clock := h.clock, background := after.background ++ [after.clock + 1] }

/-- Leaves the started children to themselves. Nothing is left that would have to carry bytes
between them and the shell. -/
def detach (b : Behaviour) (h : Host) : Host :=
  let h := h.note (Log.debug "分离 0 个桥接线程")
  h.started.foldl (runBeside b) { h with started := [] }

/-- The host as a machine whose children behave as `b` says. They write to its buffers themselves,
so that there are no bridges. -/
def machine (b : Behaviour) : Machine Host where
  openTargets r h := h.openTargets r
  start := start
  kill := kill
  wait := wait
  bridges h := ([], (join b h).2)
  detach := detach b
  note e h := h.note e

theorem machine_join (b : Behaviour) (h : Host) : (machine b).join h = join b h := rfl

def reap (h : Host) : Nat × Host :=
  let (ended, running) := h.background.partition (· ≤ h.clock)
  (ended.length, { h with background := running })

/-- Lets time pass until `count` children in the background have ended and are reaped, or until
`patience` is over. -/
def reapAll (h : Host) (count patience : Nat) : Nat × Host :=
  let ends := (h.background.mergeSort (· ≤ ·)).take count
  let deadline := h.clock + patience
  let moment := min deadline (max h.clock (ends.getLast?.getD h.clock))
  let moment := if h.background.length < count then deadline else moment
  reap { h with clock := moment }

end Host

end PipeShell
