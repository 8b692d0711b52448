import PipeShell.Host.Basic

/-!
# Running programs

A program is called with its arguments, with what it can read, and with two outlets. Most programs
only report what they write and how they end; the report is then carried out on the host, write by
write, until a write fails.
-/

namespace PipeShell

/-- How a program is called. Where the input is a file, its size is the extent, and what was read of
it can be given back in part. -/
structure Call where
  argv : List String
  input : Flow
  extent : Option Nat
  out : Outlet
  err : Outlet

structure Report where
  writes : List (Channel × Bytes) := []
  endless : Option Bytes := none
  code : Nat := 0
  unread : Flow := {}

namespace Call

def name (c : Call) : String := c.argv.head?.getD ""

def arguments (c : Call) : List String := c.argv.drop 1

end Call

namespace Host

def pour (h : Host) (pipe : Nat) (data : Bytes) (endless : Option Bytes) : Host :=
  let flow := (h.pipes.lookup pipe).getD {}
  let flow : Flow := match flow.endless with
    | some _ => flow
    | none => ⟨flow.bytes ++ data, endless⟩
  { h with pipes := (pipe, flow) :: h.pipes.filter (·.1 != pipe) }

def writeOutlet (h : Host) (outlet : Outlet) (data : Bytes) : Except OsError Unit × Host :=
  match outlet with
  | .sink s => h.write s data
  | .pipe n => (.ok (), h.pour n data none)

def newPipe (h : Host) : Nat × Host :=
  (h.processes, { h with processes := h.processes + 1, pipes := (h.processes, {}) :: h.pipes })

def flowOf (h : Host) (pipe : Nat) : Flow := (h.pipes.lookup pipe).getD {}

end Host

namespace Report

def ofOutput (data : Bytes) : Report := { writes := [(.stdout, data)] }

def complaint (c : Call) (text : String) (code : Nat) : Report :=
  { writes := [(.stderr, Text.encode (c.name ++ ": " ++ text ++ "\n"))], code := code
    unread := c.input }

def misuse (c : Call) (text : String) (code : Nat) : Report :=
  complaint c (text ++ "\nTry '" ++ c.name ++ " --help' for more information.") code

end Report

def heldBack : Nat := 4096

/-- Output that could not be written: why, and whether a complaint came after it. Programs write out
what they hold back before they complain, and then forget why that failed. -/
structure Loss where
  reason : OsError
  forgotten : Bool := false
  deriving DecidableEq, Repr

def writeComplaints (program : String) (size : Nat) (loss : Loss) : List String :=
  let early := heldBack < size
  let reason := if loss.forgotten then "" else ": " ++ loss.reason.reason
  if program = "head" || program = "tail" then
    [(if early then "error writing 'standard output'" else "write error") ++ reason]
  else if program = "sort" then
    [(if early then "write" else "fflush") ++ " failed: 'standard output'" ++ reason,
      "write error"]
  else if program = "wc" then ["write error"]
  else if program = "yes" then ["standard output" ++ reason]
  else ["write error" ++ reason]

namespace Host

/-- Carries out writes in order. Where output is held back, the program goes on after a loss. The
answer says what was lost. -/
def emit (h : Host) (c : Call) (patient : Bool) (loss : Option Loss) :
    List (Channel × Bytes) → Option Loss × Host
  | [] => (loss, h)
  | (.stderr, data) :: rest =>
    emit (h.writeOutlet c.err data).2 c patient (loss.map ({ · with forgotten := true })) rest
  | (.stdout, data) :: rest =>
    if data.isEmpty then emit h c patient loss rest
    else
      match h.writeOutlet c.out data with
      | (.ok (), h) => emit h c patient loss rest
      | (.error e, h) => if patient then emit h c patient (some ⟨e, false⟩) rest
        else (some ⟨e, false⟩, h)

/-- Output without end fills a pipe. Anything else it could only fill for ever. -/
def emitEndless (h : Host) (c : Call) (unit : Bytes) : Option OsError × Host :=
  match c.out with
  | .pipe n => (none, h.pour n [] (some unit))
  | .sink s =>
    match h.write s unit with
    | (.ok (), h) => (none, h)
    | (.error e, h) => (some e, h)

def carryOut (h : Host) (program : String) (c : Call) (r : Report) : Status × Flow × Host :=
  let size := r.writes.foldl (fun n w => if w.1 = .stdout then n + w.2.length else n) 0
  let complain := fun (loss : Loss) (h : Host) =>
    let lines := (writeComplaints program size loss).map fun text => c.name ++ ": " ++ text ++ "\n"
    let text := Text.encode (String.join lines)
    (Status.exited (if program = "sort" then 2 else 1), r.unread, (h.writeOutlet c.err text).2)
  match h.emit c (size ≤ heldBack) none r.writes with
  | (some loss, h) => complain loss h
  | (none, h) =>
    match r.endless with
    | none => (.exited r.code, r.unread, h)
    | some unit =>
      match h.emitEndless c unit with
      | (some e, h) => complain ⟨e, false⟩ h
      | (none, h) => (.exited r.code, r.unread, h)

end Host

end PipeShell
