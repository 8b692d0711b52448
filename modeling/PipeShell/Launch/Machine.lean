import PipeShell.Failure
import PipeShell.Host.Basic

/-!
# Starting programs

A machine opens files, starts children, and kills or waits for them. A single program and a pipeline
are run on any machine by the same few operations, so that what happens to the children can be read
off without knowing what the programs do.

The stages of a pipeline are started from the first to the last. Each reads what the stage before it
writes, unless that goes to a file. If a stage cannot be started, the children before it are killed
and waited for, and nothing of the rest is touched.
-/

namespace PipeShell

structure Stage where
  command : Command
  path : String
  deriving DecidableEq, Repr

/-- A stage with its streams. Without a sink for its output, the output goes to a new pipe that is
known by the number of the child. -/
structure Launch where
  stage : Stage
  input : Inlet
  out : Option Sink
  err : Sink
  deriving DecidableEq, Repr

/-- The operations on children, on a machine with the states `σ`. -/
structure Machine (σ : Type) where
  openTargets : Redirects → σ → Except Failure Replacement × σ
  start : Launch → σ → Except OsError Nat × σ
  kill : Nat → σ → Except OsError Unit × σ
  wait : Nat → σ → Except OsError Status × σ
  /-- Lets the children finish reading and writing. Bridges carry bytes between a child and a buffer
  of the shell; the answer says how each of them ended, in the order in which they were made. -/
  bridges : σ → List (Except OsError Unit) × σ
  detach : σ → σ
  note : Log.Entry → σ → σ

def Source.inlet : Source → Inlet
  | .terminal => .terminal
  | .buffer unread => .bytes unread

/-- A child in the background does not read what the shell reads. -/
def Streams.inlet (streams : Streams) (background : Bool) : Inlet :=
  if background then .null else streams.input.inlet

structure Child where
  number : Nat
  program : String
  deriving DecidableEq, Repr

namespace Status

def signalName : Nat → String
  | 1 => "SIGHUP"
  | 2 => "SIGINT"
  | 9 => "SIGKILL"
  | 10 => "SIGUSR1"
  | 13 => "SIGPIPE"
  | _ => "SIGTERM"

def describe : Status → String
  | .exited code => s!"exit status: {code}"
  | .signalled signal => "signal: " ++ toString signal ++ " (" ++ signalName signal ++ ")"

end Status

namespace Machine

variable {σ : Type}

def endEntry (program : String) (status : Status) : Log.Entry :=
  Log.debug (program ++ " 已退出: " ++ status.describe)

def firstFailure : List (Except OsError Unit) → Except OsError Unit
  | [] => .ok ()
  | .ok () :: rest => firstFailure rest
  | .error e :: _ => .error e

def join (m : Machine σ) (s : σ) : Except OsError Unit × σ :=
  let (ends, s) := m.bridges s
  (firstFailure ends, s)

def runSingle (m : Machine σ) (streams : Streams) (stage : Stage) (background : Bool) (s : σ) :
    Except Failure Unit × σ :=
  let program := stage.command.program
  match m.start ⟨stage, streams.inlet background, some streams.out, streams.err⟩ s with
  | (.error e, s) => (.error (.process program e), s)
  | (.ok number, s) =>
    if background then
      (.ok (), m.detach (m.note (Log.debug s!"后台运行: {program} (pid {number})") s))
    else
      let (joined, s) := m.join s
      match m.wait number s with
      | (.error e, s) => (.error (.process program e), s)
      | (.ok status, s) =>
        (joined.mapError (Failure.process program), m.note (endEntry program status) s)

def startStage (m : Machine σ) (streams : Streams) (stage : Stage) (input : Inlet) (last : Bool)
    (s : σ) : Except Failure (Nat × Bool) × σ :=
  match m.openTargets stage.command.redirects s with
  | (.error f, s) => (.error f, s)
  | (.ok opened, s) =>
    let out := opened.out.or (if last then some streams.out else none)
    match m.start ⟨stage, input, out, opened.err.getD streams.err⟩ s with
    | (.error e, s) => (.error (.process stage.command.program e), s)
    | (.ok number, s) => (.ok (number, out.isNone), s)

/-- Kills children and waits for them, whether or not they can be killed. -/
def dispose (m : Machine σ) : List Child → σ → σ
  | [], s => s
  | child :: rest, s =>
    let s := match m.kill child.number s with
      | (.ok (), s) => s
      | (.error e, s) => m.note (Log.debug s!"结束进程 {child.number} 失败: {e.message}") s
    dispose m rest (m.wait child.number s).2

/-- Starts stages. The children are kept newest first, and are disposed of if a stage fails. -/
def startAll (m : Machine σ) (streams : Streams) :
    List Stage → Inlet → List Child → σ → Except Failure (List Child) × σ
  | [], _, children, s => (.ok children, s)
  | stage :: rest, input, children, s =>
    match m.startStage streams stage input rest.isEmpty s with
    | (.error f, s) => (.error f, m.detach (m.dispose children s))
    | (.ok (number, piped), s) =>
      startAll m streams rest (if piped then .pipe number else .null)
        (⟨number, stage.command.program⟩ :: children) s

/-- Waits for children in the given order, for all of them even when some waits fail. The first
failure counts. -/
def waitAll (m : Machine σ) : List Child → σ → Except Failure Unit × σ
  | [], s => (.ok (), s)
  | child :: rest, s =>
    match m.wait child.number s with
    | (.ok status, s) => waitAll m rest (m.note (endEntry child.program status) s)
    | (.error e, s) => (.error (.process child.program e), (waitAll m rest s).2)

def runPipeline (m : Machine σ) (streams : Streams) (stages : List Stage) (background : Bool)
    (s : σ) : Except Failure Unit × σ :=
  match m.startAll streams stages (streams.inlet background) [] s with
  | (.error f, s) => (.error f, s)
  | (.ok children, s) =>
    if background then
      let numbers := ", ".intercalate (children.reverse.map fun child => toString child.number)
      (.ok (), m.detach (m.note (Log.debug s!"后台管道: [{numbers}]") s))
    else
      let (joined, s) := m.join s
      match m.waitAll children s with
      | (.error f, s) => (.error f, s)
      | (.ok (), s) => (joined.mapError (Failure.process "pipeline"), s)

end Machine

end PipeShell
