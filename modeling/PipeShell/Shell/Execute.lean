import PipeShell.Builtin.Run
import PipeShell.Command.Printer
import PipeShell.Launch.Host

/-!
# Executing jobs

A single command runs on the streams of the shell, with its redirections put in place. A pipeline of
programs runs on the machine of the host, all stages next to each other. A pipeline with a builtin
command in it runs stage by stage: what one stage writes is kept and given to the next.

Only a single `exit` stops the shell. `b` says what programs do.
-/

namespace PipeShell.Shell

def dispatch (b : Behaviour) (c : Command) (background : Bool) (s : Shell) :
    Except Failure Bool × Shell :=
  match Builtin.ofName? c.program with
  | some builtin =>
    let s := s.note (Log.debug ("执行内建命令: " ++ c.render))
    match builtin.run c.arguments s with
    | (.error e, s) => (.error (.builtin c.program e), s)
    | (.ok more, s) => (.ok more, s)
  | none =>
    match s.findProgram c.program with
    | (none, s) => (.error (.notFound c.program), s)
    | (some path, s) =>
      let s := s.note (Log.debug ("执行外部命令: " ++ c.render ++ " (" ++ path ++ ")"))
      let (result, host) := (Host.machine b).runSingle s.streams ⟨c, path⟩ background s.host
      (result.map fun _ => true, { s with host := host })

/-- Opens the targets of a command, and runs `body` with them in place. A target that cannot be
opened is reported, and nothing is run. -/
def redirected {α : Type} (s : Shell) (r : Redirects) (failed : α) (body : Shell → α × Shell) :
    α × Shell :=
  match s.host.openTargets r with
  | (.error f, host) => (failed, { s with host := host }.report f)
  | (.ok opened, host) => { s with host := host }.within opened body

def single (b : Behaviour) (c : Command) (s : Shell) : Bool × Shell :=
  s.redirected c.redirects true fun s =>
    match s.dispatch b c c.background with
    | (.ok more, s) => (more, s)
    | (.error (.notFound program), s) =>
      (true, (s.printAll .stdout [program, ": command not found\n"]).2)
    | (.error f, s) => (true, s.report f)

/-- Runs one stage of a pipeline that has a builtin command in it. An `exit` ends only its own
stage. -/
def stage (b : Behaviour) (c : Command) (s : Shell) : Shell :=
  (s.redirected c.redirects () fun s =>
    match s.dispatch b c false with
    | (.ok true, s) => ((), s)
    | (.ok false, s) =>
      ((), { s.note (Log.debug ("忽略管道中的 " ++ c.program)) with exitCode := none })
    | (.error f, s) => ((), s.report f)).2

def captured (b : Behaviour) (c : Command) (input : Option Bytes) (s : Shell) : Bytes × Shell :=
  let (buffer, host) := s.host.newBuffer
  let (_, s) := { s with host := host }.within
    { input := input.map .buffer, out := some buffer } fun s => ((), s.stage b c)
  let (data, host) := s.host.take buffer
  (data, { s with host := host })

/-- Runs stages one after the other. The first reads `input`, or what the shell reads if there is
none; each of the others reads what the one before it wrote. -/
def stages (b : Behaviour) : List Command → Option Bytes → Shell → Shell
  | [], _, s => s
  | [c], input, s => (s.within { input := input.map .buffer } fun s => ((), s.stage b c)).2
  | c :: rest, input, s =>
    let (data, s) := s.captured b c input
    stages b rest (some data) s

def runsInBackground (cs : List Command) : Bool := (cs.getLast?.map Command.background).getD false

/-- A pipeline with a builtin command in it. It always runs in the foreground. -/
def mixed (b : Behaviour) (cs : List Command) (s : Shell) : Shell :=
  let s := if runsInBackground cs then
      s.note (Log.warn "含内建命令的管道不支持后台运行, 按前台执行")
    else s
  s.stages b cs none

/-- The programs of all stages. The first that is not found is the failure. -/
def resolve : List Command → Shell → Except Failure (List Stage) × Shell
  | [], s => (.ok [], s)
  | c :: rest, s =>
    match s.findProgram c.program with
    | (none, s) => (.error (.notFound c.program), s)
    | (some path, s) =>
      let (result, s) := resolve rest s
      (result.map (⟨c, path⟩ :: ·), s)

def launch (m : Machine Host) (found : List Stage) (background : Bool) (s : Shell) : Shell :=
  let (result, host) := m.runPipeline s.streams found background s.host
  let s := { s with host := host }
  match result with
  | .ok () => s
  | .error f => s.report f

/-- A pipeline of programs. Nothing is opened or started before all programs are found. -/
def external (b : Behaviour) (cs : List Command) (s : Shell) : Shell :=
  match s.resolve cs with
  | (.error f, s) => s.report f
  | (.ok found, s) => s.launch (Host.machine b) found (runsInBackground cs)

def isBuiltin (c : Command) : Bool := (Builtin.ofName? c.program).isSome

def pipeline (b : Behaviour) (cs : List Command) (s : Shell) : Shell :=
  if cs.any isBuiltin then
    (s.note (Log.debug s!"混合管道, 共 {cs.length} 个阶段")).mixed b cs
  else
    (s.note (Log.debug s!"外部命令管道, 共 {cs.length} 个阶段")).external b cs

def execute (b : Behaviour) (job : Job) (s : Shell) : Bool × Shell :=
  match job with
  | .command c => s.single b c
  | .pipeline cs => (true, s.pipeline b cs)

end PipeShell.Shell
