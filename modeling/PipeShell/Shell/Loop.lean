import PipeShell.Shell.Input
import PipeShell.Shell.Line

/-!
# The loop of the shell

The shell reads line after line and handles each, until a line stops it, the input ends, or a line
is not text. Before it reads, what it has written must have gone out; if the terminal refused a part
of that, the loop ends as well. Terminals that cannot edit lines are shown the prompt before every
line.
-/

namespace PipeShell.Shell

/-- What the editor of lines knows: what was read ahead, and which state of the history it has. -/
structure Editor where
  reader : LineReader := {}
  synced : Option Nat := none
  prompts : Bool
  deriving DecidableEq, Repr

def plainTerminals : List String := ["dumb", "cons25", "emacs"]

def Editor.new (env : Environment) : Editor where
  prompts := match env.get? "TERM" with
    | some terminal => plainTerminals.contains (terminal.map Char.toLower)
    | none => false

def sync (s : Shell) (e : Editor) : Editor × Shell :=
  if e.synced = some s.history.generation then (e, s)
  else
    ({ e with synced := some s.history.generation },
      s.note (Log.debug s!"编辑器历史已同步: {s.history.entries.length} 条"))

/-- What happens before a line is read. The history of the editor is in memory and takes every
change, but the output may not go out. -/
def prepare (s : Shell) (e : Editor) : Except Fault Unit × Editor × Shell :=
  let s := { s with host := s.host.reap.2 }
  let (e, s) := s.sync e
  (s.host.flush.mapError Fault.output, e, s)

def showPrompt (s : Shell) (e : Editor) : Except OsError Unit × Shell :=
  let prompt := if e.prompts then s.theme.styledPrompt s.colours else ""
  match s.host.say .terminalOut (Text.encode prompt) with
  | (.error cause, host) => (.error cause, { s with host := host })
  | (.ok (), host) => (host.flush, { s with host := host })

/-- What comes of an attempt to get a line. If the shell is not prepared, nothing is read. -/
inductive Reading
  | line (text : String)
  | ended
  | interrupted
  | failed (fault : Fault)
  | unprepared (fault : Fault)
  deriving DecidableEq, Repr

def readLine (s : Shell) (e : Editor) : Reading × Editor × Shell :=
  let (line, reader, host) := e.reader.next s.host
  let reading := match line.map LineReader.text with
    | none => .ended
    | some (.ok text) => .line text
    | some (.error fault) => .failed fault
  (reading, { e with reader := reader }, { s with host := host })

def read (s : Shell) (e : Editor) : Reading × Editor × Shell :=
  match s.showPrompt e with
  | (.error cause, s) => (.failed (.input cause), e, s)
  | (.ok (), s) => s.readLine e

def attend (s : Shell) (e : Editor) : Reading × Editor × Shell :=
  match s.prepare e with
  | (.error fault, e, s) => (.unprepared fault, e, s)
  | (.ok (), e, s) => s.read e

inductive Turn
  | again
  | stop (code : Nat)
  | failed (fault : Fault)
  deriving DecidableEq, Repr

def respond (b : Behaviour) (r : Reading) (s : Shell) : Turn × Shell :=
  match r with
  | .line text =>
    match s.handle b text with
    | (true, s) => (.again, s)
    | (false, s) => (.stop (s.exitCode.getD 0), s)
  | .ended => (.stop 0, s.note (Log.debug "接收到 EOF，退出 ripple..."))
  | .interrupted => (.again, s.note (Log.debug "接收到中断信号..."))
  | .failed (.input cause) =>
    (.failed (.input cause), s.note (Log.error s!"读取输入失败: {cause.message}"))
  | .failed fault | .unprepared fault => (.failed fault, s)

def turn (b : Behaviour) (e : Editor) (s : Shell) : Turn × Editor × Shell :=
  let (reading, e, s) := s.attend e
  let (result, s) := s.respond b reading
  (result, e, s)

def turns (b : Behaviour) : Nat → Editor → Shell → Except Fault Nat × Shell
  | 0, _, s => (.ok 0, s)
  | n + 1, e, s =>
    match s.turn b e with
    | (.again, e, s) => turns b n e s
    | (.stop code, _, s) => (.ok code, s)
    | (.failed fault, _, s) => (.error fault, s)

/-- Reads and handles lines to the end. Every turn but the last takes a line from what was read
ahead or is still to be read, so there are no more turns than bytes and one. -/
def loop (b : Behaviour) (e : Editor) (s : Shell) : Except Fault Nat × Shell :=
  turns b (e.reader.ahead.length + s.host.terminalIn.length + 1) e s

end PipeShell.Shell
