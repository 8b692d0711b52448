import PipeShell.History.File
import PipeShell.Host.Redirect
import PipeShell.Theme

/-!
# The state of the shell

The shell works on the host through three streams. It keeps the history and, once it was asked to
stop, the code to stop with.
-/

namespace PipeShell

structure Shell where
  host : Host
  streams : Streams
  history : History
  exitCode : Option Nat := none
  theme : Theme
  colours : Bool

namespace Shell

def note (s : Shell) (e : Log.Entry) : Shell := { s with host := s.host.note e }

@[simp] theorem streams_note (s : Shell) (e : Log.Entry) : (s.note e).streams = s.streams := rfl

@[simp] theorem history_note (s : Shell) (e : Log.Entry) : (s.note e).history = s.history := rfl

@[simp] theorem exitCode_note (s : Shell) (e : Log.Entry) : (s.note e).exitCode = s.exitCode := rfl

def sink (s : Shell) : Channel → Sink
  | .stdout => s.streams.out
  | .stderr => s.streams.err

def print (s : Shell) (channel : Channel) (text : String) : Except OsError Unit × Shell :=
  let (result, host) := s.host.say (s.sink channel) (Text.encode text)
  (result, { s with host := host })

def printAll (s : Shell) (channel : Channel) : List String → Except OsError Unit × Shell
  | [] => (.ok (), s)
  | text :: rest =>
    match s.print channel text with
    | (.error e, s) => (.error e, s)
    | (.ok (), s) => printAll s channel rest

/-- Writes out the line that was begun on a stream. Only the terminal's output is kept in lines. -/
def flush (s : Shell) (channel : Channel) : Except OsError Unit :=
  if s.sink channel = .terminalOut then s.host.flush else .ok ()

def printOut (s : Shell) (channel : Channel) (texts : List String) : Except OsError Unit × Shell :=
  match s.printAll channel texts with
  | (.error e, s) => (.error e, s)
  | (.ok (), s) => (s.flush channel, s)

def printLine (s : Shell) (channel : Channel) (text : String) : Except OsError Unit × Shell :=
  s.print channel (text ++ "\n")

def within {α : Type} (s : Shell) (r : Replacement) (body : Shell → α × Shell) : α × Shell :=
  let (a, t) := body { s with streams := s.streams.replace r }
  (a, { t with streams := s.streams })

@[simp] theorem streams_within {α : Type} (s : Shell) (r : Replacement)
    (body : Shell → α × Shell) : (s.within r body).2.streams = s.streams := rfl

/-- Writes a line about something that went wrong. If even that fails, the log is told. -/
def complain (s : Shell) (text : String) : Shell :=
  match s.printLine .stderr text with
  | (.ok (), s) => s
  | (.error e, s) => s.note (Log.error s!"无法输出错误信息: {e.message}")

def report (s : Shell) (f : Failure) : Shell := (s.note (Log.error f.message)).complain f.message

def findProgram (s : Shell) (name : String) : Option String × Shell :=
  let (found, host) := s.host.findProgram name
  (found, { s with host := host })

end Shell

end PipeShell
