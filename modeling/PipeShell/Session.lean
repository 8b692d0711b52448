import PipeShell.Settings.Basic
import PipeShell.Settings.DotEnv
import PipeShell.Shell.Loop

/-!
# Sessions

A session is one run of the shell: it reads its settings, opens its log, loads the history, handles
the lines of its input, and saves the history.
-/

namespace PipeShell.Session

def configure (h : Host) : Except Fault (Settings × Host) :=
  match DotEnv.load h.files Settings.variablesFile h.environment with
  | .error fault => .error fault
  | .ok env => .ok (Settings.ofEnvironment env, { h with environment := env })

def start (settings : Settings) (colours : Bool) (h : Host) : Shell where
  host := h
  streams := Streams.terminal
  history := History.withFile settings.historySize settings.historyFile
  theme := Theme.named settings.theme settings.prompt
  colours := colours

def loadHistory (s : Shell) : Shell :=
  let (kept, entries) := s.history.load s.host.files
  { s with history := kept, host := s.host.noteAll entries }

def saveHistory (s : Shell) : Shell :=
  let (kept, files, entries) := s.history.save s.host.files
  { s with history := kept, host := { s.host with files := files }.noteAll entries }

/-- Loads the history, handles the input, and saves the history. If the loop fails, the history is
not saved. -/
def serve (b : Behaviour) (s : Shell) : Except Fault Nat × Shell :=
  let s := loadHistory (s.note (Log.debug "初始化 ripple..."))
  let s := s.note (Log.debug "ripple 准备就绪...")
  match s.loop b (Shell.Editor.new s.host.environment) with
  | (.error e, s) => (.error e, s)
  | (.ok code, s) => (.ok code, (saveHistory s).note (Log.debug s!"退出 ripple, 退出码 {code}"))

def logPath (settings : Settings) (stamp : Stamp) : String :=
  Path.join settings.logDirectory (settings.name ++ "_" ++ stamp.date ++ ".log")

def openLog (settings : Settings) (h : Host) : Except OsError Unit × Host :=
  let level := Log.Level.ofText settings.logLevel
  match h.files.ensureDirectory settings.logDirectory with
  | (.error e, files) => (.error e, { h with files := files })
  | (.ok (), files) =>
    match files.openForWriting (logPath settings h.stamp) true with
    | .error e => (.error e, { h with files := files })
    | .ok (node, files) =>
      let h := { h with files := files, logFile := some ⟨level, node, settings.logToStderr⟩ }
      (.ok (), h.note (Log.debug s!"日志级别设置为: {level.name}"))

def printError (h : Host) (text : String) : Except OsError Unit × Host :=
  h.write .terminalErr (Text.encode (text ++ "\n"))

/-- Opens the log, and says so if that fails. The shell runs without a log then. -/
def startLog (settings : Settings) (h : Host) : Except Fault Unit × Host :=
  match openLog settings h with
  | (.ok (), h) => (.ok (), h)
  | (.error e, h) =>
    let (result, h) := printError h s!"ripple: failed to initialise logging: {e.message}"
    (result.mapError Fault.unreported, h)

/-- Output is not a terminal, so colours are only used when they are forced. -/
def wantsColours (env : Environment) : Bool :=
  match env.get? "CLICOLOR_FORCE" with
  | some value => value != "0"
  | none => false

def report (h : Host) : Fault → Host
  | .input cause => (printError h ("Error: Io(" ++ cause.details ++ ")")).2
  | .output cause => (printError h ("Error: " ++ cause.details)).2
  | .unreported _ | .splitCharacter | .badVariable .. => h

def run (b : Behaviour) (h : Host) : Nat × Host :=
  match configure h with
  | .error fault => (fault.code, report h fault)
  | .ok (settings, h) =>
    match startLog settings h with
    | (.error fault, h) => (fault.code, report h fault)
    | (.ok (), h) =>
      let h := h.note (Log.debug s!"配置加载成功 {settings.directory}")
      match serve b (start settings (wantsColours h.environment) h) with
      | (.ok code, s) => (code, s.host)
      | (.error fault, s) => (fault.code, report s.host fault)

end PipeShell.Session
