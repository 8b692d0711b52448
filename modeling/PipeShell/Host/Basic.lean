import PipeShell.Environment
import PipeShell.Files.Change
import PipeShell.Log.Entry
import PipeShell.Log.Plain
import PipeShell.Command.Basic
import PipeShell.Search.Cache
import PipeShell.Streams.Basic
import PipeShell.Text.Escaped

/-!
# The host

Everything outside of the shell itself: the file tree, open files, buffers, the terminal, the
environment, and the processes that the shell has started. A process that was started stands in
`started` until it is run or killed. Time passes only while programs sleep.

The terminal can refuse output: a full device does, and so does a pipe that nobody reads. The shell
writes its output in lines. What it could not write of a line it keeps, and until the line is
complete, nobody is told.
-/

namespace PipeShell

/-- A file opened for writing. Appending ignores the offset. -/
structure OpenFile where
  node : Inode
  offset : Nat
  append : Bool
  deriving DecidableEq, Repr

/-- What is in a pipe: some bytes, and then perhaps others over and over again. -/
structure Flow where
  bytes : Bytes := []
  endless : Option Bytes := none
  deriving DecidableEq, Repr

inductive Inlet
  | null
  | terminal
  | bytes (data : Bytes)
  | pipe (process : Nat)
  deriving DecidableEq, Repr

inductive Outlet
  | sink (s : Sink)
  | pipe (process : Nat)
  deriving DecidableEq, Repr

structure Process where
  number : Nat
  program : String
  argv : List String
  input : Inlet
  out : Outlet
  err : Outlet
  deriving DecidableEq, Repr

inductive Status
  | exited (code : Nat)
  | signalled (signal : Nat)
  deriving DecidableEq, Repr

structure LogFile where
  threshold : Log.Level
  node : Inode
  toStderr : Bool
  deriving DecidableEq, Repr

structure Stamp where
  process : String
  date : String
  time : String
  deriving DecidableEq, Repr

/-- Why the terminal takes no more output, with the part of a line that is kept for it. -/
structure Blocked where
  cause : OsError
  begun : Bytes := []
  deriving DecidableEq, Repr

def lineLimit : Nat := 1024

def Blocked.fits (b : Blocked) (data : Bytes) : Bool :=
  !data.contains 0x0A && data.length < lineLimit && b.begun.length + data.length ≤ lineLimit

structure Host where
  files : Files
  environment : Environment := []
  cache : Search.Cache := {}
  opened : Array OpenFile := #[]
  buffers : Array Bytes := #[]
  terminalIn : Bytes := []
  terminalSize : Option Nat := none
  terminalOut : Bytes := []
  terminalErr : Bytes := []
  blockedOut : Option Blocked := none
  blockedErr : Option OsError := none
  processes : Nat := 0
  started : List Process := []
  pipes : List (Nat × Flow) := []
  statuses : List (Nat × Status) := []
  clock : Nat := 0
  background : List Nat := []
  logFile : Option LogFile := none
  stamp : Stamp := ⟨"1", "1970-01-01", "00:00:00"⟩
  deriving Repr

namespace Host

def newBuffer (h : Host) : Sink × Host :=
  (.buffer h.buffers.size, { h with buffers := h.buffers.push [] })

def openFile (h : Host) (target : Target) : Except OsError Sink × Host :=
  match h.files.openForWriting target.path target.append with
  | .error e => (.error e, h)
  | .ok (node, files) =>
    (.ok (.file h.opened.size),
      { h with files := files, opened := h.opened.push ⟨node, 0, target.append⟩ })

def writeFile (h : Host) (handle : Nat) (data : Bytes) : Except OsError Unit × Host :=
  match h.opened[handle]? with
  | none => (.ok (), h)
  | some file =>
    match h.files.writeAt file.node (if file.append then none else some file.offset) data with
    | (.error e, files) => (.error e, { h with files := files })
    | (.ok offset, files) =>
      (.ok (), { h with
        files := files
        opened := h.opened.setIfInBounds handle { file with offset := offset } })

def takes (h : Host) : Sink → Bool
  | .terminalOut => h.blockedOut.isNone
  | .terminalErr => h.blockedErr.isNone
  | .file _ | .buffer _ => true

/-- What becomes of a write that is refused. Nothing at all can always be written. -/
def refusal (cause : OsError) (data : Bytes) : Except OsError Unit :=
  if data.isEmpty then .ok () else .error cause

def write (h : Host) (sink : Sink) (data : Bytes) : Except OsError Unit × Host :=
  match sink with
  | .terminalOut =>
    match h.blockedOut with
    | some b => (refusal b.cause data, h)
    | none => (.ok (), { h with terminalOut := h.terminalOut ++ data })
  | .terminalErr =>
    match h.blockedErr with
    | some cause => (refusal cause data, h)
    | none => (.ok (), { h with terminalErr := h.terminalErr ++ data })
  | .file handle => h.writeFile handle data
  | .buffer n =>
    (.ok (), { h with buffers := h.buffers.modify n (· ++ data) })

/-- What the shell itself writes. The begun line that a terminal does not take is kept. -/
def say (h : Host) (sink : Sink) (data : Bytes) : Except OsError Unit × Host :=
  match sink, h.blockedOut with
  | .terminalOut, some b =>
    if b.fits data then
      (.ok (), { h with blockedOut := some { b with begun := b.begun ++ data } })
    else h.write sink data
  | _, _ => h.write sink data

/-- Writes out the line that the shell has begun. It is only there if the terminal refused it. -/
def flush (h : Host) : Except OsError Unit :=
  match h.blockedOut with
  | some b => refusal b.cause b.begun
  | none => .ok ()

def contents (h : Host) : Sink → Bytes
  | .buffer n => h.buffers[n]?.getD []
  | _ => []

def take (h : Host) (sink : Sink) : Bytes × Host :=
  match sink with
  | .buffer n => (h.contents sink, { h with buffers := h.buffers.setIfInBounds n [] })
  | _ => ([], h)

def read (h : Host) (source : Source) (n : Nat) : Bytes × Source × Host :=
  match source with
  | .terminal => (h.terminalIn.take n, .terminal, { h with terminalIn := h.terminalIn.drop n })
  | .buffer unread => (unread.take n, .buffer (unread.drop n), h)

def logLine (stamp : Stamp) (e : Log.Entry) : String :=
  Log.plain ("[PID:" ++ stamp.process ++ "][" ++ e.level.name ++ "] " ++ stamp.date ++ " " ++
    stamp.time ++ " - " ++ e.text ++ "\n")

def note (h : Host) (e : Log.Entry) : Host :=
  match h.logFile with
  | none => h
  | some log =>
    if log.threshold.passes e.level then
      let line := Text.encode (logLine h.stamp e)
      match h.files.writeAt log.node none line with
      | (.error _, files) => { h with files := files }
      | (.ok _, files) =>
        { h with
          files := files
          terminalErr :=
            if log.toStderr && h.takes .terminalErr then h.terminalErr ++ line
            else h.terminalErr }
    else h

def noteAll (h : Host) (es : List Log.Entry) : Host := es.foldl note h

def searchEntry : Search.Event → Log.Entry
  | .forgot => Log.debug "PATH 已变化，清空可执行文件缓存"
  | .searched name found =>
    Log.debug ("查找可执行文件: " ++ name ++ " -> " ++ Text.escaped? found)

def findProgram (h : Host) (name : String) : Option String × Host :=
  let path := h.environment.searchPath
  let events := h.cache.events h.files path name
  let (found, cache) := h.cache.lookup h.files path name
  (found, { h with cache := cache }.noteAll (events.map searchEntry))

end Host

end PipeShell
