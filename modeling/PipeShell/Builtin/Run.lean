import PipeShell.Builtin.Basic
import PipeShell.Shell.Basic
import PipeShell.Text.Number

/-!
# What the builtin commands do

A builtin command answers whether the shell goes on, or with the error that kept it from writing.
Only `exit` answers that the shell does not go on. Lines are written in the parts that they are put
together from, since a terminal that takes nothing is only noticed at the end of a line.
-/

namespace PipeShell

def goOn (r : Except OsError Unit × Shell) : Except OsError Bool × Shell :=
  (r.1.map fun _ => true, r.2)

namespace Builtin

def runEcho (arguments : List String) (s : Shell) : Except OsError Bool × Shell :=
  match arguments with
  | "-n" :: words => goOn (s.printOut .stdout [" ".intercalate words])
  | words => goOn (s.printOut .stdout [" ".intercalate words, "\n"])

def exitCode (arguments : List String) : Nat :=
  match arguments.head?.bind fun word => Text.readInt? Text.maxSigned32 word.toList with
  | some n => if 0 ≤ n ∧ n ≤ 255 then n.toNat else 0
  | none => 0

def runExit (arguments : List String) (s : Shell) : Except OsError Bool × Shell :=
  let code := exitCode arguments
  (.ok false, { s.note (Log.debug s!"请求退出, 退出码: {code}") with exitCode := some code })

def describe (name : String) (s : Shell) : List String × Shell :=
  if (ofName? name).isSome then ([name, " is a shell builtin\n"], s)
  else
    match s.findProgram name with
    | (some path, s) => ([name, " is ", path, "\n"], s)
    | (none, s) => ([name, " not found\n"], s)

def runType : List String → Shell → Except OsError Bool × Shell
  | [], s => (.ok true, s)
  | name :: rest, s =>
    let (texts, s) := describe name s
    match s.printAll .stdout texts with
    | (.error e, s) => (.error e, s)
    | (.ok (), s) => runType rest s

def runPwd (s : Shell) : Except OsError Bool × Shell :=
  match s.host.files.workingPath with
  | .error e => (.error e, s)
  | .ok path => goOn (s.printAll .stdout [path, "\n"])

/-- Changes the working directory. A failure is told to the user and is none of the command. -/
def runCd (arguments : List String) (s : Shell) : Except OsError Bool × Shell :=
  let path := s.host.environment.expandTilde (arguments.head?.getD "~")
  match s.host.files.changeDirectory path with
  | .ok files =>
    (.ok true, { s with host := { s.host with files := files } }.note (Log.debug s!"切换目录: {path}"))
  | .error .noEntry => goOn (s.printLine .stderr s!"cd: {path}: No such file or directory")
  | .error e => goOn (s.printLine .stderr s!"cd: {e.message}")

def withHistoryFile (verb : String) (file : Option String)
    (action : String → Shell → Except OsError Unit × Shell) (s : Shell) :
    Except OsError Bool × Shell :=
  match file with
  | none => goOn (s.printAll .stdout ["Filename to ", verb, " history is required.\n"])
  | some file =>
    match action file s with
    | (.ok (), s) => (.ok true, s)
    | (.error e, s) => goOn (s.printLine .stderr s!"history: {file}: {e.message}")

def readHistory (file : String) (s : Shell) : Except OsError Unit × Shell :=
  let (result, kept) := s.history.readFrom s.host.files file
  (result.map fun _ => (), { s with history := kept })

def writeHistory (file : String) (s : Shell) : Except OsError Unit × Shell :=
  let (result, kept, files) := s.history.writeTo s.host.files file
  (result, { s with history := kept, host := { s.host with files := files } })

def appendHistory (file : String) (s : Shell) : Except OsError Unit × Shell :=
  let (result, kept, files) := s.history.appendTo s.host.files file
  (result.map fun _ => (), { s with history := kept, host := { s.host with files := files } })

/-- The entries with their numbers. A positive number as an argument keeps only that many of the
last ones. -/
def listing (entries : List String) (count : Option String) : List String :=
  let asked := (count.bind fun word => Text.readNat? Text.max64 word.toList).filter (0 < ·)
  let start := (asked.map (entries.length - ·)).getD 0
  (entries.zipIdx.drop start).flatMap fun (line, i) => ["    ", toString (i + 1), "  ", line, "\n"]

def runHistory (arguments : List String) (s : Shell) : Except OsError Bool × Shell :=
  match arguments with
  | "-c" :: _ | "--clear" :: _ =>
    goOn ({ s with history := s.history.clear }.printLine .stdout "History cleared.")
  | "-r" :: rest => withHistoryFile "read" rest.head? readHistory s
  | "-w" :: rest => withHistoryFile "write" rest.head? writeHistory s
  | "-a" :: rest => withHistoryFile "append" rest.head? appendHistory s
  | _ =>
    if s.history.entries.isEmpty then goOn (s.printLine .stdout "No history available.")
    else goOn (s.printAll .stdout (listing s.history.entries arguments.head?))

def overview : List String :=
  "Available built-in commands:\n" ::
    ((names.mergeSort (· ≤ ·)).flatMap fun name => ["  ", name, "\n"]) ++
    ["\nType 'help <command>' for more information on a specific command.\n"]

def runHelp (arguments : List String) (s : Shell) : Except OsError Bool × Shell :=
  match arguments with
  | [] => goOn (s.printAll .stdout overview)
  | name :: _ =>
    match ofName? name with
    | some builtin => goOn (s.printAll .stdout [builtin.usage, "\n"])
    | none => goOn (s.printAll .stdout ["help: no help found for '", name, "'\n"])

def runClear (s : Shell) : Except OsError Bool × Shell :=
  goOn (s.printOut .stdout ["\x1b[H\x1b[2J\n"])

def run (builtin : Builtin) (arguments : List String) (s : Shell) : Except OsError Bool × Shell :=
  match builtin with
  | .echo => runEcho arguments s
  | .exit => runExit arguments s
  | .type => runType arguments s
  | .pwd => runPwd s
  | .cd => runCd arguments s
  | .history => runHistory arguments s
  | .help => runHelp arguments s
  | .clear => runClear s

end Builtin

end PipeShell
