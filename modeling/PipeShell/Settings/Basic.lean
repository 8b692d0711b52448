import PipeShell.Environment
import PipeShell.Files.Path
import PipeShell.Text.Blank
import PipeShell.Text.Number

/-!
# Settings

What can be set about the shell, with its defaults, and how variables of the environment change it.
-/

namespace PipeShell

inductive EditMode
  | emacs
  | vi
  deriving DecidableEq, Repr

structure Settings where
  name : String
  directory : String
  prompt : String
  theme : String
  editor : String
  historyFile : String
  historySize : Nat
  completion : Bool
  logLevel : String
  logDirectory : String
  logToStderr : Bool
  deriving DecidableEq, Repr

namespace Settings

def defaultDirectory (env : Environment) : String :=
  match env.get? "HOME" with
  | some home => Path.join home ".config/ripple"
  | none => Path.join ((env.get? "TMPDIR").getD "/tmp") "ripple"

def defaults (directory : String) : Settings where
  name := "ripple"
  directory := directory
  prompt := "$ "
  theme := "default"
  editor := "emacs"
  historyFile := Path.join directory ".ripple_history"
  historySize := 1000
  completion := true
  logLevel := "info"
  logDirectory := Path.join directory "logs"
  logToStderr := false

/-- Lower case of ASCII letters. The words it is compared with hold ASCII letters other than `k`
only, and no other character has one of those as its lower case. -/
def lower (text : List Char) : String := String.ofList (text.map Char.toLower)

def readFlag (default : Bool) (text : String) : Bool :=
  let word := lower (Text.trim text.toList)
  if ["1", "on", "true", "yes"].contains word then true
  else if ["0", "off", "false", "no"].contains word then false
  else default

def readSize (default : Nat) (text : Option String) : Nat :=
  (text.bind fun t => Text.readNat? Text.max64 (Text.trim t.toList)).getD default

def ofEnvironment (env : Environment) : Settings :=
  let s := defaults (defaultDirectory env)
  { s with
    prompt := (env.get? "RIPPLE_PROMPT").getD s.prompt
    theme := (env.get? "RIPPLE_THEME").getD s.theme
    editor := (env.get? "RIPPLE_EDITOR").getD s.editor
    historyFile := ((env.get? "RIPPLE_HISTORY").map env.expandTilde).getD s.historyFile
    historySize := readSize s.historySize (env.get? "RIPPLE_HISTORY_SIZE")
    completion := ((env.get? "RIPPLE_COMPLETION").map (readFlag true)).getD s.completion
    logLevel := (env.get? "RIPPLE_LOG_LEVEL").getD s.logLevel
    logDirectory := ((env.get? "RIPPLE_LOG_DIR").map env.expandTilde).getD s.logDirectory
    logToStderr := ((env.get? "RIPPLE_LOG_STDERR").map (readFlag false)).getD s.logToStderr }

def editMode (s : Settings) : EditMode := if lower s.editor.toList = "vi" then .vi else .emacs

def variablesFile : String := ".env.development"

end Settings

end PipeShell
