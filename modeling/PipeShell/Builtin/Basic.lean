/-!
# Builtin commands

The commands that the shell carries out itself, with their names and the help that is shown for
each.
-/

namespace PipeShell

inductive Builtin
  | echo
  | exit
  | type
  | pwd
  | cd
  | history
  | help
  | clear
  deriving DecidableEq, Repr

namespace Builtin

def all : List Builtin := [.echo, .exit, .type, .pwd, .cd, .history, .help, .clear]

def name : Builtin → String
  | .echo => "echo"
  | .exit => "exit"
  | .type => "type"
  | .pwd => "pwd"
  | .cd => "cd"
  | .history => "history"
  | .help => "help"
  | .clear => "clear"

def usage : Builtin → String
  | .echo => "echo [-n] [args...] - Display the arguments. With -n no trailing newline is printed."
  | .exit => "exit [code] - Terminate the shell with an optional exit code (0-255)."
  | .type => "type [command...] - Display whether each command is a builtin or an executable."
  | .pwd => "pwd - Print the current working directory."
  | .cd => "cd [directory] - Change the current directory. Without a directory, change to the " ++
      "home directory."
  | .history => "history [n] | -c | -r file | -w file | -a file - Display or manage the command " ++
      "history. With n, show only the last n commands."
  | .help => "help [command] - Display information about builtin commands."
  | .clear => "clear - Clear the terminal screen."

def names : List String := all.map name

def ofName? (name : String) : Option Builtin := all.find? (·.name = name)

theorem ofName?_name (b : Builtin) : ofName? b.name = some b := by cases b <;> decide

end Builtin

end PipeShell
