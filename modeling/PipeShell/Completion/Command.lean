import PipeShell.Completion.Cursor
import PipeShell.Completion.FileName
import PipeShell.Search.Basic

/-!
# Completing commands

The first word of a line is completed to the name of a builtin or of a program on the search path.
Everything else is completed to a file name, and so is a first word with a slash.
-/

namespace PipeShell.Completion

def commandNames (files : Files) (searchPath : String) (builtins : List String) (start : String) :
    List String :=
  Text.distinctSorted
    (builtins.filter (Text.startsWith start) ++ Search.executables files searchPath start)

def commands (files : Files) (searchPath : String) (builtins : List String) (start : String) :
    List Candidate :=
  (commandNames files searchPath builtins start).map fun name => ⟨name, name ++ " "⟩

structure Completer where
  builtins : List String
  enabled : Bool
  deriving Repr, DecidableEq

/-- The start of what is replaced and the candidates for it. There is no answer if the cursor is
past the end of the line or inside a character. -/
def Completer.complete? (c : Completer) (files : Files) (env : Environment) (line : List Char)
    (pos : Nat) : Option (Nat × List Candidate) :=
  if !c.enabled then some (pos, [])
  else
    match Text.takeBytes? pos line with
    | none => none
    | some before =>
      let cursor := Cursor.ofBefore before
      if cursor.isFirst && !cursor.word.contains '/' then
        some (cursor.start,
          commands files env.searchPath c.builtins (String.ofList cursor.word))
      else some (fileNames files env before)

end PipeShell.Completion
