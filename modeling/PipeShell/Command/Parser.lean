import PipeShell.Command.Words

/-!
# From words to a job

The first word of a stage is its program, whatever it is. After it an operator word acts, and every
other word is an argument. A redirection takes the next word as its target, whatever that is, and
the pipe operator starts the next stage.
-/

namespace PipeShell

inductive Operator
  | redirect (channel : Channel) (append : Bool)
  | pipe
  | background
  deriving DecidableEq, Repr

def Operator.ofWord? (word : String) : Option Operator :=
  if word = ">" ∨ word = "1>" then some (.redirect .stdout false)
  else if word = ">>" ∨ word = "1>>" then some (.redirect .stdout true)
  else if word = "2>" then some (.redirect .stderr false)
  else if word = "2>>" then some (.redirect .stderr true)
  else if word = "|" then some .pipe
  else if word = "&" then some .background
  else none

namespace Command

def addArgument (c : Command) (word : String) : Command :=
  { c with arguments := c.arguments ++ [word] }

def redirect (c : Command) (channel : Channel) (target : Target) : Command :=
  { c with redirects := c.redirects.set channel target }

def stagesFrom (c : Command) : List String → Except SyntaxError (List Command)
  | [] => .ok [c]
  | word :: rest =>
    match Operator.ofWord? word with
    | none => stagesFrom (c.addArgument word) rest
    | some .background => stagesFrom { c with background := true } rest
    | some (.redirect channel append) =>
      match rest with
      | [] => .error (.missingTarget channel append)
      | path :: rest => stagesFrom (c.redirect channel ⟨path, append⟩) rest
    | some .pipe =>
      match rest with
      | [] => .error .missingStage
      | program :: rest => (stagesFrom { program := program } rest).map (c :: ·)

end Command

namespace Job

def ofWords : List String → Except SyntaxError Job
  | [] => .error .emptyInput
  | program :: rest => (Command.stagesFrom { program := program } rest).map ofStages

def ofLine (line : String) : Except SyntaxError (Option Job) :=
  match Command.words line with
  | .error e => .error e
  | .ok [] => .ok none
  | .ok ws => (ofWords ws).map some

end Job

end PipeShell
