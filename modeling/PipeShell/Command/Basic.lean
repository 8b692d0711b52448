/-!
# Commands

A command is a program with its arguments, where its two output channels go, and whether it was
asked to run in the background. A job is one command, or a pipeline of several stages.
-/

namespace PipeShell

inductive Channel
  | stdout
  | stderr
  deriving DecidableEq, Repr

structure Target where
  path : String
  append : Bool
  deriving DecidableEq, Repr

structure Redirects where
  stdout : Option Target := none
  stderr : Option Target := none
  deriving DecidableEq, Repr

namespace Redirects

def hasStdout (r : Redirects) : Bool := r.stdout.isSome

def hasStderr (r : Redirects) : Bool := r.stderr.isSome

def hasAny (r : Redirects) : Bool := r.hasStdout || r.hasStderr

def set (r : Redirects) (channel : Channel) (target : Target) : Redirects :=
  match channel with
  | .stdout => { r with stdout := some target }
  | .stderr => { r with stderr := some target }

end Redirects

structure Command where
  program : String
  arguments : List String := []
  redirects : Redirects := {}
  background : Bool := false
  deriving DecidableEq, Repr

inductive Job
  | command (c : Command)
  | pipeline (stages : List Command)
  deriving DecidableEq, Repr

namespace Job

def stages : Job → List Command
  | .command c => [c]
  | .pipeline cs => cs

def ofStages : List Command → Job
  | [c] => .command c
  | cs => .pipeline cs

@[simp] theorem stages_ofStages (cs : List Command) : (ofStages cs).stages = cs := by
  unfold ofStages
  split <;> rfl

end Job

inductive SyntaxError
  | unclosedDouble
  | unclosedSingle
  | trailingEscape
  | emptyInput
  | missingTarget (channel : Channel) (append : Bool)
  | missingStage
  deriving DecidableEq, Repr

namespace SyntaxError

def message : SyntaxError → String
  | .unclosedDouble => "Unclosed double quotation mark"
  | .unclosedSingle => "Unclosed single quotation mark"
  | .trailingEscape => "Trailing escape character"
  | .emptyInput => "Tokens cannot be empty"
  | .missingTarget .stdout false => "Missing target for stdout redirection"
  | .missingTarget .stdout true => "Missing target for stdout append redirection"
  | .missingTarget .stderr false => "Missing target for stderr redirection"
  | .missingTarget .stderr true => "Missing target for stderr append redirection"
  | .missingStage => "Missing target for pipeline"

end SyntaxError

end PipeShell
