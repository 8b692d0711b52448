import PipeShell.Command.Parser
import PipeShell.Shell.Execute

/-!
# Lines of input

A line is offered to the history, read as a job, and executed. A line that cannot be read is kept in
the history as well, so that it can be corrected.
-/

namespace PipeShell.Shell

def record (s : Shell) (line : String) : Shell := { s with history := (s.history.add line).2 }

def refuse (s : Shell) (line : String) (e : SyntaxError) : Shell :=
  let s := s.note (Log.warn s!"解析失败: {e.message} ({line})")
  s.complain (s.theme.styledError s.colours ("Error: " ++ e.message))

def handle (b : Behaviour) (line : String) (s : Shell) : Bool × Shell :=
  let s := s.record line
  match Job.ofLine line with
  | .ok (some job) => s.execute b job
  | .ok none => (true, s)
  | .error e => (true, s.refuse line e)

end PipeShell.Shell
