/-!
# Log levels

The level of a message against the level that the log lets through.
-/

namespace PipeShell.Log

inductive Level
  | off
  | error
  | warn
  | info
  | debug
  | trace
  deriving DecidableEq, Repr

namespace Level

def name : Level → String
  | .off => "OFF"
  | .error => "ERROR"
  | .warn => "WARN"
  | .info => "INFO"
  | .debug => "DEBUG"
  | .trace => "TRACE"

def rank : Level → Nat
  | .off => 0
  | .error => 1
  | .warn => 2
  | .info => 3
  | .debug => 4
  | .trace => 5

def passes (threshold message : Level) : Bool := message.rank ≤ threshold.rank

def ofText (text : String) : Level :=
  ([.off, .error, .warn, .info, .debug, .trace].find? fun level =>
    level.name = text.map Char.toUpper).getD .info

end Level

end PipeShell.Log
