import PipeShell.OsError

/-!
# Faults of sessions

Why a session broke off. A line that cannot be read is reported, and so is output that cannot be
written out before a line is read. The other faults end the session where they arise. Nothing is
saved after any of them.
-/

namespace PipeShell

inductive Fault
  | input (cause : OsError)
  | output (cause : OsError)
  | unreported (cause : OsError)
  | splitCharacter
  | badVariable (name value : String)
  deriving DecidableEq, Repr

def Fault.code : Fault → Nat
  | .input _ | .output _ => 1
  | .unreported _ | .splitCharacter | .badVariable .. => 101

end PipeShell
