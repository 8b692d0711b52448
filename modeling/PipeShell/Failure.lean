import PipeShell.OsError

/-!
# Failures of commands

Why a command of a line could not do its work, with the wording that is shown for it.
-/

namespace PipeShell

inductive Failure
  | notFound (program : String)
  | process (program : String) (cause : OsError)
  | redirect (path : String) (cause : OsError)
  | builtin (program : String) (cause : OsError)
  deriving DecidableEq, Repr

def Failure.message : Failure → String
  | .notFound program => program ++ ": command not found"
  | .process program cause => "Error executing '" ++ program ++ "': " ++ cause.message
  | .redirect path cause => path ++ ": " ++ cause.message
  | .builtin program cause => program ++ ": " ++ cause.message

end PipeShell
