import PipeShell.Log.Level

/-!
# Log entries

What the parts of the shell have to say to the log. Whether an entry is written is decided by the
log itself.
-/

namespace PipeShell.Log

structure Entry where
  level : Level
  text : String
  deriving Repr, DecidableEq

def debug (text : String) : Entry := ⟨.debug, text⟩

def warn (text : String) : Entry := ⟨.warn, text⟩

def error (text : String) : Entry := ⟨.error, text⟩

end PipeShell.Log
