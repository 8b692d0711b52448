import PipeShell.Text.Blank
import PipeShell.Text.Bytes

/-!
# The command history

The history keeps the last lines that were entered, at most `limit` of them, the oldest first. A
blank line is not kept, and neither is a line equal to the one before it. `appended` counts the
leading entries that are already in a file, and `generation` counts the changes of the list.
-/

namespace PipeShell

structure History where
  entries : List String := []
  limit : Nat
  appended : Nat := 0
  generation : Nat := 0
  file : Option String := none
  deriving Repr, DecidableEq

namespace History

def new (limit : Nat) : History := { limit := max limit 1 }

def withFile (limit : Nat) (file : String) : History := { new limit with file := some file }

def stripEnd (line : String) : String :=
  String.ofList (Text.dropTail (fun c => c == '\n' || c == '\r') line.toList)

def isBlankLine (line : String) : Bool := Text.allBlank line.toList

def accepts (h : History) (line : String) : Bool :=
  !isBlankLine line && h.entries.getLast? != some line

def truncate (h : History) : History :=
  let excess := h.entries.length - h.limit
  { h with entries := h.entries.drop excess, appended := h.appended - excess }

def push (h : History) (line : String) : History :=
  let h := { h with entries := h.entries ++ [line] }.truncate
  { h with generation := h.generation + 1 }

/-- Offers a line. The answer says whether it was kept. -/
def add (h : History) (line : String) : Bool × History :=
  let line := stripEnd line
  if h.accepts line then (true, h.push line) else (false, h)

def addAll (h : History) (lines : List String) : History :=
  lines.foldl (fun h line => (h.add line).2) h

def clear (h : History) : History :=
  { h with entries := [], appended := 0, generation := h.generation + 1 }

def markAppended (h : History) : History := { h with appended := h.entries.length }

def fresh (h : History) : List String := h.entries.drop (min h.appended h.entries.length)

def render (h : History) : String := String.join (h.entries.map (· ++ "\n"))

end History

end PipeShell
