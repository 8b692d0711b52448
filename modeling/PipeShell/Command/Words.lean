import PipeShell.Command.Basic

/-!
# Words of a line

The reader goes through a line one character at a time. It keeps the words it has finished, the
word it is in, and its mode: between quotes or not, and whether a backslash waits for its
character. Operators are ordinary words here. A word that comes out empty is dropped.
-/

namespace PipeShell

inductive Mode
  | plain
  | escaped
  | single
  | double
  | doubleEscaped
  deriving DecidableEq, Repr

/-- The state of the word reader. `pending` and `done` are kept newest first. -/
structure WordReader where
  mode : Mode := .plain
  pending : List Char := []
  done : List (List Char) := []
  deriving DecidableEq, Repr

namespace WordReader

def isSeparator (c : Char) : Bool := c == ' ' || c == '\t' || c == '\n' || c == '\r'

/-- Between double quotes a backslash is dropped only before these. -/
def isDoubleEscapable (c : Char) : Bool :=
  c == '$' || c == Char.ofNat 0x60 || c == '"' || c == '\\'

def push (r : WordReader) (c : Char) : WordReader := { r with pending := c :: r.pending }

def finishWord (r : WordReader) : WordReader :=
  if r.pending.isEmpty then r else { r with pending := [], done := r.pending.reverse :: r.done }

def enter (r : WordReader) (mode : Mode) : WordReader := { r with mode := mode }

def step (r : WordReader) (c : Char) : WordReader :=
  match r.mode with
  | .plain =>
    if c == '\\' then r.enter .escaped
    else if c == '"' then r.enter .double
    else if c == '\x27' then r.enter .single
    else if isSeparator c then r.finishWord
    else r.push c
  | .escaped => (r.push c).enter .plain
  | .single => if c == '\x27' then r.enter .plain else r.push c
  | .double =>
    if c == '\\' then r.enter .doubleEscaped
    else if c == '"' then r.enter .plain
    else r.push c
  | .doubleEscaped =>
    if isDoubleEscapable c then (r.push c).enter .double
    else ((r.push '\\').push c).enter .double

def scan (r : WordReader) (line : List Char) : WordReader := line.foldl step r

/-- At the end of a line no quote may be open and no backslash may wait. -/
def finish (r : WordReader) : Except SyntaxError (List (List Char)) :=
  match r.mode with
  | .plain => .ok r.finishWord.done.reverse
  | .escaped => .error .trailingEscape
  | .single => .error .unclosedSingle
  | .double | .doubleEscaped => .error .unclosedDouble

end WordReader

namespace Command

def wordsOf (line : List Char) : Except SyntaxError (List (List Char)) :=
  (WordReader.scan {} line).finish

def words (line : String) : Except SyntaxError (List String) :=
  (wordsOf line.toList).map (·.map String.ofList)

end Command

end PipeShell
