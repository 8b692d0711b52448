import PipeShell.Text.Blank
import PipeShell.Text.Bytes

/-!
# The word under the cursor

The cursor is a byte position in the line. The word under it starts after the last blank character
before it.
-/

namespace PipeShell.Completion

/-- The line before the cursor, cut where the word under the cursor starts. -/
structure Cursor where
  head : List Char
  word : List Char
  deriving DecidableEq, Repr

namespace Cursor

def ofBefore (before : List Char) : Cursor where
  head := Text.dropTail (fun c => !Text.isBlank c) before
  word := (before.reverse.takeWhile fun c => !Text.isBlank c).reverse

def at? (line : List Char) (pos : Nat) : Option Cursor := (Text.takeBytes? pos line).map ofBefore

def start (c : Cursor) : Nat := Text.size c.head

def isFirst (c : Cursor) : Bool := Text.allBlank c.head

end Cursor

end PipeShell.Completion
