import PipeShell.Text.Bytes

/-!
# Plain lines

A line of the log is plain text: control sequences for a terminal are left out of it, and so are
control characters other than blanks. A sequence begins with an escape character. What follows is
skipped until the sequence ends, except that a blank control inside a short sequence is kept. After
such a blank the text goes on, but the sequence is remembered: it is taken up again at the next
character that is left out, unless a character beyond ASCII stood in between.
-/

namespace PipeShell.Log

inductive Sequence
  | none
  | escape
  | intermediate
  | control
  | deviceEntry
  | deviceParameter
  | deviceIntermediate
  | body
  | command
  deriving DecidableEq, Repr

namespace Sequence

def isBlankControl (c : Char) : Bool := c = '\t' || c = '\n' || c = '\x0C' || c = '\r'

def shows (c : Char) : Bool := isBlankControl c || (0x20 ≤ c.toNat && c.toNat != 0x7F)

/-- A long text inside a sequence ends at the byte 9C, even inside a character. -/
def endsBody (c : Char) : Bool := (Text.encode c.toString).contains 0x9C

def isShort : Sequence → Bool
  | none | escape | intermediate | control => true
  | _ => false

def second (n : Nat) : Sequence :=
  if n < 0x20 || 0x7F ≤ n then escape
  else if n < 0x30 then intermediate
  else if n == 0x50 then deviceEntry
  else if n == 0x5B then control
  else if n == 0x5D then command
  else if n == 0x58 || n == 0x5E || n == 0x5F then body
  else none

def next (s : Sequence) (c : Char) : Sequence :=
  let n := c.toNat
  if n == 0x18 || n == 0x1A then none
  else if n == 0x1B then escape
  else match s with
    | none => none
    | escape => second n
    | intermediate => if 0x30 ≤ n && n < 0x7F then none else intermediate
    | control => if 0x40 ≤ n && n < 0x7F then none else control
    | deviceEntry =>
      if 0x40 ≤ n && n < 0x7F then body
      else if 0x30 ≤ n && n < 0x40 then deviceParameter
      else if 0x20 ≤ n && n < 0x30 then deviceIntermediate
      else deviceEntry
    | deviceParameter =>
      if 0x3C ≤ n && n < 0x7F then body
      else if 0x20 ≤ n && n < 0x30 then deviceIntermediate
      else deviceParameter
    | deviceIntermediate => if 0x30 ≤ n && n < 0x7F then body else deviceIntermediate
    | body => if endsBody c then none else body
    | command => if n == 0x07 then none else command

def keeps (s : Sequence) (kept : Bool) (c : Char) : Bool :=
  if kept || s = none then shows c else s.isShort && isBlankControl c

/-- The sequence after a character. One that is kept leaves it as it is, and a character beyond
ASCII closes it. -/
def after (s : Sequence) (kept : Bool) (c : Char) : Sequence :=
  if s.keeps kept c then (if c.toNat < 0x80 then s else none) else s.next c

end Sequence

/-- The characters of a line that are kept, inside the sequence `s`. Those found so far are kept
newest first. -/
def plainAux (s : Sequence) (kept : Bool) (found : List Char) : List Char → List Char
  | [] => found.reverse
  | c :: cs =>
    let keep := s.keeps kept c
    plainAux (s.after kept c) keep (if keep then c :: found else found) cs

def plain (line : String) : String := String.ofList (plainAux .none false [] line.toList)

end PipeShell.Log
