import PipeShell.Fault
import PipeShell.Host.Basic
import PipeShell.Text.Grapheme

/-!
# Reading lines

Lines are read from the terminal's input in blocks. What was read past the end of a line is kept for
the next one, and programs that the shell starts in between do not see it.

A line ends at a line feed, and one carriage return before that is dropped. Then every backspace
takes away the cluster of characters before it. The number of bytes to take away is kept in one
byte, so that only the end of a cluster of 256 bytes or more goes away. That must not cut into a
character. The text of a line has to be UTF-8.
-/

namespace PipeShell

structure LineReader where
  ahead : Bytes := []
  deriving DecidableEq, Repr

namespace LineReader

def blockSize : Nat := 8192

def feed : UInt8 := 0x0A

def fill (ahead input : Bytes) : Bytes × Bytes :=
  if ahead.contains feed then (ahead, input)
  else
    match input with
    | [] => (ahead, [])
    | x :: rest =>
      fill (ahead ++ (x :: rest).take blockSize) (rest.drop (blockSize - 1))
termination_by input.length
decreasing_by simp only [List.length_drop, List.length_cons]; omega

def next (r : LineReader) (h : Host) : Option Bytes × LineReader × Host :=
  let (ahead, input) := fill r.ahead h.terminalIn
  let line := ahead.takeWhile (· ≠ feed)
  let size := line.length + 1
  (if ahead.isEmpty then none else some (ahead.take size), ⟨ahead.drop size⟩,
    { h with terminalIn := input })

/-- A line without its end. A carriage return belongs to the end only before a line feed. -/
def trimEnd (cs : List Char) : List Char :=
  if cs.getLast? = some '\n' then Text.dropReturn cs.dropLast else cs

def backspace : Char := Char.ofNat 8

def dropBytes? : Nat → List Char → Option (List Char)
  | 0, cs => some cs
  | _ + 1, [] => some []
  | n + 1, c :: cs => if Text.width c ≤ n + 1 then dropBytes? (n + 1 - Text.width c) cs else none

/-- Carries out backspaces. The text that is left is kept newest first, and so are the sizes of its
clusters, each as one byte. -/
def erase (kept : List Char) (sizes : List UInt8) : List (List Char) → Option (List Char)
  | [] => some kept
  | cluster :: rest =>
    if cluster = [backspace] then
      match sizes with
      | [] => erase kept [] rest
      | size :: sizes =>
        match dropBytes? size.toNat kept with
        | none => none
        | some kept => erase kept sizes rest
    else
      erase (cluster.reverse ++ kept) (UInt8.ofNat (Text.size cluster) :: sizes) rest

def applyBackspaces? (cs : List Char) : Option (List Char) :=
  (erase [] [] (Text.Grapheme.clusters cs)).map List.reverse

def text (line : Bytes) : Except Fault String :=
  match Text.decode? line with
  | none => .error (.input .invalidText)
  | some s =>
    match applyBackspaces? (trimEnd s.toList) with
    | none => .error .splitCharacter
    | some cs => .ok (String.ofList cs)

end LineReader

end PipeShell
