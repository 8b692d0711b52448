import PipeShell.Program.Input

/-!
# Counting lines, words and bytes

The program `wc` writes a line of numbers for each file, and one for all files if there are several.
The numbers are as wide as the size of all files.
-/

namespace PipeShell.Program

structure Counts where
  lines : Nat := 0
  words : Nat := 0
  bytes : Nat := 0
  longest : Nat := 0

def Counts.add (m n : Counts) : Counts :=
  ⟨m.lines + n.lines, m.words + n.words, m.bytes + n.bytes, max m.longest n.longest⟩

structure Counting where
  counts : Counts := {}
  inWord : Bool := false
  column : Nat := 0

/-- Counts one more byte. A word needs a printable byte, and only those take up a column. -/
def Counting.step (s : Counting) (x : UInt8) : Counting :=
  let counts := { s.counts with
    bytes := s.counts.bytes + 1
    lines := if x == 0x0A then s.counts.lines + 1 else s.counts.lines
    words := if isSpaceByte x && s.inWord then s.counts.words + 1 else s.counts.words }
  let column := if x == 0x0A || x == 0x0D || x == 0x0C then 0
    else if x == 0x09 then s.column / 8 * 8 + 8
    else if isPrintable x then s.column + 1
    else s.column
  { counts := { counts with longest := max counts.longest column }
    inWord := !isSpaceByte x && (s.inWord || isPrintable x)
    column := column }

def countAll (b : Bytes) : Counts :=
  let s := b.foldl Counting.step {}
  if s.inWord then { s.counts with words := s.counts.words + 1 } else s.counts

def countKinds : List Char := ['l', 'w', 'm', 'c', 'L']

def countLine (width : Nat) (kinds : List Char) (n : Counts) (name : Bytes) : Bytes :=
  let column := fun (k : Char) => match k with
    | 'l' => n.lines
    | 'w' => n.words
    | 'L' => n.longest
    | _ => n.bytes
  Text.encode (" ".intercalate (kinds.map fun k => padLeft width (toString (column k)))) ++
    (if name.isEmpty then [] else 0x20 :: name) ++ [0x0A]

def wcOptions : OptionTable where
  plain := "clLmw"
  words := [⟨"bytes", 'c', false⟩, ⟨"chars", 'm', false⟩, ⟨"lines", 'l', false⟩,
    ⟨"words", 'w', false⟩, ⟨"debug", 'D', false⟩, ⟨"files0-from", 'F', true⟩,
    ⟨"max-line-length", 'L', false⟩, ⟨"total", 'T', true⟩]

def countWidth (c : Call) (kinds : List Char) (files : List (String × Except OsError Flow)) : Nat :=
  let sizes := files.filterMap fun f => match f.2 with
    | .ok flow => if f.1 = "-" then c.extent else some flow.bytes.length
    | .error _ => none
  let odd := files.any fun f => (f.1 = "-" && c.extent.isNone) || match f.2 with
    | .error .isDirectory => true
    | _ => false
  let digits := (toString (sizes.foldl (· + ·) 0)).length
  if files.length == 1 && kinds.length == 1 then 1 else if odd then max 7 digits else digits

def wc (h : Host) (c : Call) : Report :=
  match wcOptions.read c.arguments with
  | .error e => badOption c 1 e
  | .ok o =>
    let files := gather h c o.operands
    let asked := countKinds.filter o.has
    let kinds := if asked.isEmpty then ['l', 'w', 'c'] else asked
    let width := countWidth c kinds files
    let step := fun (acc : List (Channel × Bytes) × Counts × Nat)
        (file : String × Except OsError Flow) =>
      let (writes, total, code) := acc
      let name := if o.operands.isEmpty then [] else shown file.1
      match file.2 with
      | .error .isDirectory =>
        (writes ++ [complain c "" (shown file.1) ": Is a directory",
          (.stdout, countLine width kinds {} name)], total, 1)
      | .error e => (writes ++ [complain c "" (shown file.1) (": " ++ e.reason)], total, 1)
      | .ok flow =>
        let n := countAll flow.bytes
        (writes ++ [(.stdout, countLine width kinds n name)], total.add n, code)
    let (writes, total, code) := files.foldl step ([], {}, 0)
    let writes := if 1 < files.length then
      writes ++ [(.stdout, countLine width kinds total (Text.encode "total"))] else writes
    { writes := writes, code := code, unread := leftover c o.operands }

end PipeShell.Program
