import PipeShell.Text.Bytes

/-!
# File names in messages

Programs put a file name between quotes when it could be misread. What cannot be printed as ASCII
is written as escapes of its bytes.
-/

namespace PipeShell.Program

def isDelicate (x : UInt8) : Bool :=
  (" !\"$&()*;<=>[^|\\'?".toList ++ [Char.ofNat 0x60]).any fun c => c.toNat == x.toNat

def isPrintable (x : UInt8) : Bool := 0x20 ≤ x && x < 0x7F

def needsQuotes (name : Bytes) : Bool :=
  name.isEmpty || name.any (fun x => isDelicate x || !isPrintable x) ||
    name.head? == some 0x23 || name.head? == some 0x7E || name == [0x7B] || name == [0x7D]

def escapeByte (x : UInt8) : Bytes :=
  let letter := fun (c : Char) => [0x5C, UInt8.ofNat c.toNat]
  if x == 0x07 then letter 'a'
  else if x == 0x08 then letter 'b'
  else if x == 0x0C then letter 'f'
  else if x == 0x0A then letter 'n'
  else if x == 0x0D then letter 'r'
  else if x == 0x09 then letter 't'
  else if x == 0x0B then letter 'v'
  else
    let n := x.toNat
    0x5C :: [n / 64, n / 8 % 8, n % 8].map fun d => UInt8.ofNat (d + 48)

def quoteBody : Bool → Bytes → Bytes
  | _, [] => []
  | escaping, x :: rest =>
    if isPrintable x then
      (if escaping then [0x27, 0x27] else []) ++
        (if x == 0x27 then [0x27, 0x5C, 0x27, 0x27] else [x]) ++ quoteBody false rest
    else (if escaping then [] else [0x27, 0x24, 0x27]) ++ escapeByte x ++ quoteBody true rest

def quoted (name : String) : Bytes :=
  let b := Text.encode name
  let double := b.contains 0x27 && b.all fun x =>
    isPrintable x && !([0x22, 0x24, 0x60, 0x5C, 0x21] : Bytes).contains x
  if double then 0x22 :: (b ++ [0x22]) else 0x27 :: (quoteBody false b ++ [0x27])

def shown (name : String) : Bytes :=
  if needsQuotes (Text.encode name) then quoted name else Text.encode name

end PipeShell.Program
