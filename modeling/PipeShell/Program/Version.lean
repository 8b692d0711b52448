import PipeShell.Program.Input

/-!
# The order of versions

Names with numbers in them are ordered so that a greater number comes later, whatever its count of
digits. Endings such as `.tar.gz` decide only where the rest agrees.
-/

namespace PipeShell.Program.Version

def isLetter (x : UInt8) : Bool := 0x61 ≤ lowerByte x && lowerByte x ≤ 0x7A

/-- The rank of what stands at a place: a tilde, the end, a digit, a letter, anything else. -/
def rank : Option UInt8 → Int
  | none => -1
  | some x =>
    if isDigitByte x then 0
    else if isLetter x then Int.ofNat x.toNat
    else if x == 0x7E then -2
    else Int.ofNat (x.toNat + 256)

def startsDigit (b : Bytes) : Bool := b.head?.any isDigitByte

def compareText : Nat → Bytes → Bytes → Except Ordering (Bytes × Bytes)
  | 0, a, b => .ok (a, b)
  | n + 1, a, b =>
    if (a.isEmpty || startsDigit a) && (b.isEmpty || startsDigit b) then .ok (a, b)
    else if rank a.head? == rank b.head? then compareText n (a.drop 1) (b.drop 1)
    else .error (compare (rank a.head?) (rank b.head?))

def compareParts : Nat → Bytes → Bytes → Ordering
  | 0, _, _ => .eq
  | n + 1, a, b =>
    if a.isEmpty && b.isEmpty then .eq
    else
      match compareText (a.length + b.length + 1) a b with
      | .error order => order
      | .ok (a, b) =>
        let a := a.dropWhile (· == 0x30)
        let b := b.dropWhile (· == 0x30)
        let m := a.takeWhile isDigitByte
        let k := b.takeWhile isDigitByte
        let value := fun (ds : Bytes) => ds.foldl (fun v d => v * 10 + (d.toNat - 48)) 0
        match compare (value m) (value k) with
        | .eq => compareParts n (a.drop m.length) (b.drop k.length)
        | order => order

def isEnding : Bytes → Bool
  | [] => true
  | [x] => isLetter x || isDigitByte x || x == 0x7E
  | x :: y :: rest =>
    if x == 0x2E then (isLetter y || y == 0x7E) && isEnding rest
    else (isLetter x || isDigitByte x || x == 0x7E) && isEnding (y :: rest)

/-- What comes before the longest run of endings. The second argument is what was passed already,
newest first. -/
def stem : Bytes → Bytes → Bytes
  | [], passed => passed.reverse
  | x :: rest, passed =>
    if x == 0x2E && !passed.isEmpty && !rest.isEmpty && isEnding (x :: rest) then passed.reverse
    else stem rest (x :: passed)

def order (a b : Bytes) : Ordering :=
  let dots := fun (x : Bytes) => if x == [0x2E] then 0 else if x == [0x2E, 0x2E] then 1 else 2
  let parts := fun (a b : Bytes) => compareParts (a.length + b.length + 1) a b
  match a, b with
  | [], [] => .eq
  | [], _ => .lt
  | _, [] => .gt
  | x :: _, y :: _ =>
    if x == 0x2E && y != 0x2E then .lt
    else if x != 0x2E && y == 0x2E then .gt
    else if x == 0x2E && (dots a != 2 || dots b != 2) then compare (dots a) (dots b)
    else (parts (stem a []) (stem b [])).then (parts a b)

end PipeShell.Program.Version
