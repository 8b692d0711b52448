/-!
# Bytes and text

Streams and files carry bytes, words and names are text. `encode` writes a text as UTF-8, `decode?`
reads it back and refuses anything else, and `decodeLossy` reads what it can and puts one
replacement character in the place of each longest start of an ill-formed sequence.
-/

namespace PipeShell

abbrev Bytes := List UInt8

namespace Text

def encode (s : String) : Bytes := s.toUTF8.data.toList

def decode? (b : Bytes) : Option String := String.fromUTF8? ⟨b.toArray⟩

def width (c : Char) : Nat := c.utf8Size

def size (cs : List Char) : Nat := cs.foldr (fun c n => width c + n) 0

@[simp] theorem size_nil : size [] = 0 := rfl

@[simp] theorem size_cons (c : Char) (cs : List Char) : size (c :: cs) = width c + size cs := rfl

theorem size_append (cs ds : List Char) : size (cs ++ ds) = size cs + size ds := by
  induction cs with
  | nil => simp
  | cons c cs ih => simp only [List.cons_append, size_cons, ih, Nat.add_assoc]

def takeBytes? : Nat → List Char → Option (List Char)
  | 0, _ => some []
  | _ + 1, [] => none
  | n + 1, c :: cs =>
    if width c ≤ n + 1 then (takeBytes? (n + 1 - width c) cs).map (c :: ·) else none

def continuation? (lead : UInt8) : Option (Nat × UInt8 × UInt8) :=
  if 0xC2 ≤ lead && lead ≤ 0xDF then some (1, 0x80, 0xBF)
  else if lead == 0xE0 then some (2, 0xA0, 0xBF)
  else if lead == 0xED then some (2, 0x80, 0x9F)
  else if 0xE1 ≤ lead && lead ≤ 0xEF then some (2, 0x80, 0xBF)
  else if lead == 0xF0 then some (3, 0x90, 0xBF)
  else if 0xF1 ≤ lead && lead ≤ 0xF3 then some (3, 0x80, 0xBF)
  else if lead == 0xF4 then some (3, 0x80, 0x8F)
  else none

def takeContinuation : Nat → UInt8 → UInt8 → Bytes → Bytes
  | n + 1, lo, hi, x :: b =>
    if lo ≤ x && x ≤ hi then x :: takeContinuation n 0x80 0xBF b else []
  | _, _, _, _ => []

def codePoint (lead : UInt8) (rest : Bytes) : Nat :=
  let first :=
    match rest.length with
    | 1 => lead.toNat % 0x20
    | 2 => lead.toNat % 0x10
    | _ => lead.toNat % 0x08
  rest.foldl (fun n x => n * 0x40 + x.toNat % 0x40) first

def decodeStep (lead : UInt8) (b : Bytes) : Char × Nat :=
  if lead < 0x80 then (Char.ofNat lead.toNat, 1)
  else
    match continuation? lead with
    | none => (Char.ofNat 0xFFFD, 1)
    | some (n, lo, hi) =>
      let rest := takeContinuation n lo hi b
      if rest.length = n then (Char.ofNat (codePoint lead rest), n + 1)
      else (Char.ofNat 0xFFFD, rest.length + 1)

/-- Lossy reading with the characters found so far, newest first. `skip` bytes belong to the
character that was read last. -/
def decodeLossyAux : Nat → List Char → Bytes → List Char
  | _, found, [] => found
  | skip + 1, found, _ :: b => decodeLossyAux skip found b
  | 0, found, x :: b =>
    let (c, used) := decodeStep x b
    decodeLossyAux (used - 1) (c :: found) b

def decodeLossy (b : Bytes) : String := String.ofList (decodeLossyAux 0 [] b).reverse

/-- Splits at each `separator`; a separator at the end opens no further piece. The pieces found so
far and the piece being read are kept newest first. -/
def splitAux {α : Type} [DecidableEq α] (separator : α) :
    List (List α) → List α → List α → List (List α)
  | pieces, piece, [] => if piece.isEmpty then pieces.reverse else (piece.reverse :: pieces).reverse
  | pieces, piece, x :: xs =>
    if x = separator then splitAux separator (piece.reverse :: pieces) [] xs
    else splitAux separator pieces (x :: piece) xs

def rawLines {α : Type} [DecidableEq α] (feed : α) (xs : List α) : List (List α) :=
  splitAux feed [] [] xs

def dropReturn (line : List Char) : List Char :=
  if line.getLast? = some '\r' then line.dropLast else line

def feedLines (cs : List Char) : List (List Char) := rawLines '\n' cs

end Text

end PipeShell
