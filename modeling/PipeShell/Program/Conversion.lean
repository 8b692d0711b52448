import PipeShell.Program.Input
import PipeShell.Text.Dyadic

/-!
# Conversions of a format

A conversion starts with a percent sign and says how one argument is shown: as text, as a whole
number or as a number with a point. An argument that is no number, or only begins as one, is shown
as far as it goes and complained about.
-/

namespace PipeShell.Program

def hexValue? (x : UInt8) : Option Nat :=
  if 0x30 ≤ x && x ≤ 0x39 then some (x.toNat - 48)
  else if 0x61 ≤ x && x ≤ 0x66 then some (x.toNat - 87)
  else if 0x41 ≤ x && x ≤ 0x46 then some (x.toNat - 55)
  else none

def isOneOf (letters : String) (x : UInt8) : Bool :=
  letters.toList.any fun c => c.toNat == x.toNat

structure Conversion where
  left : Bool := false
  plus : Bool := false
  space : Bool := false
  zero : Bool := false
  sharp : Bool := false
  width : Nat := 0
  precision : Option Nat := none
  letter : Char
  deriving Repr

structure FormatStyle where
  hex : Bool
  flags : String
  lengths : String
  letters : String
  strict : Bool
  bits : Nat
  invalid : Bytes → String
  invalidCode : Nat
  notNumeric : String
  notWhole : String

inductive Reading
  | whole
  | part
  | beyond
  | absent
  deriving DecidableEq, Repr

def signOf (b : Bytes) : Bool × Bytes :=
  match b.dropWhile isSpaceByte with
  | 0x2D :: rest => (true, rest)
  | 0x2B :: rest => (false, rest)
  | rest => (false, rest)

def valueIn (base : Nat) (ds : Bytes) : Nat :=
  ds.foldl (fun n d => n * base + (hexValue? d).getD 0) 0

def maxSigned64 : Nat := 9223372036854775807

def readInteger (signed : Bool) (b : Bytes) : Int × Reading :=
  match b with
  | [] => (0, .whole)
  | 0x27 :: x :: _ | 0x22 :: x :: _ => (Int.ofNat x.toNat, .whole)
  | _ =>
    let (negative, rest) := signOf b
    let isHex := fun (x : UInt8) => (hexValue? x).isSome
    let (base, rest) : Nat × Bytes := match rest with
      | 0x30 :: x :: more =>
        if (x == 0x78 || x == 0x58) && (more.head?.any isHex) then (16, more)
        else (8, 0x30 :: x :: more)
      | _ => (10, rest)
    let ds := rest.takeWhile fun x => (hexValue? x).any (· < base)
    let n := valueIn base ds
    let limit := if signed then if negative then maxSigned64 + 1 else maxSigned64 else Text.max64
    let shown := Int.ofNat (min n limit)
    let value := if negative && (signed || n ≤ limit) then -shown else shown
    (value, if ds.isEmpty then .absent else if ds.length < rest.length then .part
      else if limit < n then .beyond else .whole)

inductive Real
  | finite (negative : Bool) (value : Text.Dyadic)
  | infinite (negative : Bool)
  | undefined (negative : Bool)
  deriving Repr

def powerAt (letters : String) (b : Bytes) : Int × Nat :=
  match b with
  | x :: rest =>
    if isOneOf letters x then
      let (negative, digits) : Bool × Bytes := match rest with
        | 0x2D :: ds => (true, ds)
        | 0x2B :: ds => (false, ds)
        | ds => (false, ds)
      let ds := digits.takeWhile isDigitByte
      if ds.isEmpty then (0, 0)
      else
        let n := Int.ofNat (valueIn 10 ds)
        (if negative then -n else n, 1 + (rest.length - digits.length) + ds.length)
    else (0, 0)
  | [] => (0, 0)

def maxPower (bits : Nat) : Nat := if bits == 64 then 4932 else 308

def readDigits (bits : Nat) (negative : Bool) (base : Nat) (b : Bytes) : Real × Reading :=
  let isDigit := fun (x : UInt8) => (hexValue? x).any (· < base)
  let before := b.takeWhile isDigit
  let rest := b.drop before.length
  let (after, rest) := match rest with
    | 0x2E :: more =>
      let ds := more.takeWhile isDigit
      if before.isEmpty && ds.isEmpty then ([], rest) else (ds, more.drop ds.length)
    | _ => ([], rest)
  if before.isEmpty && after.isEmpty then (.finite negative ⟨0, 0⟩, .absent)
  else
    let (power, used) := powerAt (if base == 16 then "pP" else "eE") rest
    let n := valueIn base (before ++ after)
    let size := Int.ofNat before.length + power
    if n != 0 && base == 10 && Int.ofNat (maxPower bits + after.length + 1) < size then
      (.infinite negative, .beyond)
    else if n == 0 || size < -10000 then
      (.finite negative ⟨0, 0⟩, if used == rest.length then .whole else .part)
    else
      let unit := if base == 16 then 2 else 10
      let down := Nat.pow base after.length
      let (p, q) := if power < 0 then (n, down * Nat.pow unit power.natAbs)
        else (n * Nat.pow unit power.natAbs, down)
      let value := Text.Dyadic.nearest bits p q
      if Int.ofNat (maxPower bits) < value.magnitude then (.infinite negative, .beyond)
      else (.finite negative value, if used == rest.length then .whole else .part)

def readReal (bits : Nat) (b : Bytes) : Real × Reading :=
  match b with
  | [] => (.finite false ⟨0, 0⟩, .whole)
  | 0x27 :: x :: _ | 0x22 :: x :: _ => (.finite false ⟨x.toNat, 0⟩, .whole)
  | _ =>
    let (negative, rest) := signOf b
    let low := rest.map lowerByte
    let named := fun (size : Nat) => if size == low.length then Reading.whole else Reading.part
    if (Text.encode "infinity").isPrefixOf low then (.infinite negative, named 8)
    else if (Text.encode "inf").isPrefixOf low then (.infinite negative, named 3)
    else if (Text.encode "nan").isPrefixOf low then (.undefined negative, named 3)
    else
      match low with
      | 0x30 :: 0x78 :: x :: _ =>
        if (hexValue? x).isSome then readDigits bits negative 16 (rest.drop 2)
        else readDigits bits negative 10 rest
      | _ => readDigits bits negative 10 rest

def padTo (v : Conversion) (b : Bytes) : Bytes :=
  let fill := List.replicate (v.width - b.length) 0x20
  if v.left then b ++ fill else fill ++ b

def padNumber (v : Conversion) (zeros : Bool) (lead digits : Bytes) : Bytes :=
  if zeros && v.zero && !v.left then
    lead ++ List.replicate (v.width - lead.length - digits.length) 0x30 ++ digits
  else padTo v (lead ++ digits)

def signMark (v : Conversion) (negative : Bool) : Bytes :=
  if negative then [0x2D] else if v.plus then [0x2B] else if v.space then [0x20] else []

def digitsIn (base n : Nat) : Bytes := (Nat.toDigits base n).map fun c => UInt8.ofNat c.toNat

def showInteger (v : Conversion) (n : Int) : Bytes :=
  let signed := v.letter == 'd' || v.letter == 'i'
  let magnitude := if !signed && n < 0 then Text.max64 + 1 - n.natAbs else n.natAbs
  let base := if v.letter == 'o' then 8 else if v.letter == 'x' || v.letter == 'X' then 16 else 10
  let digits := digitsIn base magnitude
  let digits := if v.letter == 'X' then digits.map upperByte else digits
  let digits := List.replicate (v.precision.getD 1 - digits.length) 0x30 ++ digits
  let digits := if v.precision == some 0 && magnitude == 0 then [] else digits
  let lead : Bytes :=
    if signed then signMark v (n < 0)
    else if v.sharp && magnitude != 0 then
      if v.letter == 'o' then [0x30]
      else if v.letter == 'x' then [0x30, 0x78]
      else if v.letter == 'X' then [0x30, 0x58]
      else []
    else []
  padNumber v v.precision.isNone lead digits

def showPower (power : Int) : List Char :=
  let digits := (toString power.natAbs).toList
  'e' :: (if power < 0 then '-' else '+') ::
    (List.replicate (2 - digits.length) '0' ++ digits)

def pointed (sharp : Bool) (before after : List Char) : List Char :=
  if after.isEmpty && !sharp then before else before ++ '.' :: after

def withoutZeros (cs : List Char) : List Char := (cs.reverse.dropWhile (· == '0')).reverse

def realDigits (v : Conversion) (x : Text.Dyadic) : List Char :=
  let scientific := fun (places : Nat) (trim : Bool) =>
    let (digits, power) := x.scientific places
    let after := if trim then withoutZeros (digits.drop 1) else digits.drop 1
    pointed v.sharp (digits.take 1) after ++ showPower power
  let fixed := fun (places : Nat) (trim : Bool) =>
    let (before, after) := x.fixed places
    pointed v.sharp before (if trim then withoutZeros after else after)
  match v.letter.toLower with
  | 'e' => scientific (v.precision.getD 6) false
  | 'g' =>
    let count := max 1 (v.precision.getD 6)
    let (_, power) := x.scientific (count - 1)
    if power < -4 || Int.ofNat count ≤ power then scientific (count - 1) (!v.sharp)
    else fixed (Int.ofNat count - 1 - power).toNat (!v.sharp)
  | _ => fixed (v.precision.getD 6) false

def showReal (v : Conversion) (r : Real) : Bytes :=
  let cased := fun (cs : List Char) =>
    let b := Text.encode (String.ofList cs)
    if v.letter.isUpper then b.map upperByte else b
  match r with
  | .finite negative x => padNumber v true (signMark v negative) (cased (realDigits v x))
  | .infinite negative => padNumber v false (signMark v negative) (cased "inf".toList)
  | .undefined negative => padNumber v false (signMark v negative) (cased "nan".toList)

inductive ConversionAt
  | found (v : Conversion) (arguments : List Bytes) (rest : Bytes)
  | invalid (text : Bytes)

def sizeAt (format : Bytes) (arguments : List Bytes) : Int × Bytes × List Bytes :=
  match format with
  | 0x2A :: rest => ((readInteger true (arguments.head?.getD [])).1, rest, arguments.drop 1)
  | _ =>
    let ds := format.takeWhile isDigitByte
    (Int.ofNat (valueIn 10 ds), format.drop ds.length, arguments)

def FormatStyle.allows (style : FormatStyle) (flags : Bytes) (pointed : Bool) (x : UInt8) : Bool :=
  isOneOf style.letters x && !(style.strict &&
    ((flags.contains 0x23 && isOneOf "cdisu" x) || (flags.contains 0x30 && isOneOf "cs" x) ||
      (pointed && isOneOf "c" x) || (flags.contains 0x27 && isOneOf "aAceEosxX" x)))

def conversionAt (style : FormatStyle) (format : Bytes) (arguments : List Bytes) : ConversionAt :=
  let flags := format.takeWhile (isOneOf style.flags)
  let (width, rest, arguments) := sizeAt (format.drop flags.length) arguments
  let (precision, rest, arguments) : Option Int × Bytes × List Bytes := match rest with
    | 0x2E :: rest =>
      let (n, rest, arguments) := sizeAt rest arguments
      (some n, rest, arguments)
    | _ => (none, rest, arguments)
  let rest := rest.dropWhile (isOneOf style.lengths)
  let text := 0x25 :: format.take (format.length - rest.length + 1)
  match rest with
  | [] => .invalid text
  | x :: rest =>
    let plain := format.head? == some x && x == 0x62
    if plain || style.allows flags precision.isSome x then
      .found
        { left := flags.contains 0x2D || width < 0, plus := flags.contains 0x2B
          space := flags.contains 0x20, zero := flags.contains 0x30
          sharp := flags.contains 0x23, width := width.natAbs
          precision := precision.bind fun n => if n < 0 then none else some n.toNat
          letter := Char.ofNat x.toNat } arguments rest
    else .invalid text

end PipeShell.Program
