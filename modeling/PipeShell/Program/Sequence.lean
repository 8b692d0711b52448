import PipeShell.Program.Format

/-!
# Sequences of numbers, and waiting

The program `seq` writes the numbers from a first to a last one. Numbers are exact decimals, and
their places are those of the first number and the step. The program `sleep` reads how long to wait.
-/

namespace PipeShell.Program

structure Decimal where
  negative : Bool := false
  units : Nat
  places : Nat := 0
  width : Nat := 1

namespace Decimal

def toInt (d : Decimal) : Int := if d.negative then -(Int.ofNat d.units) else Int.ofNat d.units

def scaleTo (places : Nat) (d : Decimal) : Int :=
  d.toInt * Int.ofNat (Text.tenTo (places - d.places))

def read? (text : String) : Option Decimal :=
  let cs := text.toList.dropWhile fun c => c == '+' || c.isWhitespace
  let (negative, body) := match cs with
    | '-' :: body => (true, body)
    | body => (false, body)
  let whole := body.takeWhile Char.isDigit
  let rest := body.drop whole.length
  let (part, rest) := match rest with
    | '.' :: rest =>
      let ds := rest.takeWhile Char.isDigit
      (ds, rest.drop ds.length)
    | _ => ([], rest)
  let power : Option Int := match rest with
    | [] => some 0
    | e :: rest => if e == 'e' || e == 'E' then Text.readInt? 4000 rest else none
  match Text.digits? (whole ++ part), power with
  | some n, some power =>
    let shift := Int.ofNat part.length - power
    let width := (if negative then 1 else 0) + max 1 whole.length +
      (if part.isEmpty then 0 else part.length + 1)
    some (if shift < 0 then ⟨negative, n * Text.tenTo shift.natAbs, 0, width + shift.natAbs⟩
      else ⟨negative, n, shift.natAbs, if power == 0 then width else max 1 whole.length + 1 +
        shift.natAbs⟩)
  | _, _ => none

end Decimal

def showDecimal (places : Nat) (negative : Bool) (n : Nat) : String :=
  let digits := (toString n).toList
  let digits := List.replicate (places + 1 - digits.length) '0' ++ digits
  let whole := digits.take (digits.length - places)
  let part := digits.drop (digits.length - places)
  let sign := if negative then ['-'] else []
  String.ofList (sign ++ whole ++ (if places == 0 then [] else '.' :: part))

def fillZeros (width : Nat) (text : String) : String :=
  let (sign, digits) := match text.toList with
    | '-' :: digits => (['-'], digits)
    | digits => ([], digits)
  String.ofList (sign ++ List.replicate (width - sign.length - digits.length) '0' ++ digits)

structure NumberFormat where
  before : Bytes
  conversion : Conversion
  after : Bytes

def untilPercent : Nat → Bytes → Bytes → Bytes × Option Bytes
  | 0, found, _ => (found.reverse, none)
  | _, found, [] => (found.reverse, none)
  | n + 1, found, 0x25 :: 0x25 :: rest => untilPercent n (0x25 :: found) rest
  | _, found, 0x25 :: rest => (found.reverse, some rest)
  | n + 1, found, x :: rest => untilPercent n (x :: found) rest

def numberFormat (text : String) : Except String NumberFormat :=
  let b := Text.encode text
  let refuse := fun (why : String) => .error ("format '" ++ text ++ "' " ++ why)
  match untilPercent (b.length + 1) [] b with
  | (_, none) => refuse "has no % directive"
  | (before, some rest) =>
    let flags := rest.takeWhile (isOneOf "'-+ 0#")
    let more := rest.drop flags.length
    let width := more.takeWhile isDigitByte
    let more := more.drop width.length
    let (precision, more) := match more with
      | 0x2E :: more =>
        let ds := more.takeWhile isDigitByte
        (some (valueIn 10 ds), more.drop ds.length)
      | _ => (none, more)
    let more := if more.head? == some 0x4C then more.drop 1 else more
    match more with
    | [] => refuse "ends in %"
    | x :: more =>
      if !isOneOf "efgEFGaA" x then
        refuse ("has unknown %" ++ String.ofList [Char.ofNat x.toNat] ++ " directive")
      else
        match untilPercent (more.length + 1) [] more with
        | (_, some _) => refuse "has too many % directives"
        | (after, none) =>
          .ok ⟨before, { left := flags.contains 0x2D, plus := flags.contains 0x2B
                         space := flags.contains 0x20, zero := flags.contains 0x30
                         sharp := flags.contains 0x23, width := valueIn 10 width
                         precision := precision, letter := Char.ofNat x.toNat }, after⟩

def NumberFormat.apply (f : NumberFormat) (places : Nat) (n : Int) : Bytes :=
  let value := Text.Dyadic.nearest 64 n.natAbs (Text.tenTo places)
  f.before ++ showReal f.conversion (.finite (n < 0) value) ++ f.after

def seqOptions : OptionTable where
  plain := "w"
  valued := "fs"
  words := [⟨"equal-width", 'w', false⟩, ⟨"format", 'f', true⟩, ⟨"separator", 's', true⟩]

def sequenceLimit : Nat := 1500000

def sequenceTexts (format : Option NumberFormat) (equalWidth : Bool) (first step last : Decimal) :
    List Bytes :=
  let places := max first.places step.places
  let scale := max places last.places
  let start := first.scaleTo scale
  let increment := step.scaleTo scale
  let stop := last.scaleTo scale
  let distance := if increment > 0 then stop - start else start - stop
  let count := if distance < 0 then 0 else distance.toNat / increment.natAbs + 1
  let finer := Text.tenTo (scale - places)
  let widthOf := fun (d : Decimal) (own : Nat) =>
    if places ≤ own then d.width + places - own
    else d.width + places - own + (if own == 0 then 1 else 0)
  let width := max (widthOf first first.places) (widthOf { last with
    width := last.width - (if 0 < last.places && places == 0 then 1 else 0) } last.places)
  (List.range (min count sequenceLimit)).map fun k =>
    let value := start + increment * Int.ofNat k
    match format with
    | some f => f.apply scale value
    | none =>
      let negative := value < 0 || (k == 0 && first.negative)
      let text := showDecimal places negative (value.natAbs / finer)
      Text.encode (if equalWidth then fillZeros width text else text)

def seq (c : Call) : Report :=
  let isNegative := fun (w : String) => match w.toList with
    | '-' :: d :: _ => d.isDigit || d == '.'
    | _ => false
  match seqOptions.readLeading isNegative (c.arguments.length + 1) c.arguments with
  | .error e => badOption c 1 e
  | .ok o =>
    let isUndefined := fun (w : String) =>
      w.toLower == "nan" || w.toLower == "-nan" || w.toLower == "+nan"
    match o.operands, (o.value? 'f').map numberFormat with
    | [], _ => Report.misuse c "missing operand" 1
    | _ :: _ :: _ :: extra :: _, _ => misuseOf c "extra operand " extra ""
    | _, some (.error text) =>
      { writes := [complain c text [] ""], code := 1, unread := c.input }
    | operands, format =>
      let format := format.bind Except.toOption
      let wide := o.has 'w'
      if format.isSome && wide then
        Report.misuse c "format string may not be specified when printing equal width strings" 1
      else
        match operands.find? fun w => (Decimal.read? w).isNone with
        | some bad =>
          if isUndefined bad then misuseOf c "invalid 'not-a-number' argument: " bad ""
          else misuseOf c "invalid floating point argument: " bad ""
        | none =>
          let one : Decimal := { units := 1 }
          let (first, step, last) := match operands.filterMap Decimal.read? with
            | [last] => (one, one, last)
            | [first, last] => (first, one, last)
            | first :: step :: last :: _ => (first, step, last)
            | [] => (one, one, one)
          if step.units == 0 then
            misuseOf c "invalid Zero increment value: " (operands[1]?.getD "") ""
          else
            let texts := sequenceTexts format wide first step last
            let separator := Text.encode ((o.value? 's').getD "\n")
            Report.ofOutput (if texts.isEmpty then []
              else (texts.intersperse separator).flatten ++ [0x0A])

def duration? (text : String) : Option Nat :=
  let (body, factor) := match text.toList.reverse with
    | 's' :: r => (r.reverse, 1000)
    | 'm' :: r => (r.reverse, 60000)
    | 'h' :: r => (r.reverse, 3600000)
    | 'd' :: r => (r.reverse, 86400000)
    | r => (r.reverse, 1000)
  if body.isEmpty then none
  else
    match readReal 64 (Text.encode (String.ofList body)) with
    | (.finite negative x, .whole) =>
      let (n, d) := x.quotient
      if negative && n != 0 then none else some (n * factor / d)
    | (.infinite false, .whole) => some (Nat.pow 10 15)
    | _ => none

end PipeShell.Program
