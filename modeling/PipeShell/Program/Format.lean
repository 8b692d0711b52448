import PipeShell.Program.Conversion
import PipeShell.Program.ByteMap

/-!
# Formatted output

The programs that write what their arguments say: `echo`, `printf` and `yes`. A format of
`printf` is used again and again until the arguments are used up.
-/

namespace PipeShell.Program

def octalValue (ds : Bytes) : UInt8 :=
  UInt8.ofNat (ds.foldl (fun n d => n * 8 + (d.toNat - 48)) 0)

inductive Escape
  | bytes (data : Bytes) (used : Nat)
  | stop
  | none

/-- The escape after a backslash. Octal numbers have up to three digits, and one more after a zero
if `longOctal` holds. -/
def escapeAt (longOctal hex : Bool) (rest : Bytes) : Escape :=
  match rest with
  | [] => .none
  | x :: tail =>
    match Char.ofNat x.toNat with
    | 'a' => .bytes [7] 1
    | 'b' => .bytes [8] 1
    | 'c' => if longOctal || hex then .stop else .none
    | 'e' => .bytes [27] 1
    | 'f' => .bytes [12] 1
    | 'n' => .bytes [10] 1
    | 'r' => .bytes [13] 1
    | 't' => .bytes [9] 1
    | 'v' => .bytes [11] 1
    | '\\' => .bytes [0x5C] 1
    | '"' => if longOctal || !hex then .none else .bytes [0x22] 1
    | 'x' =>
      let ds := (tail.take 2).takeWhile fun y => (hexValue? y).isSome
      if hex && !ds.isEmpty then
        .bytes [UInt8.ofNat (ds.foldl (fun n d => n * 16 + (hexValue? d).getD 0) 0)] (ds.length + 1)
      else .none
    | '0' =>
      if longOctal then
        let ds := (tail.take 3).takeWhile isOctalByte
        .bytes [octalValue ds] (ds.length + 1)
      else
        let ds := (rest.take 3).takeWhile isOctalByte
        .bytes [octalValue ds] ds.length
    | _ =>
      if isOctalByte x then
        let ds := (rest.take 3).takeWhile isOctalByte
        .bytes [octalValue ds] ds.length
      else .none

def unescapeBytes (longOctal hex : Bool) : Nat → Bytes → Bytes × Bool
  | 0, _ => ([], false)
  | _, [] => ([], false)
  | n + 1, x :: rest =>
    if x == 0x5C then
      match escapeAt longOctal hex rest with
      | .stop => ([], true)
      | .none =>
        let (out, stop) := unescapeBytes longOctal hex n rest
        (0x5C :: out, stop)
      | .bytes data used =>
        let (out, stop) := unescapeBytes longOctal hex n (rest.drop used)
        (data ++ out, stop)
    else
      let (out, stop) := unescapeBytes longOctal hex n rest
      (x :: out, stop)

structure FormatComplaint where
  place : Nat
  about : Option Bytes
  text : String

structure Printed where
  out : Bytes := []
  complaints : List FormatComplaint := []
  code : Nat := 0
  stopped : Bool := false
  used : Nat := 0

namespace Printed

def print (p : Printed) (data : Bytes) : Printed := { p with out := p.out ++ data }

def judge (p : Printed) (style : FormatStyle) (b : Bytes) (r : Reading) : Printed :=
  let complain := fun (text : String) =>
    { p with complaints := p.complaints ++ [⟨p.out.length, some b, text⟩], code := 1 }
  match r with
  | .whole => p
  | .part => complain style.notWhole
  | .beyond => complain ": Numerical result out of range"
  | .absent => complain style.notNumeric

def giveUp (p : Printed) (text : String) (code : Nat) : Printed :=
  { p with
    complaints := p.complaints ++ [⟨p.out.length, none, text⟩]
    code := code
    stopped := true }

end Printed

def convert (style : FormatStyle) (v : Conversion) (arg : Option Bytes) (p : Printed) : Printed :=
  let b := arg.getD []
  let p := { p with used := p.used + 1 }
  let cut := fun (b : Bytes) => match v.precision with
    | some n => b.take n
    | none => b
  match v.letter with
  | 's' => p.print (padTo v (cut b))
  | 'c' => p.print (padTo v [b.head?.getD 0])
  | 'b' =>
    let (data, stop) := unescapeBytes true style.hex (b.length + 1) b
    { p.print (padTo v (cut data)) with stopped := stop }
  | letter =>
    if "diouxX".toList.contains letter then
      let (n, reading) := readInteger (letter == 'd' || letter == 'i') b
      (p.judge style b reading).print (showInteger v n)
    else
      let (x, reading) := readReal style.bits b
      (p.judge style b reading).print (showReal v x)

def formatOnce (style : FormatStyle) : Nat → Bytes → List Bytes → Printed → Printed × List Bytes
  | 0, _, args, p => (p, args)
  | _, [], args, p => (p, args)
  | n + 1, x :: rest, args, p =>
    if p.stopped then (p, args)
    else if x == 0x5C then
      match escapeAt false style.hex rest with
      | .stop => ({ p with stopped := true }, args)
      | .none =>
        if style.hex && rest.head? == some 0x78 then
          (p.giveUp "missing hexadecimal number in escape" 1, args)
        else formatOnce style n rest args (p.print [0x5C])
      | .bytes data used => formatOnce style n (rest.drop used) args (p.print data)
    else if x == 0x25 then
      match rest with
      | 0x25 :: rest => formatOnce style n rest args (p.print [0x25])
      | _ =>
        match conversionAt style rest args with
        | .invalid text => (p.giveUp (style.invalid text) style.invalidCode, args)
        | .found v args rest =>
          formatOnce style n rest (args.drop 1) (convert style v args.head? p)
    else formatOnce style n rest args (p.print [x])

def formatAll (style : FormatStyle) : Nat → Bytes → List Bytes → Printed → Printed × List Bytes
  | 0, _, args, p => (p, args)
  | n + 1, format, args, p =>
    let before := p.used
    let (p, args) := formatOnce style (format.length + 1) format args p
    if args.isEmpty || p.stopped || p.used == before then (p, args)
    else formatAll style n format args p

def formatted (style : FormatStyle) (format : Bytes) (args : List Bytes) : Printed × List Bytes :=
  formatAll style (args.length + 1) format args {}

def printfStyle : FormatStyle where
  hex := true
  flags := "-+ 0#'"
  lengths := "lLhjtz"
  letters := "cdeEfFgGiosuxX"
  strict := true
  bits := 64
  invalid := fun text => Text.decodeLossy text ++ ": invalid conversion specification"
  invalidCode := 1
  notNumeric := ": expected a numeric value"
  notWhole := ": value not completely converted"

def placed (c : Call) : Nat → Bytes → List FormatComplaint → List (Channel × Bytes)
  | _, out, [] => [(.stdout, out)]
  | before, out, k :: ks =>
    let about := k.about.elim [] fun b => quoted (Text.decodeLossy b)
    (.stdout, out.take (k.place - before)) :: complain c "" about k.text ::
      placed c k.place (out.drop (k.place - before)) ks

def printf (c : Call) : Report :=
  let arguments := match c.arguments with
    | "--" :: rest => rest
    | args => args
  match arguments.map Text.encode with
  | [] => Report.misuse c "missing operand" 1
  | format :: args =>
    let (p, left) := formatted printfStyle format args
    let excess := match left with
      | b :: _ =>
        if p.stopped then []
        else [complain c "warning: ignoring excess arguments, starting with "
          (quoted (Text.decodeLossy b)) ""]
      | [] => []
    { writes := placed c 0 p.out p.complaints ++ excess, code := p.code }

def echo (c : Call) : Report :=
  let isOption := fun (w : String) => match w.toList with
    | '-' :: l :: ls => (l :: ls).all fun x => x == 'n' || x == 'e' || x == 'E'
    | _ => false
  let given := c.arguments.takeWhile isOption
  let letters := given.flatMap fun w => w.toList.drop 1
  let words := Text.encode (" ".intercalate (c.arguments.drop given.length))
  let escapes := (letters.filter (· != 'n')).getLast? == some 'e'
  let (data, stop) := if escapes then unescapeBytes true true (words.length + 1) words
    else (words, false)
  Report.ofOutput (data ++ (if stop || letters.contains 'n' then [] else [0x0A]))

def yes (c : Call) : Report :=
  match ({} : OptionTable).read c.arguments with
  | .error e => badOption c 1 e
  | .ok o =>
    let words := if o.operands.isEmpty then ["y"] else o.operands
    { endless := some (line (" ".intercalate words)) }

end PipeShell.Program
