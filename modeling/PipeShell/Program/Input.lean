import PipeShell.Program.Basic
import PipeShell.Program.Name
import PipeShell.Program.Options
import PipeShell.Text.Number

/-!
# What programs read

The operands of a program name files, and a dash names its input. Bytes are compared and classified
as such, without regard to a language.
-/

namespace PipeShell.Program

def line (s : String) : Bytes := Text.encode (s ++ "\n")

def complain (c : Call) (before : String) (name : Bytes) (after : String) : Channel × Bytes :=
  (.stderr, Text.encode (c.name ++ ": " ++ before) ++ name ++ Text.encode (after ++ "\n"))

def misuseOf (c : Call) (before word after : String) : Report :=
  { writes := [complain c before (quoted word)
      (after ++ "\nTry '" ++ c.name ++ " --help' for more information.")]
    code := 1
    unread := c.input }

def badOption (c : Call) (code : Nat) : OptionError → Report
  | .unknown letter => Report.misuse c ("invalid option -- '" ++ String.ofList [letter] ++ "'") code
  | .unknownWord word => Report.misuse c ("unrecognized option '--" ++ word ++ "'") code
  | .missingValue letter =>
    Report.misuse c ("option requires an argument -- '" ++ String.ofList [letter] ++ "'") code
  | .missingWordValue name =>
    Report.misuse c ("option '--" ++ name ++ "' requires an argument") code
  | .unwantedValue name =>
    Report.misuse c ("option '--" ++ name ++ "' doesn't allow an argument") code
  | .ambiguous word names =>
    Report.misuse c ("option '--" ++ word ++ "' is ambiguous; possibilities:" ++
      String.join (names.map fun name => " '--" ++ name ++ "'")) code
  | .information => { unread := c.input }

/-- The operands with what they name. A dash names the input, which can be read once. -/
def gather (h : Host) (c : Call) (operands : List String) : List (String × Except OsError Flow) :=
  let names := if operands.isEmpty then ["-"] else operands
  (names.foldl (fun (found, input) name =>
    if name = "-" then ((name, .ok input) :: found, ({} : Flow))
    else ((name, (h.files.read name).map fun b => ({ bytes := b } : Flow)) :: found, input))
    (([] : List (String × Except OsError Flow)), c.input)).1.reverse

def leftover (c : Call) (operands : List String) : Flow :=
  if operands.isEmpty || operands.contains "-" then {} else c.input

def endedLinesAux (feed : UInt8) : List Bytes → Bytes → Bytes → List Bytes
  | found, piece, [] => if piece.isEmpty then found.reverse else (piece.reverse :: found).reverse
  | found, piece, x :: rest =>
    if x == feed then endedLinesAux feed ((x :: piece).reverse :: found) [] rest
    else endedLinesAux feed found (x :: piece) rest

def endedLines (feed : UInt8) (b : Bytes) : List Bytes := endedLinesAux feed [] [] b

def endLines (feed : UInt8) (lines : List Bytes) : Bytes := lines.flatMap (· ++ [feed])

def Options.feed (o : Options) : UInt8 := if o.has 'z' then 0 else 0x0A

def isSpaceByte (x : UInt8) : Bool := x == 0x20 || (0x09 ≤ x && x ≤ 0x0D)

def isBlankByte (x : UInt8) : Bool := x == 0x20 || x == 0x09

def isDigitByte (x : UInt8) : Bool := 0x30 ≤ x && x ≤ 0x39

def upperByte (x : UInt8) : UInt8 := if 0x61 ≤ x && x ≤ 0x7A then x - 32 else x

def lowerByte (x : UInt8) : UInt8 := if 0x41 ≤ x && x ≤ 0x5A then x + 32 else x

def padLeft (width : Nat) (s : String) : String :=
  String.ofList (List.replicate (width - s.length) ' ' ++ s.toList)

def allContent (c : Call) (before : String) (unreadable : String → Channel × Bytes)
    (files : List (String × Except OsError Flow)) : Except (Channel × Bytes) (List Bytes) :=
  files.mapM fun file =>
    match file.2 with
    | .error .isDirectory => .error (unreadable file.1)
    | .error e => .error (complain c before (shown file.1) (": " ++ e.reason))
    | .ok flow => .ok flow.bytes

end PipeShell.Program
