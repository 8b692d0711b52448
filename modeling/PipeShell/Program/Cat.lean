import PipeShell.Program.Input

/-!
# Copying files

The program `cat` copies files one after the other. On the way it can number lines, leave out blank
lines after a blank line, and show what cannot be seen.
-/

namespace PipeShell.Program

structure Display where
  numbered : Bool := false
  skipBlank : Bool := false
  squeezed : Bool := false
  ends : Bool := false
  tabs : Bool := false
  controls : Bool := false
  deriving DecidableEq, Repr

/-- Where copying is: the lines numbered so far, whether a line starts here, and whether the line
before was blank. -/
structure DisplayState where
  count : Nat := 0
  fresh : Bool := true
  blank : Bool := false

namespace Display

def isPlain (d : Display) : Bool := d == {}

def showByte (d : Display) (x : UInt8) : Bytes :=
  let low := fun (y : UInt8) =>
    if y < 32 then [0x5E, y + 64] else if y == 127 then [0x5E, 0x3F] else [y]
  if x == 0x09 then if d.tabs then [0x5E, 0x49] else [x]
  else if !d.controls then [x]
  else if x < 128 then low x
  else [0x4D, 0x2D] ++ low (x - 128)

def numberText (n : Nat) : Bytes := Text.encode (padLeft 6 (toString n) ++ "\t")

def showFrom (d : Display) : DisplayState → Bytes → Bytes → Bytes × DisplayState
  | s, shown, [] => (shown.reverse, s)
  | s, shown, x :: rest =>
    let isBlank := x == 0x0A && s.fresh
    if isBlank && d.squeezed && s.blank then showFrom d s shown rest
    else
      let counts := s.fresh && d.numbered && !(isBlank && d.skipBlank)
      let count := if counts then s.count + 1 else s.count
      let front := if counts then numberText count else []
      let last := if x == 0x0A then (if d.ends then [0x24, x] else [x])
        else if x == 0x0D && d.ends && rest.head? == some 0x0A then [0x5E, 0x4D]
        else d.showByte x
      showFrom d ⟨count, x == 0x0A, isBlank⟩ ((front ++ last).reverse ++ shown) rest

end Display

def outputNode? (h : Host) (c : Call) : Option Inode :=
  match c.out with
  | .sink (.file handle) =>
    match h.opened[handle]? with
    | some file =>
      match h.files.node? file.node with
      | some (.file ..) => some file.node
      | _ => none
    | none => none
  | _ => none

def copiesItself (h : Host) (c : Call) (name : String) (content : Bytes) : Bool :=
  match outputNode? h c, h.files.find name with
  | some out, .ok i => out == i && !content.isEmpty
  | _, _ => false

/-- Copies files one after the other. Each is looked at when its turn comes, so that what was
written before can be read again. -/
def catFrom (d : Display) (c : Call) : List String → DisplayState → Flow → Nat → Host →
    Status × Flow × Host
  | [], _, input, code, h => (.exited code, input, h)
  | name :: rest, s, input, code, h =>
    let piece : Except Bytes (Flow × Flow) :=
      if name = "-" then .ok (input, {})
      else
        match h.files.read name with
        | .error e => .error (shown name ++ Text.encode (": " ++ e.reason))
        | .ok b =>
          if copiesItself h c name b then
            .error (shown name ++ Text.encode ": input file is output file")
          else .ok ({ bytes := b }, input)
    match piece with
    | .error text =>
      let (_, h) := h.writeOutlet c.err (Text.encode (c.name ++ ": ") ++ text ++ [0x0A])
      catFrom d c rest s input 1 h
    | .ok (flow, input) =>
      let (data, s) := if d.isPlain then (flow.bytes, s) else d.showFrom s [] flow.bytes
      match h.carryOut "cat" c { writes := [(.stdout, data)], endless := flow.endless } with
      | (.exited 0, _, h) => catFrom d c rest s input code h
      | (status, _, h) => (status, input, h)

def catOptions : OptionTable where
  plain := "benstuvAET"
  words := [⟨"number-nonblank", 'b', false⟩, ⟨"number", 'n', false⟩, ⟨"squeeze-blank", 's', false⟩,
    ⟨"show-nonprinting", 'v', false⟩, ⟨"show-ends", 'E', false⟩, ⟨"show-tabs", 'T', false⟩,
    ⟨"show-all", 'A', false⟩]

def cat (h : Host) (c : Call) : Status × Flow × Host :=
  match catOptions.read c.arguments with
  | .error e => h.carryOut "cat" c (badOption c 1 e)
  | .ok o =>
    let display : Display :=
      { numbered := o.has 'n' || o.has 'b'
        skipBlank := o.has 'b'
        squeezed := o.has 's'
        ends := o.has 'E' || o.has 'e' || o.has 'A'
        tabs := o.has 'T' || o.has 't' || o.has 'A'
        controls := o.has 'v' || o.has 'e' || o.has 't' || o.has 'A' }
    catFrom display c (if o.operands.isEmpty then ["-"] else o.operands) {} c.input 0 h

end PipeShell.Program
