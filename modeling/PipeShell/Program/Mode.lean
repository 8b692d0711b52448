import PipeShell.Program.Tree

/-!
# Permissions

The program `chmod` changes the permissions of files. A mode is an octal number, or clauses that
say for whom which permissions are added, taken away or set.
-/

namespace PipeShell.Program

/-- What a clause of a mode speaks of: given bits, a copy of another group's, or the execute bits
where some execute bit is set already. -/
inductive ModeBits
  | plain (bits : Nat)
  | conditional (bits : Nat)
  | copy (mask : Nat)
  deriving DecidableEq, Repr

/-- One change of a mode. Without anyone named, the bits that new files lack stay as they are. -/
structure ModeChange where
  who : Nat
  sign : Char
  bits : ModeBits
  mentioned : Nat
  deriving DecidableEq, Repr

def allMode : Nat := 0o7777

def withoutBits (m bits : Nat) : Nat := m &&& (allMode ^^^ (bits &&& allMode))

def whoMask (c : Char) : Nat :=
  if c == 'u' then 0o4700 else if c == 'g' then 0o2070 else if c == 'o' then 0o1007 else allMode

def spread (m mask : Nat) : Nat :=
  let three := if mask == 0o700 then m / 64 % 8 else if mask == 0o070 then m / 8 % 8 else m % 8
  three * 64 + three * 8 + three

namespace ModeChange

def apply (k : ModeChange) (lacking : Nat) (isDirectory : Bool) (old m : Nat) : Nat :=
  let kept := if isDirectory then withoutBits 0o6000 k.mentioned else 0
  let value := match k.bits with
    | .plain bits => bits
    | .conditional bits => if isDirectory || old &&& 0o111 != 0 then bits ||| 0o111 else bits
    | .copy mask => spread old mask
  let scope := if k.who == 0 then withoutBits allMode lacking else k.who
  let value := withoutBits (value &&& scope) kept
  if k.sign == '+' then m ||| value
  else if k.sign == '-' then withoutBits m value
  else ((m &&& ((if k.who == 0 then 0 else withoutBits allMode k.who) ||| kept)) ||| value)

end ModeChange

def modeBitsAt (anyone : Bool) (text : List Char) : Option (ModeBits × Nat × List Char) :=
  let octal := text.takeWhile fun c => '0' ≤ c && c ≤ '7'
  if !octal.isEmpty then
    let n := octal.foldl (fun n c => n * 8 + (c.toNat - 48)) 0
    if !anyone || allMode < n || octal.length != text.length then none
    else some (.plain n, allMode, [])
  else
    match text with
    | 'u' :: rest => some (.copy 0o700, 0o777, rest)
    | 'g' :: rest => some (.copy 0o070, 0o777, rest)
    | 'o' :: rest => some (.copy 0o007, 0o777, rest)
    | _ =>
      let letters := text.takeWhile fun c => "rwxXst".toList.contains c
      let bit := fun (c : Char) => match c with
        | 'r' => 0o444
        | 'w' => 0o222
        | 'x' => 0o111
        | 's' => 0o6000
        | 't' => 0o1000
        | _ => 0
      let bits := (letters.map bit).foldl (· ||| ·) 0
      some (if letters.contains 'X' then .conditional bits else .plain bits, bits,
        text.drop letters.length)

def changesAt (who : Nat) : Nat → List Char → Option (List ModeChange)
  | 0, _ => none
  | n + 1, sign :: rest =>
    if sign == '+' || sign == '-' || sign == '=' then
      match modeBitsAt (who == 0) rest with
      | none => none
      | some (bits, value, rest) =>
        let mentioned := if who == 0 then value
          else who &&& (if sign == '=' then allMode else value)
        let change : ModeChange := ⟨who, sign, bits, mentioned⟩
        if rest.isEmpty then some [change] else (changesAt who n rest).map (change :: ·)
    else none
  | _, [] => none

def clauseOf (text : List Char) : Option (List ModeChange) :=
  let named := text.takeWhile fun c => "ugoa".toList.contains c
  changesAt ((named.map whoMask).foldl (· ||| ·) 0) (text.length + 1) (text.drop named.length)

def readMode (text : String) : Option (List ModeChange) :=
  let cs := text.toList
  if !cs.isEmpty && cs.all (fun c => '0' ≤ c && c ≤ '7') then
    let n := cs.foldl (fun n c => n * 8 + (c.toNat - 48)) 0
    if allMode < n then none
    else
      let mentioned := if cs.length < 5 then (n &&& 0o7000) ||| 0o777 else allMode
      some [⟨allMode, '=', .plain n, mentioned⟩]
  else ((text.splitOn ",").mapM fun part => clauseOf part.toList).map List.flatten

def applyMode (changes : List ModeChange) (lacking : Nat) (isDirectory : Bool) (m : Nat) : Nat :=
  changes.foldl (fun now k => k.apply lacking isDirectory now now) m

def usualLack : Nat := 0o022

def modeText (m : Nat) : String :=
  let bit := fun (mask : Nat) (c : Char) => if m &&& mask != 0 then c else '-'
  let last := fun (mask extra : Nat) (c : Char) =>
    if m &&& extra != 0 then (if m &&& mask != 0 then c else c.toUpper) else bit mask 'x'
  String.ofList [bit 0o400 'r', bit 0o200 'w', last 0o100 0o4000 's', bit 0o040 'r', bit 0o020 'w',
    last 0o010 0o2000 's', bit 0o004 'r', bit 0o002 'w', last 0o001 0o1000 't']

def modeDigits (m : Nat) : String :=
  String.ofList ([m / 512 % 8, m / 64 % 8, m / 8 % 8, m % 8].map fun d => Char.ofNat (d + 48))

structure ModeRequest where
  changes : List ModeChange
  surprises : Bool
  recursive : Bool
  verbose : Bool
  changesOnly : Bool
  quiet : Bool

def ModeRequest.tell (r : ModeRequest) (name : String) (old new : Nat) : List (Channel × Bytes) :=
  let shownMode := fun m => modeDigits m ++ " (" ++ modeText m ++ ")"
  if r.verbose || (r.changesOnly && old != new) then
    [(.stdout, Text.encode "mode of " ++ quoted name ++ Text.encode (if old == new
      then " retained as " ++ shownMode old ++ "\n"
      else " changed from " ++ shownMode old ++ " to " ++ shownMode new ++ "\n"))]
  else []

def ModeRequest.one (r : ModeRequest) (c : Call) (name : String) (files : Files) : TreeChange :=
  let failed := fun (w : Channel × Bytes) =>
    let told := if r.verbose then
      [(Channel.stdout, quoted name ++ Text.encode " could not be accessed\n")] else []
    (⟨files, (if r.quiet then [] else [w]) ++ told, false⟩ : TreeChange)
  match files.stat name with
  | .error e =>
    let isLink := match files.findEntry name with
      | .ok _ => true
      | .error _ => false
    failed (if isLink && e == .noEntry
      then complain c "cannot operate on dangling symlink " (quoted name) ""
      else complain c "cannot access " (quoted name) (": " ++ e.reason))
  | .ok node =>
    let isDirectory := match node with
      | .dir .. => true
      | _ => false
    let old := node.mode
    let new := applyMode r.changes usualLack isDirectory old
    let meant := applyMode r.changes 0 isDirectory old
    match files.setMode name fun _ => new with
    | .error e => failed (complain c "changing permissions of " (quoted name) (": " ++ e.reason))
    | .ok files =>
      let told := r.tell name old new
      if r.surprises && withoutBits new meant != 0 then
        ⟨files, told ++ [complain c "" (shown name) (": new permissions are " ++ modeText new ++
          ", not " ++ modeText meant)], false⟩
      else ⟨files, told, true⟩

def ModeRequest.below (r : ModeRequest) (c : Call) : Nat → String → Files → TreeChange
  | 0, _, files => ⟨files, [], true⟩
  | depth + 1, name, files =>
    let here := r.one c name files
    if !r.recursive then here
    else
      let entries := match files.findEntry name with
        | .ok i => match here.files.node? i with
          | some (.dir _ entries ..) => entries.map Prod.fst
          | _ => []
        | .error _ => []
      entries.foldl (fun change entry => change.andThen fun files =>
        let inner := name ++ (if name.endsWith "/" then "" else "/") ++ entry
        let isLink := match files.findEntry inner with
          | .ok i => match files.node? i with
            | some (.link _) => true
            | _ => false
          | .error _ => false
        if isLink then ⟨files, [], true⟩ else r.below c depth inner files) here

def chmodOptions : OptionTable where
  plain := "Rcfv"
  words := [⟨"changes", 'c', false⟩, ⟨"recursive", 'R', false⟩, ⟨"no-preserve-root", 'N', false⟩,
    ⟨"preserve-root", 'P', false⟩, ⟨"quiet", 'f', false⟩, ⟨"reference", 'r', true⟩,
    ⟨"silent", 'f', false⟩, ⟨"verbose", 'v', false⟩]

def modeWords : List String → List String × List String
  | [] => ([], [])
  | word :: rest =>
    if word == "--" then ([], word :: rest)
    else
      let (modes, others) := modeWords rest
      match word.toList with
      | '-' :: x :: _ =>
        if "rwxXstugoa,+=01234567".toList.contains x then (word :: modes, others)
        else (modes, word :: others)
      | _ => (modes, word :: others)

def chmod (h : Host) (c : Call) : Status × Flow × Host :=
  let reported := fun (r : Report) => h.carryOut "chmod" c r
  let (modes, words) := modeWords c.arguments
  match chmodOptions.read words with
  | .error e => reported (badOption c 1 e)
  | .ok o =>
    let given : Option String := if modes.isEmpty then none else some (",".intercalate modes)
    let model := o.value? 'r'
    let (mode, names) := match model, given, o.operands with
      | some _, _, names => ("", names)
      | none, some mode, names => (mode, names)
      | none, none, mode :: names => (mode, names)
      | none, none, [] => ("", [])
    if names.isEmpty then
      match model, given, o.operands with
      | none, none, one :: _ => reported (misuseOf c "missing operand after " one "")
      | _, _, _ => reported (Report.misuse c "missing operand" 1)
    else
      let changes : Except Report (List ModeChange) := match model with
        | some name =>
          match h.files.stat name with
          | .ok node => .ok [⟨allMode, '=', .plain node.mode, allMode⟩]
          | .error e => .error
            { writes := [complain c "failed to get attributes of " (quoted name) (": " ++ e.reason)]
              code := 1
              unread := c.input }
        | none =>
          match readMode mode with
          | some changes => .ok changes
          | none => .error (misuseOf c "invalid mode: " mode "")
      match changes with
      | .error r => reported r
      | .ok changes =>
        let request : ModeRequest :=
          ⟨changes, given.isSome && model.isNone, o.has 'R', o.has 'v', o.has 'c', o.has 'f'⟩
        changeEach h "chmod" c names (request.below c (h.files.nodes.size + 1))

end PipeShell.Program
