import PipeShell.Program.Input

/-!
# Mapping bytes

The program `tr` maps the bytes of one set to those of another, deletes bytes, and squeezes runs of
a byte to one. A set is written with escapes, ranges, classes and repeats.
-/

namespace PipeShell.Program

/-- A byte of a written set, and whether it was escaped and so has no other meaning. -/
structure SetByte where
  value : UInt8
  escaped : Bool := false

def SetByte.is (s : SetByte) (c : Char) : Bool := !s.escaped && s.value.toNat == c.toNat

inductive SetPart
  | byte (x : UInt8)
  | range (lo hi : UInt8)
  | named (name : String) (bytes : Bytes)
  | equivalent (x : UInt8)
  | repeated (x : UInt8) (count : Nat)
  | filler (x : UInt8)

inductive SetError
  | reversedRange (lo hi : SetByte)
  | unknownClass (name : Bytes)
  | emptyClass
  | emptyEquivalence
  | wideEquivalence (text : Bytes)
  | badRepeat (text : Bytes)
  | fillerInFirst
  | severalFillers
  | fillerWithoutMapping
  | equivalenceInSecond
  | classInSecond
  | misaligned
  | emptySecond
  | classAtEnd
  | complementedClass

def classBytes? (name : String) : Option Bytes :=
  let range := fun (lo hi : Nat) => (List.range (hi + 1 - lo)).map fun k => UInt8.ofNat (lo + k)
  let lowers := range 97 122
  let uppers := range 65 90
  let digits := range 48 57
  let puncts := range 33 47 ++ range 58 64 ++ range 91 96 ++ range 123 126
  match name with
  | "lower" => some lowers
  | "upper" => some uppers
  | "alpha" => some (uppers ++ lowers)
  | "digit" => some digits
  | "alnum" => some (digits ++ uppers ++ lowers)
  | "space" => some (range 9 13 ++ [32])
  | "blank" => some [9, 32]
  | "punct" => some puncts
  | "cntrl" => some (range 0 31 ++ [127])
  | "print" => some (range 32 126)
  | "graph" => some (range 33 126)
  | "xdigit" => some (digits ++ range 65 70 ++ range 97 102)
  | _ => none

def isOctalByte (x : UInt8) : Bool := 0x30 ≤ x && x ≤ 0x37

def octalNumber (ds : Bytes) : Nat := ds.foldl (fun n d => n * 8 + (d.toNat - 48)) 0

def octalText (n : Nat) : String :=
  String.ofList ([n / 64, n / 8 % 8, n % 8].map fun d => Char.ofNat (d + 48))

def unescapeSet : Nat → Bytes → List SetByte × List String
  | 0, _ => ([], [])
  | _, [] => ([], [])
  | _, [0x5C] =>
    ([⟨0x5C, true⟩], ["warning: an unescaped backslash at end of string is not portable"])
  | n + 1, 0x5C :: x :: rest =>
    if isOctalByte x then
      let ds := ((x :: rest).take 3).takeWhile isOctalByte
      if octalNumber ds < 256 then
        let (more, warnings) := unescapeSet n ((x :: rest).drop ds.length)
        (⟨UInt8.ofNat (octalNumber ds), true⟩ :: more, warnings)
      else
        let (more, warnings) := unescapeSet n ((x :: rest).drop 2)
        let third := String.ofList ((ds.drop 2).map fun d => Char.ofNat d.toNat)
        (⟨UInt8.ofNat (octalNumber (ds.take 2)), true⟩ :: more,
          ("warning: the ambiguous octal escape \\" ++ octalText (octalNumber ds) ++
            " is being\n\tinterpreted as the 2-byte sequence \\" ++
            octalText (octalNumber (ds.take 2)) ++ ", " ++ third) :: warnings)
    else
      let plain : UInt8 := match Char.ofNat x.toNat with
        | 'n' => 10
        | 't' => 9
        | 'r' => 13
        | 'a' => 7
        | 'b' => 8
        | 'f' => 12
        | 'v' => 11
        | _ => x
      let (more, warnings) := unescapeSet n rest
      (⟨plain, true⟩ :: more, warnings)
  | n + 1, x :: rest =>
    let (more, warnings) := unescapeSet n rest
    (⟨x, false⟩ :: more, warnings)

def valuesOf (s : List SetByte) : Bytes := s.map (·.value)

def untilClosing (mark : Char) : List SetByte → List SetByte → Option (List SetByte × List SetByte)
  | found, a :: b :: rest =>
    if a.is mark && b.is ']' then some (found.reverse, rest)
    else untilClosing mark (a :: found) (b :: rest)
  | _, _ => none

def repeatAt : List SetByte → Except SetError (Option (SetPart × List SetByte))
  | x :: star :: rest =>
    if star.is '*' then
      let inner := rest.takeWhile fun s => !s.is ']'
      match rest.drop inner.length with
      | _ :: after =>
        let text := valuesOf inner
        let octal := text.head? == some 0x30
        let fits := text.all fun y => if octal then isOctalByte y else isDigitByte y
        let count := if octal then octalNumber text
          else text.foldl (fun n d => n * 10 + (d.toNat - 48)) 0
        if !fits then .error (.badRepeat text)
        else if count == 0 then .ok (some (.filler x.value, after))
        else .ok (some (.repeated x.value count, after))
      | [] => .ok none
    else .ok none
  | _ => .ok none

def isRepeatTail (s : List SetByte) : Bool :=
  match s with
  | star :: rest =>
    star.is '*' && ((rest.dropWhile fun d => isDigitByte d.value).head?.any (·.is ']'))
  | [] => false

def bracketAt (s : List SetByte) : Except SetError (Option (SetPart × List SetByte)) :=
  match s with
  | mark :: rest =>
    if mark.is ':' then
      match untilClosing ':' [] rest with
      | none => repeatAt s
      | some (inner, after) =>
        let name := valuesOf inner
        if name.isEmpty then if isRepeatTail rest then repeatAt s else .error .emptyClass
        else
          match classBytes? (Text.decodeLossy name) with
          | some bytes => .ok (some (.named (Text.decodeLossy name) bytes, after))
          | none => if isRepeatTail rest then repeatAt s else .error (.unknownClass name)
    else if mark.is '=' then
      match untilClosing '=' [] rest with
      | none => repeatAt s
      | some ([], _) => if isRepeatTail rest then repeatAt s else .error .emptyEquivalence
      | some ([x], after) => .ok (some (.equivalent x.value, after))
      | some (inner, _) =>
        if isRepeatTail rest then repeatAt s else .error (.wideEquivalence (valuesOf inner))
    else repeatAt s
  | [] => .ok none

def partsOf : Nat → List SetByte → Except SetError (List SetPart)
  | 0, _ => .ok []
  | _, [] => .ok []
  | n + 1, x :: rest =>
    let bracket := if x.is '[' && 2 ≤ rest.length then bracketAt rest else .ok none
    match bracket with
    | .error e => .error e
    | .ok (some (part, rest)) => (partsOf n rest).map (part :: ·)
    | .ok none =>
      match rest with
      | dash :: y :: after =>
        if dash.is '-' then
          if y.value < x.value then .error (.reversedRange x y)
          else (partsOf n after).map (.range x.value y.value :: ·)
        else (partsOf n rest).map (.byte x.value :: ·)
      | _ => (partsOf n rest).map (.byte x.value :: ·)

namespace SetPart

def bytes (room : Nat) : SetPart → Bytes
  | .byte x => [x]
  | .range lo hi => (List.range (hi.toNat + 1 - lo.toNat)).map fun k => UInt8.ofNat (lo.toNat + k)
  | .named _ bytes => bytes
  | .equivalent x => [x]
  | .repeated x count => List.replicate count x
  | .filler x => List.replicate room x

def isFiller : SetPart → Bool
  | .filler _ => true
  | _ => false

def isCase : SetPart → Bool
  | .named name _ => name == "upper" || name == "lower"
  | _ => false

def isNamed : SetPart → Bool
  | .named .. => true
  | _ => false

def isEquivalent : SetPart → Bool
  | .equivalent _ => true
  | _ => false

end SetPart

def caseStarts (room : Nat) (parts : List SetPart) : List Nat :=
  (parts.foldl (fun (found, place) p =>
    (if p.isCase then place :: found else found, place + (p.bytes room).length))
    (([] : List Nat), 0)).1

def pairOf (truncate complement : Bool) (one two : List SetPart) :
    Except SetError (Bytes × Bytes) :=
  let first := one.flatMap (·.bytes 0)
  let source := if complement then
    ((List.range 256).map UInt8.ofNat).filter (!first.contains ·) else first
  let fixed := two.flatMap (·.bytes 0)
  let room := source.length - fixed.length
  let target := two.flatMap (·.bytes room)
  if two.any (·.isEquivalent) then .error .equivalenceInSecond
  else if two.any (fun p => p.isNamed && !p.isCase) then .error .classInSecond
  else if !complement && !(caseStarts room two).all (caseStarts 0 one).contains then
    .error .misaligned
  else if target.length < source.length && !truncate && target.isEmpty then .error .emptySecond
  else if target.length < source.length && !truncate && two.getLast?.any (·.isNamed) then
    .error .classAtEnd
  else if complement && one.any (·.isNamed) &&
      !(target.length == source.length && target.all fun x => some x == target.head?) &&
      !(target.length < source.length && target.all fun x => some x == target.head?) then
    .error .complementedClass
  else .ok (if truncate then source.take target.length else source, target)

/-- What a byte is turned into. The second set goes on with its last byte. -/
def substitute (source target : Array UInt8) (x : UInt8) : UInt8 :=
  match (List.range source.size).reverse.find? fun k => source[k]? == some x with
  | some k => (target[k]?.or target.back?).getD x
  | none => x

def squeeze (set : UInt8 → Bool) (b : Bytes) : Bytes :=
  (b.foldl (fun kept x => match kept with
    | k :: _ => if k == x && set x then kept else x :: kept
    | [] => [x]) []).reverse

def SetByte.shown (s : SetByte) : String :=
  if isPrintable s.value then String.ofList [Char.ofNat s.value.toNat]
  else "\\" ++ octalText s.value.toNat

def SetError.message : SetError → String
  | .reversedRange lo hi => "range-endpoints of '" ++ lo.shown ++ "-" ++ hi.shown ++
      "' are in reverse collating sequence order"
  | .unknownClass name => "invalid character class '" ++ Text.decodeLossy name ++ "'"
  | .emptyClass => "missing character class name '[::]'"
  | .emptyEquivalence => "missing equivalence class character '[==]'"
  | .wideEquivalence text =>
    Text.decodeLossy text ++ ": equivalence class operand must be a single character"
  | .badRepeat text => "invalid repeat count '" ++ Text.decodeLossy text ++ "' in [c*n] construct"
  | .fillerInFirst => "the [c*] repeat construct may not appear in string1"
  | .severalFillers => "only one [c*] repeat construct may appear in string2"
  | .fillerWithoutMapping =>
    "the [c*] construct may appear in string2 only when translating"
  | .equivalenceInSecond => "[=c=] expressions may not appear in string2 when translating"
  | .classInSecond => "when translating, the only character classes that may appear in\nstring2 " ++
      "are 'upper' and 'lower'"
  | .misaligned => "misaligned [:upper:] and/or [:lower:] construct"
  | .emptySecond => "when not truncating set1, string2 must be non-empty"
  | .classAtEnd => "when translating with string1 longer than string2,\nthe latter string must " ++
      "not end with a character class"
  | .complementedClass => "when translating with complemented character classes,\nstring2 must " ++
      "map all characters in the domain to one"

def trChange (o : Options) (one : List SetPart) (two : Option (List SetPart)) :
    Except SetError (Bytes → Bytes) :=
  let complement := o.has 'c' || o.has 'C'
  let first := one.flatMap (·.bytes 0)
  let member := fun x => first.contains x != complement
  let fillers := (two.getD []).filter (·.isFiller)
  if one.any (·.isFiller) then .error .fillerInFirst
  else if 1 < fillers.length then .error .severalFillers
  else
    match two with
    | none => .ok (if o.has 'd' then (·.filter (!member ·)) else squeeze member)
    | some two =>
      if o.has 'd' then
        if !fillers.isEmpty then .error .fillerWithoutMapping
        else
          let second := two.flatMap (·.bytes 0)
          .ok fun b => squeeze second.contains (b.filter (!member ·))
      else
        match pairOf (o.has 't') complement one two with
        | .error e => .error e
        | .ok (source, target) =>
          let table := (Array.range 256).map fun k =>
            substitute source.toArray target.toArray (UInt8.ofNat k)
          let mapped := fun (b : Bytes) => b.map fun x => table[x.toNat]?.getD x
          .ok fun b => if o.has 's' then squeeze target.contains (mapped b) else mapped b

def trOptions : OptionTable where
  plain := "cCdst"
  words := [⟨"complement", 'c', false⟩, ⟨"delete", 'd', false⟩, ⟨"squeeze-repeats", 's', false⟩,
    ⟨"truncate-set1", 't', false⟩]

def readSet (text : String) : Except SetError (List SetPart) × List String :=
  let b := Text.encode text
  let (bytes, warnings) := unescapeSet (b.length + 1) b
  (partsOf (bytes.length + 1) bytes, warnings)

def tr (c : Call) : Report :=
  match trOptions.read c.arguments with
  | .error e => badOption c 1 e
  | .ok o =>
    let deletes := o.has 'd'
    let squeezes := o.has 's'
    let needed := if deletes == squeezes then 2 else 1
    let allowed := if deletes && !squeezes then 1 else 2
    match o.operands with
    | [] => Report.misuse c "missing operand" 1
    | one :: rest =>
      if rest.length + 1 < needed then
        misuseOf c "missing operand after " one (if squeezes
          then "\nTwo strings must be given when both deleting and squeezing repeats."
          else "\nTwo strings must be given when translating.")
      else if allowed < rest.length + 1 then
        misuseOf c "extra operand " (o.operands[allowed]?.getD "") (if rest.length + 1 == 2
          then "\nOnly one string may be given when deleting without squeezing repeats." else "")
      else
        let (first, warnings) := readSet one
        let second := rest.head?.map readSet
        let warnings := warnings ++
          (if first.toOption.isNone then [] else (second.map Prod.snd).getD [])
        let warned := warnings.map fun w => complain c w [] ""
        let change := do
          let one ← first
          let two ← match second with
            | none => .ok none
            | some (parts, _) => parts.map some
          trChange o one two
        match change with
        | .error e =>
          { writes := warned ++ [complain c e.message [] ""], code := 1, unread := c.input }
        | .ok f =>
          { writes := warned ++ [(.stdout, f c.input.bytes)], endless := c.input.endless.map f }

end PipeShell.Program
