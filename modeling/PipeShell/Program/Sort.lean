import PipeShell.Program.Conversion
import PipeShell.Program.Version

/-!
# Sorting lines and dropping repeated ones

The program `sort` compares lines by keys and, where those agree, byte by byte. The program `uniq`
keeps one line of each run of lines that agree.
-/

namespace PipeShell.Program

def compareBytes : Bytes → Bytes → Ordering
  | [], [] => .eq
  | [], _ => .lt
  | _, [] => .gt
  | x :: xs, y :: ys => if x < y then .lt else if y < x then .gt else compareBytes xs ys

structure Numeral where
  negative : Bool
  whole : Bytes
  part : Bytes
  rest : Bytes

def numeralOf (b : Bytes) : Numeral :=
  let b := b.dropWhile isBlankByte
  let (negative, b) : Bool × Bytes := match b with
    | 0x2D :: rest => (true, rest)
    | _ => (false, b)
  let digits := b.takeWhile isDigitByte
  let rest := b.drop digits.length
  let (part, rest) := match rest with
    | 0x2E :: more =>
      let ds := more.takeWhile isDigitByte
      (ds, more.drop ds.length)
    | _ => ([], rest)
  ⟨negative, digits.dropWhile (· == 0x30), (part.reverse.dropWhile (· == 0x30)).reverse, rest⟩

namespace Numeral

def isZero (n : Numeral) : Bool := n.whole.isEmpty && n.part.isEmpty

def compareSize (m n : Numeral) : Ordering :=
  (compare m.whole.length n.whole.length).then
    ((compareBytes m.whole n.whole).then (compareBytes m.part n.part))

def compare (m n : Numeral) : Ordering :=
  match m.negative && !m.isZero, n.negative && !n.isZero with
  | true, true => n.compareSize m
  | true, false => .lt
  | false, true => .gt
  | false, false => m.compareSize n

def scale (n : Numeral) : Int :=
  let letters := "KMGTPEZYRQ".toList.map fun c => UInt8.ofNat c.toNat
  let rank := match n.rest.head? with
    | some 0x6B => 1
    | some x => ((letters.findIdx? (· == x)).map (· + 1)).getD 0
    | none => 0
  if n.isZero then 0 else if n.negative then -(Int.ofNat rank) else Int.ofNat rank

end Numeral

def monthOf (b : Bytes) : Nat :=
  let start := ((b.dropWhile isBlankByte).take 3).map upperByte
  let names := ["JAN", "FEB", "MAR", "APR", "MAY", "JUN", "JUL", "AUG", "SEP", "OCT", "NOV", "DEC"]
  ((names.findIdx? fun name => Text.encode name == start).map (· + 1)).getD 0

/-- The order of two numbers with a point. What is no number comes first, then the undefined. -/
def compareReals (a b : Bytes) : Ordering :=
  let rank := fun (x : Real × Reading) => match x with
    | (_, .absent) => (0, (0 : Int), (1 : Nat))
    | (.undefined _, _) => (1, 0, 1)
    | (.infinite negative, _) => (if negative then 2 else 4, 0, 1)
    | (.finite negative x, _) =>
      let (n, d) := x.quotient
      (3, if negative then -(Int.ofNat n) else Int.ofNat n, d)
  let read := fun (b : Bytes) => rank (if b.isEmpty then (.undefined false, .absent)
    else readReal 64 b)
  let (r, n, d) := read a
  let (s, m, e) := read b
  (Ord.compare r s).then (Ord.compare (n * Int.ofNat e) (m * Int.ofNat d))

structure KeyOrder where
  letters : List Char := []
  deriving DecidableEq

namespace KeyOrder

def has (k : KeyOrder) (c : Char) : Bool := k.letters.contains c

def prepare (k : KeyOrder) (b : Bytes) : Bytes :=
  let b := if k.has 'd' then
    b.filter fun x => isBlankByte x || isDigitByte x || (0x61 ≤ lowerByte x && lowerByte x ≤ 0x7A)
    else if k.has 'i' then b.filter isPrintable else b
  if k.has 'f' then b.map upperByte else b

def compareTexts (k : KeyOrder) (a b : Bytes) : Ordering :=
  let order := if k.has 'n' then (numeralOf a).compare (numeralOf b)
    else if k.has 'h' then
      (Ord.compare (numeralOf a).scale (numeralOf b).scale).then
        ((numeralOf a).compare (numeralOf b))
    else if k.has 'g' then compareReals a b
    else if k.has 'M' then Ord.compare (monthOf a) (monthOf b)
    else if k.has 'V' then Version.order (k.prepare a) (k.prepare b)
    else compareBytes (k.prepare a) (k.prepare b)
  if k.has 'r' then order.swap else order

end KeyOrder

/-- A key: the field and byte where it starts, both counted from zero, and those where it ends. -/
structure SortKey where
  field : Nat := 0
  offset : Nat := 0
  startBlanks : Bool := false
  last : Option (Nat × Nat) := none
  endBlanks : Bool := false
  order : KeyOrder := {}

def dropField (separator : Option UInt8) (keep : Bool) (b : Bytes) : Bytes :=
  match separator with
  | some t =>
    let rest := b.dropWhile (· != t)
    if keep then rest else rest.drop 1
  | none => (b.dropWhile fun x => isBlankByte x || x == 0x0A).dropWhile fun x =>
      !(isBlankByte x || x == 0x0A)

def dropFields (separator : Option UInt8) (keep : Bool) : Nat → Bytes → Bytes
  | 0, b => b
  | n + 1, b => dropFields separator keep n (dropField separator (keep && n == 0) b)

namespace SortKey

def part (k : SortKey) (separator : Option UInt8) (b : Bytes) : Bytes :=
  let skipBlanks := fun (on : Bool) (b : Bytes) => if on then b.dropWhile isBlankByte else b
  let start := (skipBlanks k.startBlanks (dropFields separator false k.field b)).drop k.offset
  match k.last with
  | none => start
  | some (field, offset) =>
    let after := if offset == 0 then dropFields separator true (field + 1) b
      else (skipBlanks k.endBlanks (dropFields separator false field b)).drop offset
    start.take (start.length - after.length)

def compareLines (k : SortKey) (separator : Option UInt8) (a b : Bytes) : Ordering :=
  k.order.compareTexts (k.part separator a) (k.part separator b)

end SortKey

def orderLetters : List Char := "bdfghiMnRrV".toList

def countAt (why : String) (text : List Char) : Except String (Nat × List Char) :=
  let digits := text.takeWhile Char.isDigit
  match Text.digits? digits with
  | none => .error (why ++ ": invalid count at start of '" ++ String.ofList text ++ "'")
  | some n => .ok (n, text.drop digits.length)

def readKey (text : String) : Except String SortKey := do
  let refuse := fun (why : String) =>
    (.error (why ++ ": invalid field specification '" ++ text ++ "'") : Except String Unit)
  let (field, rest) ← countAt "invalid number at field start" text.toList
  if field == 0 then refuse "field number is zero"
  let (offset, rest) ← match rest with
    | '.' :: rest => countAt "invalid number after '.'" rest
    | _ => .ok (1, rest)
  if offset == 0 then refuse "character offset is zero"
  let first := rest.takeWhile orderLetters.contains
  let rest := rest.drop first.length
  let (last, second, rest) ← match rest with
    | ',' :: rest => do
      let (field, rest) ← countAt "invalid number after ','" rest
      if field == 0 then refuse "field number is zero"
      let (offset, rest) ← match rest with
        | '.' :: rest => countAt "invalid number after '.'" rest
        | _ => .ok (0, rest)
      let letters := rest.takeWhile orderLetters.contains
      .ok (some (field - 1, offset), letters, rest.drop letters.length)
    | _ => .ok (none, [], rest)
  if !rest.isEmpty then refuse "stray character in field spec"
  return { field := field - 1
           offset := offset - 1
           startBlanks := first.contains 'b'
           last := last
           endBlanks := second.contains 'b'
           order := ⟨(first ++ second).filter (· != 'b')⟩ }

structure SortRequest where
  keys : List SortKey
  separator : Option UInt8
  reversed : Bool
  unique : Bool
  stable : Bool
  feed : UInt8

/-- The order of two lines. Where the keys agree, all bytes decide, unless that is not wanted. -/
def SortRequest.compareLines (r : SortRequest) (a b : Bytes) : Ordering :=
  let byKeys := r.keys.foldl (fun order k => order.then (k.compareLines r.separator a b)) .eq
  if byKeys != .eq || ((r.unique || r.stable) && !r.keys.isEmpty) then byKeys
  else
    let order := compareBytes a b
    if r.reversed then order.swap else order

def SortRequest.distinct (r : SortRequest) (lines : List Bytes) : List Bytes :=
  (lines.foldl (fun kept l => match kept with
    | k :: _ => if r.compareLines k l == .eq then kept else l :: kept
    | [] => [l]) []).reverse

def SortRequest.disorder? (r : SortRequest) : Nat → List Bytes → Option (Nat × Bytes)
  | n, a :: b :: rest =>
    let order := r.compareLines a b
    if order == .gt || (order == .eq && r.unique) then some (n + 1, b)
    else r.disorder? (n + 1) (b :: rest)
  | _, _ => none

def sortOptions : OptionTable where
  plain := "bcCdfghiMmnRrsuVz"
  valued := "kotST"
  words := [⟨"ignore-leading-blanks", 'b', false⟩, ⟨"check", 'c', false⟩,
    ⟨"compress-program", 'P', true⟩,
    ⟨"debug", 'D', false⟩, ⟨"dictionary-order", 'd', false⟩, ⟨"ignore-case", 'f', false⟩,
    ⟨"files0-from", 'F', true⟩, ⟨"general-numeric-sort", 'g', false⟩,
    ⟨"ignore-nonprinting", 'i', false⟩, ⟨"key", 'k', true⟩, ⟨"merge", 'm', false⟩,
    ⟨"month-sort", 'M', false⟩, ⟨"numeric-sort", 'n', false⟩, ⟨"human-numeric-sort", 'h', false⟩,
    ⟨"version-sort", 'V', false⟩, ⟨"random-sort", 'R', false⟩, ⟨"random-source", 'Q', true⟩,
    ⟨"sort", 'W', true⟩, ⟨"output", 'o', true⟩, ⟨"reverse", 'r', false⟩, ⟨"stable", 's', false⟩,
    ⟨"batch-size", 'B', true⟩, ⟨"buffer-size", 'S', true⟩, ⟨"field-separator", 't', true⟩,
    ⟨"temporary-directory", 'T', true⟩, ⟨"unique", 'u', false⟩, ⟨"zero-terminated", 'z', false⟩,
    ⟨"parallel", 'A', true⟩]

def clashOf (order : KeyOrder) : Option String :=
  let kinds := ['g', 'h', 'M', 'n', 'R', 'V'].filter order.has
  let plain := if order.has 'd' || order.has 'i' then 1 else 0
  let counted := kinds.filter fun c => c != 'R' && c != 'V'
  if 1 < counted.length + (if kinds.contains 'V' || kinds.contains 'R' then 1 else 0) + plain &&
      !kinds.isEmpty then
    some (String.ofList (['d', 'f', 'g', 'h', 'i', 'M', 'n', 'R', 'V'].filter fun c =>
      order.has c && c != 'f'))
  else none

def separatorOf (text : String) : Except String UInt8 :=
  match Text.encode text with
  | [] => .error "empty tab"
  | [x] => .ok x
  | [0x5C, 0x30] => .ok 0
  | _ => .error ("multi-character tab '" ++ text ++ "'")

def sortRequest (o : Options) : Except String SortRequest := do
  let keys ← (o.given.filter (·.1 == 'k')).mapM fun g => readKey g.2
  let separator ← match o.value? 't' with
    | none => .ok none
    | some text => (separatorOf text).map some
  let order : KeyOrder := ⟨("dfghiMnRrV".toList).filter o.has⟩
  let blanks := o.has 'b'
  let keys := keys.map fun k =>
    if k.order.letters.isEmpty && !k.startBlanks && !k.endBlanks then
      { k with order := order, startBlanks := blanks, endBlanks := blanks }
    else k
  let whole := order.letters.any (· != 'r') || blanks
  let keys := if keys.isEmpty && whole then [{ order := order, startBlanks := blanks }] else keys
  match keys.findSome? fun k => clashOf k.order with
  | some letters => .error ("options '-" ++ letters ++ "' are incompatible")
  | none => return ⟨keys, separator, o.has 'r', o.has 'u', o.has 's', o.feed⟩

def deliver (h : Host) (program : String) (c : Call) (file : Option String) (trouble : String)
    (code : Nat) (r : Report) (data : Bytes) : Status × Flow × Host :=
  match file with
  | none => h.carryOut program c { r with writes := r.writes ++ [(.stdout, data)] }
  | some name =>
    match h.files.write name data with
    | (.ok (), files) => h.carryOut program c r |> fun (s, f, h) =>
        (s, f, { h with files := files })
    | (.error e, _) =>
      h.carryOut program c
        { writes := [complain c trouble (shown name) (": " ++ e.reason)], code := code
          unread := r.unread }

def sort (h : Host) (c : Call) : Status × Flow × Host :=
  let refuse := fun (text : String) =>
    h.carryOut "sort" c { writes := [complain c text [] ""], code := 2, unread := c.input }
  match sortOptions.read c.arguments with
  | .error e => h.carryOut "sort" c (badOption c 2 e)
  | .ok o =>
    match sortRequest o with
    | .error text => refuse text
    | .ok r =>
      let checks := o.has 'c' || o.has 'C'
      if checks && 1 < o.operands.length then
        refuse ("extra operand '" ++ (o.operands[1]?.getD "") ++ "' not allowed with -" ++
          (if o.has 'c' then "c" else "C"))
      else if checks && (o.value? 'o').isSome then
        refuse ("options '-" ++ (if o.has 'c' then "c" else "C") ++ "o' are incompatible")
      else
        let unreadable := fun name => complain c "read failed: " (shown name) ": Is a directory"
        match allContent c "cannot read: " unreadable (gather h c o.operands) with
        | .error w => h.carryOut "sort" c { writes := [w], code := 2, unread := c.input }
        | .ok contents =>
          let groups := contents.map (Text.rawLines r.feed)
          let before := fun a b => r.compareLines a b != .gt
          let report : Report := { unread := leftover c o.operands }
          if checks then
            match r.disorder? 1 groups.flatten with
            | none => h.carryOut "sort" c report
            | some (n, text) =>
              let name := o.operands.head?.getD "-"
              let writes := if o.has 'C' then []
                else [(Channel.stderr, Text.encode (c.name ++ ": ") ++ shown name ++
                  Text.encode (":" ++ toString n ++ ": disorder: ") ++ text ++ [r.feed])]
              h.carryOut "sort" c { report with writes := writes, code := 1 }
          else
            let sorted := if o.has 'm' then groups.foldl (fun a b => List.merge a b before) []
              else groups.flatten.mergeSort before
            let kept := if r.unique then r.distinct sorted else sorted
            deliver h "sort" c (o.value? 'o') "open failed: " 2 report (endLines r.feed kept)

structure LineView where
  fields : Nat := 0
  bytes : Nat := 0
  limit : Option Nat := none
  folded : Bool := false

def LineView.of (v : LineView) (l : Bytes) : Bytes :=
  let rest := (dropFields none false v.fields l).drop v.bytes
  let rest := match v.limit with
    | some n => rest.take n
    | none => rest
  if v.folded then rest.map upperByte else rest

def runsOf (v : LineView) (lines : List Bytes) : List (List Bytes) :=
  ((lines.foldl (fun runs l => match runs with
    | (k :: ks) :: rest => if v.of k == v.of l then (l :: k :: ks) :: rest else [l] :: runs
    | _ => [l] :: runs) ([] : List (List Bytes))).map List.reverse).reverse

def uniqOptions : OptionTable where
  plain := "cdDiuz"
  valued := "fsw"
  words := [⟨"count", 'c', false⟩, ⟨"repeated", 'd', false⟩, ⟨"all-repeated", 'D', false⟩,
    ⟨"group", 'G', false⟩, ⟨"ignore-case", 'i', false⟩, ⟨"unique", 'u', false⟩,
    ⟨"skip-fields", 'f', true⟩, ⟨"skip-chars", 's', true⟩, ⟨"check-chars", 'w', true⟩,
    ⟨"zero-terminated", 'z', false⟩]

def lineView (o : Options) : Except String LineView := do
  let number := fun (letter : Char) (what : String) => match o.value? letter with
    | none => (.ok none : Except String (Option Nat))
    | some text => match Text.readNat? (Nat.pow 10 40) text.toList with
      | some n => .ok (some n)
      | none => .error (text ++ ": invalid number of " ++ what)
  let fields ← number 'f' "fields to skip"
  let bytes ← number 's' "bytes to skip"
  let limit ← number 'w' "bytes to compare"
  return ⟨min (fields.getD 0) 100000, bytes.getD 0, limit, o.has 'i'⟩

def uniqLines (o : Options) (runs : List (List Bytes)) : List Bytes :=
  let wanted := runs.filter fun r =>
    (!(o.has 'd' || o.has 'D') || 1 < r.length) && (!o.has 'u' || r.length == 1)
  if o.has 'G' then
    (runs.map fun r => r).intersperse [[]] |>.flatten
  else if o.has 'D' then wanted.flatten
  else
    wanted.map fun r =>
      let l := r.head?.getD []
      if o.has 'c' then Text.encode (padLeft 7 (toString r.length) ++ " ") ++ l else l

def uniq (h : Host) (c : Call) : Status × Flow × Host :=
  let reported := fun (r : Report) => h.carryOut "uniq" c r
  match uniqOptions.read c.arguments with
  | .error e => reported (badOption c 1 e)
  | .ok o =>
    match lineView o, o.operands with
    | .error text, _ =>
      reported { writes := [complain c text [] ""], code := 1, unread := c.input }
    | .ok _, _ :: _ :: extra :: _ => reported (misuseOf c "extra operand " extra "")
    | .ok v, operands =>
      if o.has 'c' && o.has 'D' then
        reported (Report.misuse c
          "printing all duplicated lines and repeat counts is meaningless" 1)
      else
        let unreadable := fun name => complain c "error reading " (quoted name) ": Is a directory"
        match allContent c "" unreadable (gather h c (operands.take 1)) with
        | .error w => reported { writes := [w], code := 1, unread := c.input }
        | .ok contents =>
          let lines := Text.rawLines o.feed contents.flatten
          deliver h "uniq" c ((operands.drop 1).head?.filter (· != "-")) "" 1
            { unread := leftover c (operands.take 1) }
            (endLines o.feed (uniqLines o (runsOf v lines)))

end PipeShell.Program
