import PipeShell.Program.Input

/-!
# The start and the end of files

The programs `head` and `tail` write a part of each file: so many lines or bytes of it from one end,
or all but so many.
-/

namespace PipeShell.Program

/-- How much to take. For `head`, a minus sign leaves the count out at the end; for `tail`, a plus
sign starts with the line or byte of that number. -/
structure Amount where
  byBytes : Bool
  sign : Option Char
  value : Nat

def factorOf (letters : List Char) : Option Nat :=
  let power := fun (c : Char) => "kmgtpezyrq".toList.findIdx? (· == c.toLower)
  let known := fun (c : Char) => c == 'k' || c == 'm' || "KMGTPEZYRQ".toList.contains c
  match letters with
  | [] => some 1
  | ['b'] => some 512
  | [c] => if known c then (power c).map fun k => Nat.pow 1024 (k + 1) else none
  | [c, 'B'] => if known c then (power c).map fun k => Nat.pow 1000 (k + 1) else none
  | [c, 'i', 'B'] => if known c then (power c).map fun k => Nat.pow 1024 (k + 1) else none
  | _ => none

def readAmount (text : List Char) : Except String Nat :=
  let body := text.dropWhile fun c => c.isWhitespace || c == Char.ofNat 11 || c == Char.ofNat 12
  let body := if body.head? == some '+' then body.drop 1 else body
  let digits := body.takeWhile Char.isDigit
  match factorOf (body.drop digits.length) with
  | none => .error ""
  | some factor =>
    if digits.isEmpty && body.isEmpty then .error ""
    else
      let n := ((Text.digits? digits).getD 1) * factor
      if n ≤ Text.max64 then .ok n else .error ": Value too large for defined data type"

def headOf (feed : UInt8) (a : Amount) (f : Flow) : Bytes :=
  let all := match f.endless with
    | none => f.bytes
    | some unit =>
      f.bytes ++ (List.replicate (if a.byBytes then a.value else a.value + 1) unit).flatten
  if a.byBytes then
    if a.sign == some '-' then all.take (all.length - a.value) else all.take a.value
  else
    let lines := endedLines feed all
    if a.sign == some '-' then (lines.take (lines.length - a.value)).flatten
    else (lines.take a.value).flatten

def tailOf (feed : UInt8) (a : Amount) (b : Bytes) : Bytes :=
  if a.byBytes then
    if a.sign == some '+' then b.drop (a.value - 1) else b.drop (b.length - a.value)
  else
    let lines := endedLines feed b
    if a.sign == some '+' then (lines.drop (a.value - 1)).flatten
    else (lines.drop (lines.length - a.value)).flatten

/-- What is done with several files: whether each stands below a title, whether anything is read of
it, and whether a directory ends the work. -/
structure Excerpt where
  titles : Bool
  reads : Bool
  strict : Bool
  pick : Flow → Bytes

def Excerpt.writes (x : Excerpt) (c : Call) :
    Bool → List (String × Except OsError Flow) → List (Channel × Bytes) × Nat
  | _, [] => ([], 0)
  | first, (name, found) :: rest =>
    let title := if x.titles then
      Text.encode ((if first then "" else "\n") ++ "==> " ++
        (if name = "-" then "standard input" else name) ++ " <==\n") else []
    match found with
    | .ok flow =>
      let (writes, code) := x.writes c false rest
      ((.stdout, title ++ x.pick flow) :: writes, code)
    | .error .isDirectory =>
      if x.reads then
        let writes := if x.strict then [] else (x.writes c false rest).1
        ((.stdout, title) :: complain c "error reading " (quoted name) ": Is a directory" :: writes,
          1)
      else
        let (writes, code) := x.writes c false rest
        ((.stdout, title) :: writes, code)
    | .error e =>
      (complain c "cannot open " (quoted name) (" for reading: " ++ e.reason) ::
        (x.writes c first rest).1, 1)

def blocksFor (needed : Nat) : Nat := (needed + 8191) / 8192 * 8192

structure ExcerptRequest where
  amount : Amount := ⟨false, none, 10⟩
  titles : Option Bool := none
  feed : UInt8 := 0x0A

def ExcerptRequest.carryOut (r : ExcerptRequest) (h : Host) (c : Call) (isHead : Bool)
    (operands : List String) : Report :=
  let a := r.amount
  let files := gather h c operands
  let titles := r.titles.getD (1 < files.length)
  let pick := fun flow => if isHead then headOf r.feed a flow else tailOf r.feed a flow.bytes
  let nothing := a.value == 0 && a.sign != some (if isHead then '-' else '+')
  let strict := !isHead && (a.byBytes || (a.sign == some '+' && a.value ≤ 1))
  let (writes, code) := if nothing && !isHead then ([], 0)
    else Excerpt.writes ⟨titles, !nothing, strict, pick⟩ c true files
  let unread : Flow :=
    if nothing || files.all (·.1 != "-") then c.input
    else if isHead && a.sign != some '-' then
      let needed := (pick c.input).length
      let used := if c.extent.isSome then needed else if needed == 0 then 0 else blocksFor needed
      { c.input with bytes := c.input.bytes.drop used }
    else {}
  { writes := writes, code := code, unread := unread }

def ExcerptRequest.take (c : Call) (isHead : Bool) (r : ExcerptRequest) (option : Char × String) :
    Except Report ExcerptRequest :=
  let (letter, text) := option
  if letter == 'q' then .ok { r with titles := some false }
  else if letter == 'v' then .ok { r with titles := some true }
  else if letter == 'z' then .ok { r with feed := 0 }
  else if letter == 'n' || letter == 'c' then
    let byBytes := letter == 'c'
    let body := if text.toList.head? == some '-' then text.toList.drop 1 else text.toList
    let sign := text.toList.head?.filter fun x => x == '-' || (x == '+' && !isHead)
    match readAmount body with
    | .ok n => .ok { r with amount := ⟨byBytes, sign, n⟩ }
    | .error why =>
      .error { writes := [complain c
                ("invalid number of " ++ (if byBytes then "bytes: " else "lines: "))
                (quoted (String.ofList body)) why]
               code := 1
               unread := c.input }
  else .ok r

def headOptions : OptionTable where
  plain := "qvz"
  valued := "cn"
  words := [⟨"bytes", 'c', true⟩, ⟨"lines", 'n', true⟩, ⟨"quiet", 'q', false⟩,
    ⟨"silent", 'q', false⟩, ⟨"verbose", 'v', false⟩, ⟨"zero-terminated", 'z', false⟩]

def tailOptions : OptionTable where
  plain := "fFqvz"
  valued := "cns"
  words := [⟨"bytes", 'c', true⟩, ⟨"follow", 'f', false⟩, ⟨"lines", 'n', true⟩,
    ⟨"max-unchanged-stats", 'M', true⟩, ⟨"pid", 'P', true⟩, ⟨"quiet", 'q', false⟩,
    ⟨"retry", 'R', false⟩, ⟨"silent", 'q', false⟩, ⟨"sleep-interval", 's', true⟩,
    ⟨"verbose", 'v', false⟩, ⟨"zero-terminated", 'z', false⟩]

def trailingLetters (digits : List Char) : (Char × String) → List Char →
    Except Char (List (Char × String))
  | amount, [] => .ok [amount]
  | amount, x :: rest =>
    if x == 'c' then trailingLetters digits ('c', String.ofList digits) rest
    else if x == 'l' then trailingLetters digits ('n', String.ofList digits) rest
    else if x == 'b' || x == 'k' || x == 'm' then
      trailingLetters digits ('c', String.ofList (digits ++ [x])) rest
    else if x == 'q' || x == 'v' || x == 'z' then
      (trailingLetters digits amount rest).map ((x, "") :: ·)
    else .error x

def excerpt (h : Host) (c : Call) (isHead : Bool) (o : Options) : Report :=
  match o.given.foldlM (ExcerptRequest.take c isHead) {} with
  | .error report => report
  | .ok r => r.carryOut h c isHead o.operands

/-- A digit is no option: it can only stand in the first word. -/
def strayDigit (c : Call) (isHead : Bool) (letter : Char) : Report :=
  if isHead then Report.misuse c ("invalid trailing option -- " ++ String.ofList [letter]) 1
  else Report.complaint c ("option used in invalid context -- " ++ String.ofList [letter]) 1

def badExcerptOption (c : Call) (isHead : Bool) : OptionError → Report
  | .unknown letter =>
    if letter.isDigit then strayDigit c isHead letter else badOption c 1 (.unknown letter)
  | e => badOption c 1 e

def head (h : Host) (c : Call) : Report :=
  let (front, words) : Except Char (List (Char × String)) × List String :=
    match c.arguments with
    | word :: rest =>
      match word.toList with
      | '-' :: d :: more =>
        if d.isDigit then
          let digits := (d :: more).takeWhile Char.isDigit
          let letters := (d :: more).drop digits.length
          (trailingLetters digits ('n', String.ofList digits) letters, rest)
        else (.ok [], c.arguments)
      | _ => (.ok [], c.arguments)
    | [] => (.ok [], [])
  match front with
  | .error letter => strayDigit c true letter
  | .ok front =>
    match headOptions.read words with
    | .error e => badExcerptOption c true e
    | .ok o => excerpt h c true { o with given := front ++ o.given }

def bareAmount? (words : List String) : Option ((Char × String) × List String) :=
  let alone := match words with
    | [_] => true
    | [_, file] => file == "-" || !file.startsWith "-"
    | [_, "--", _] => true
    | _ => false
  match alone, words with
  | true, word :: rest =>
    let (sign, body) := match word.toList with
      | '+' :: body => ("+", body)
      | '-' :: body => (if body.isEmpty || body == ['c'] then "" else "-", body)
      | _ => ("", [])
    let digits := body.takeWhile Char.isDigit
    let letters := body.drop digits.length
    let given := if digits.isEmpty then ['1', '0'] else digits
    let amount := sign ++ String.ofList given
    if sign.isEmpty then none
    else if letters.isEmpty || letters == ['l'] then some (('n', amount), rest)
    else if letters == ['c'] then some (('c', amount), rest)
    else if letters == ['b'] then
      some (('c', amount ++ (if digits.isEmpty then "" else "b")), rest)
    else none
  | _, _ => none

def tail (h : Host) (c : Call) : Report :=
  let (front, words) := match bareAmount? c.arguments with
    | some (amount, rest) => ([amount], rest)
    | none => ([], c.arguments)
  match tailOptions.read words with
  | .error e => badExcerptOption c false e
  | .ok o => excerpt h c false { o with given := front ++ o.given }

end PipeShell.Program
