import PipeShell.Program.Script.Basic

/-!
# Tokens of scripts

A script is cut into words and operators. Inside a word, quotes and dollar signs make parts of
their own. The text of a document in the script follows the line that asks for it.
-/

namespace PipeShell.Script

def isBlankChar (c : Char) : Bool := c == ' ' || c == '\t'

def isOperatorChar (c : Char) : Bool := "|&;<>()".toList.contains c

def isNameStart (c : Char) : Bool := c.isAlpha || c == '_'

def isNameChar (c : Char) : Bool := c.isAlphanum || c == '_'

def isSpecialParameter (c : Char) : Bool := "@*#?$!-".toList.contains c

def grave : Char := Char.ofNat 0x60

def newlinesIn (cs : List Char) : Nat := (cs.filter (· == '\n')).length

def untilClose (opening closing : Char) :
    Nat → Nat → List Char → List Char → Option (List Char × List Char)
  | 0, _, _, _ => none
  | _, _, _, [] => none
  | n + 1, depth, found, '\\' :: c :: cs =>
    untilClose opening closing n depth (c :: '\\' :: found) cs
  | n + 1, depth, found, c :: cs =>
    if (c == '\x27' || c == '"') && cs.contains c then
      let inner := cs.takeWhile (· ≠ c)
      untilClose opening closing n depth (c :: inner.reverse ++ c :: found)
        (cs.drop (inner.length + 1))
    else if c == opening then untilClose opening closing n (depth + 1) (c :: found) cs
    else if c == closing then
      match depth with
      | 0 => some (found.reverse, cs)
      | depth + 1 => untilClose opening closing n depth (c :: found) cs
    else untilClose opening closing n depth (c :: found) cs

def adjustment? (cs : List Char) : Option Adjustment :=
  match cs with
  | [] => some .plain
  | ':' :: '-' :: rest => some (.fallback true (String.ofList rest))
  | '-' :: rest => some (.fallback false (String.ofList rest))
  | ':' :: '=' :: rest => some (.assigned true (String.ofList rest))
  | '=' :: rest => some (.assigned false (String.ofList rest))
  | ':' :: '?' :: rest => some (.required true (String.ofList rest))
  | '?' :: rest => some (.required false (String.ofList rest))
  | ':' :: '+' :: rest => some (.instead true (String.ofList rest))
  | '+' :: rest => some (.instead false (String.ofList rest))
  | '#' :: '#' :: rest => some (.withoutStart true (String.ofList rest))
  | '#' :: rest => some (.withoutStart false (String.ofList rest))
  | '%' :: '%' :: rest => some (.withoutEnd true (String.ofList rest))
  | '%' :: rest => some (.withoutEnd false (String.ofList rest))
  | _ => none

def parameterName (cs : List Char) : List Char :=
  match cs with
  | c :: _ =>
    if isNameStart c then cs.takeWhile isNameChar
    else if c.isDigit then cs.takeWhile Char.isDigit
    else if isSpecialParameter c then [c] else []
  | [] => []

def bracedPart (inner : List Char) (quoted : Bool) : Part :=
  let name := parameterName inner
  let length := parameterName (inner.drop 1)
  if inner.head? = some '#' && !length.isEmpty && length.length + 1 = inner.length then
    .length (String.ofList length) quoted
  else if name.isEmpty then .broken
  else
    match adjustment? (inner.drop name.length) with
    | some adjustment => .parameter (String.ofList name) adjustment quoted
    | none => .broken

def dollarPart (quoted : Bool) (cs : List Char) : Except String (Part × List Char) :=
  match cs with
  | '(' :: '(' :: rest =>
    match untilClose '(' ')' (rest.length + 1) 0 [] rest with
    | some (inner, ')' :: rest) => .ok (.arithmetic (String.ofList inner) quoted, rest)
    | _ => .error "Syntax error: Missing '))'"
  | '(' :: rest =>
    match untilClose '(' ')' (rest.length + 1) 0 [] rest with
    | some (inner, rest) => .ok (.command (String.ofList inner) quoted, rest)
    | none => .error "Syntax error: end of file unexpected (expecting \")\")"
  | '\x7b' :: rest =>
    match untilClose '\x7b' '\x7d' (rest.length + 1) 0 [] rest with
    | some (inner, rest) => .ok (bracedPart inner quoted, rest)
    | none => .error "Syntax error: Missing '\x7d'"
  | c :: rest =>
    if isNameStart c then
      let name := cs.takeWhile isNameChar
      .ok (.parameter (String.ofList name) .plain quoted, cs.drop name.length)
    else if c.isDigit || isSpecialParameter c then
      .ok (.parameter (String.ofList [c]) .plain quoted, rest)
    else .ok (.text "$" quoted, cs)
  | [] => .ok (.text "$" quoted, [])

def addChar (c : Char) (quoted : Bool) : Word → Word
  | .text s q :: rest =>
    if q = quoted then .text (s.push c) q :: rest
    else .text (String.ofList [c]) quoted :: .text s q :: rest
  | parts => .text (String.ofList [c]) quoted :: parts

def unterminated : String := "Syntax error: Unterminated quoted string"

/-- Inside of weak quotes, a backslash quotes only these and the character that ends the quote. -/
def isWeakEscape (close : Option Char) (c : Char) : Bool :=
  c == '$' || c == '\\' || c == grave || some c = close

def weakQuoted (close : Option Char) : Nat → Word → List Char → Except String (Word × List Char)
  | 0, parts, cs => .ok (parts, cs)
  | _, parts, [] => if close.isSome then .error unterminated else .ok (parts, [])
  | n + 1, parts, c :: cs =>
    if some c = close then .ok (parts, cs)
    else if c == '\\' then
      match cs with
      | [] => if close.isSome then .error unterminated else .ok (addChar c true parts, [])
      | d :: rest =>
        if d == '\n' then weakQuoted close n parts rest
        else if isWeakEscape close d then weakQuoted close n (addChar d true parts) rest
        else weakQuoted close n (addChar d true (addChar '\\' true parts)) rest
    else if c == '$' then
      match dollarPart true cs with
      | .error e => .error e
      | .ok (part, rest) => weakQuoted close n (part :: parts) rest
    else if c == grave then
      let inner := cs.takeWhile (· ≠ grave)
      weakQuoted close n (.command (String.ofList inner) true :: parts) (cs.drop (inner.length + 1))
    else weakQuoted close n (addChar c true parts) cs

def readWord (braced : Bool) : Nat → Word → List Char → Except String (Word × List Char)
  | 0, parts, cs => .ok (parts.reverse, cs)
  | _, parts, [] => .ok (parts.reverse, [])
  | n + 1, parts, c :: cs =>
    if !braced && (isBlankChar c || c == '\n' || isOperatorChar c) then
      .ok (parts.reverse, c :: cs)
    else if c == '\\' then
      match cs with
      | [] => .ok ((addChar '\\' true parts).reverse, [])
      | d :: rest =>
        if d == '\n' then readWord braced n parts rest
        else readWord braced n (addChar d true parts) rest
    else if c == '\x27' then
      let inner := cs.takeWhile (· ≠ '\x27')
      match cs.drop inner.length with
      | [] => .error unterminated
      | _ :: rest => readWord braced n (.text (String.ofList inner) true :: parts) rest
    else if c == '"' then
      match weakQuoted (some '"') (cs.length + 1) [] cs with
      | .error e => .error e
      | .ok ([], rest) => readWord braced n (.text "" true :: parts) rest
      | .ok (inner, rest) => readWord braced n (inner ++ parts) rest
    else if c == '$' then
      match dollarPart false cs with
      | .error e => .error e
      | .ok (part, rest) => readWord braced n (part :: parts) rest
    else if c == grave then
      let inner := cs.takeWhile (· ≠ grave)
      readWord braced n (.command (String.ofList inner) false :: parts)
        (cs.drop (inner.length + 1))
    else readWord braced n (addChar c false parts) cs

def wordBetweenBraces (source : String) (quoted : Bool) : Word :=
  let cs := source.toList
  let read := if quoted then (weakQuoted none (cs.length + 1) [] (cs.filter (· ≠ '"'))).map
      fun (parts, _) => parts.reverse
    else (readWord true (cs.length + 1) [] cs).map Prod.fst
  match read with
  | .ok word => word
  | .error _ => [.text source quoted]

def operatorAt (cs : List Char) : String × List Char :=
  let known := ["&&", "||", ";;", ">>", "<<", ">&", "<&", ">|", "<>"]
  match cs with
  | '<' :: '<' :: '-' :: rest => ("<<-", rest)
  | a :: b :: rest =>
    let two := String.ofList [a, b]
    if known.contains two then (two, rest) else (String.ofList [a], b :: rest)
  | [a] => (String.ofList [a], [])
  | [] => ("", [])

def plainDigits? : Word → Option Nat
  | [.text s false] => if !s.isEmpty && s.toList.all Char.isDigit then s.toNat? else none
  | _ => none

def delimiter (w : Word) : List Char × Bool :=
  w.foldl (fun (text, quoted) part => match part with
    | .text s q => (text ++ s.toList, quoted || q)
    | _ => (text, quoted)) ([], false)

def documentLines (strip : Bool) (last : List Char) :
    Nat → List (List Char) → List Char → List Char × List Char
  | 0, found, rest => (found.reverse.flatten, rest)
  | _, found, [] => (found.reverse.flatten, [])
  | n + 1, found, cs =>
    let line := cs.takeWhile (· ≠ '\n')
    let rest := cs.drop (line.length + 1)
    let shown := if strip then line.dropWhile (· == '\t') else line
    if shown = last then (found.reverse.flatten, rest)
    else documentLines strip last n ((shown ++ ['\n']) :: found) rest

/-- A document at the front of a text: its word, the text without it, and how many lines it took.
The rest of the line comes first, and the document after it. -/
def documentAt (strip : Bool) (cs : List Char) : Except String (Word × List Char × Nat) :=
  let cs := cs.dropWhile isBlankChar
  match readWord false (cs.length + 1) [] cs with
  | .error e => .error e
  | .ok (word, rest) =>
    let (last, quoted) := delimiter word
    let line := rest.takeWhile (· ≠ '\n')
    let below := rest.drop (line.length + 1)
    let (body, after) := documentLines strip last (below.length + 1) [] below
    let taken := newlinesIn below - newlinesIn after
    let whole := line ++ '\n' :: after
    if quoted then .ok ([.text (String.ofList body) true], whole, taken)
    else (weakQuoted none (body.length + 1) [] body).map fun (parts, _) =>
      (parts.reverse, whole, taken)

/-- The tokens of a script with the lines they stand on. `below` counts the lines of documents that
follow the line being read. The first argument bounds the length. -/
def tokensFrom : Nat → Nat → Nat → List (Token × Nat) → List Char → List (Token × Nat)
  | 0, _, _, found, _ => found.reverse
  | _, _, _, found, [] => found.reverse
  | n + 1, row, below, found, c :: cs =>
    let failed := fun (e : String) =>
      ((.fault ⟨row + newlinesIn cs, e⟩, row) :: found).reverse
    if isBlankChar c then tokensFrom n row below found cs
    else if c == '\n' then tokensFrom n (row + 1 + below) 0 ((.newline, row) :: found) cs
    else if c == '#' then tokensFrom n row below found (cs.dropWhile (· ≠ '\n'))
    else if c == '\\' && cs.head? == some '\n' then tokensFrom n (row + 1) below found (cs.drop 1)
    else if isOperatorChar c then
      let (operator, rest) := operatorAt (c :: cs)
      if operator == "<<" || operator == "<<-" then
        match documentAt (operator == "<<-") rest with
        | .error e => failed e
        | .ok (word, rest, taken) =>
          tokensFrom n row (below + taken)
            ((.document word, row) :: (.operator "<<", row) :: found) rest
      else tokensFrom n row below ((.operator operator, row) :: found) rest
    else
      match readWord false (cs.length + 2) [] (c :: cs) with
      | .error e => failed e
      | .ok (word, rest) =>
        let used := (c :: cs).take (cs.length + 1 - rest.length)
        let next := row + newlinesIn used
        match plainDigits? word, rest with
        | some k, d :: _ =>
          if d == '<' || d == '>' then tokensFrom n next below ((.number k, row) :: found) rest
          else tokensFrom n next below ((.word word, row) :: found) rest
        | _, _ => tokensFrom n next below ((.word word, row) :: found) rest

def tokens (source : String) : List (Token × Nat) :=
  let cs := source.toList
  tokensFrom (2 * cs.length + 1) 1 0 [] cs

end PipeShell.Script
