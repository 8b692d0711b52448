import PipeShell.Program.Script.Lexer

/-!
# Reading scripts

The commands of a script by descent over its tokens. A script is read line by line, as far as its
commands end with lines, so that what stands before a fault is still run. Every function takes a
bound on the number of steps first, which is never reached when it starts above the number of
tokens.
-/

namespace PipeShell.Script

abbrev Tokens := List (Token × Nat)

def rowOf : Tokens → Nat
  | (_, row) :: _ => row
  | [] => 1

def plain? : Word → Option String
  | [.text s false] => some s
  | _ => none

def keywords : List String :=
  ["if", "then", "else", "elif", "fi", "for", "in", "do", "done", "while", "until", "\x7b", "\x7d",
    "!", "case", "esac"]

def keyword? : Tokens → Option String
  | (.word w, _) :: _ => (plain? w).filter keywords.contains
  | _ => none

def describe : Tokens → String
  | [] => "end of file unexpected"
  | (.newline, _) :: _ => "newline unexpected"
  | (.operator s, _) :: _ => "\"" ++ s ++ "\" unexpected"
  | (.number n, _) :: _ => "\"" ++ toString n ++ "\" unexpected"
  | (.word w, _) :: _ =>
    match plain? w with
    | some s => if keywords.contains s then "\"" ++ s ++ "\" unexpected" else "word unexpected"
    | none => "word unexpected"
  | (.document _, _) :: _ | (.fault _, _) :: _ => "word unexpected"

def unexpected (ts : Tokens) (last : Nat) (wanted : Option String) : SyntaxFault :=
  let hint := match wanted with
    | some w => " (expecting \"" ++ w ++ "\")"
    | none => ""
  match ts with
  | (.fault f, _) :: _ => f
  | (_, row) :: _ => ⟨row, "Syntax error: " ++ describe ts ++ hint⟩
  | [] => ⟨last, "Syntax error: " ++ describe ts ++ hint⟩

abbrev Parsed (α : Type) := Except SyntaxFault (α × Tokens)

def skipNewlines : Tokens → Tokens
  | (.newline, _) :: ts => skipNewlines ts
  | ts => ts

def isName (text : String) : Bool :=
  (text.toList.head?.map isNameStart).getD false && text.toList.all isNameChar

def assignment? : Word → Option (String × Word)
  | .text s false :: rest =>
    let cs := s.toList
    let name := cs.takeWhile isNameChar
    match cs.head?, cs.drop name.length with
    | some c, '=' :: value =>
      if isNameStart c then
        let tail := if value.isEmpty then rest else .text (String.ofList value) false :: rest
        some (String.ofList name, tail)
      else none
    | _, _ => none
  | _ => none

def direction? : String → Option (Direction × Nat)
  | "<" | "<>" => some (.read, 0)
  | ">" | ">|" => some (.write, 1)
  | ">>" => some (.append, 1)
  | ">&" => some (.copy, 1)
  | "<&" => some (.copy, 0)
  | "<<" => some (.document, 0)
  | _ => none

def redirection? : Tokens → Option (Except Tokens (Redirection × Tokens))
  | (.number n, _) :: (.operator s, _) :: ts =>
    (direction? s).map fun (d, _) => match ts with
      | (.word w, _) :: ts | (.document w, _) :: ts => .ok (⟨n, d, w⟩, ts)
      | _ => .error ts
  | (.operator s, _) :: ts =>
    (direction? s).map fun (d, n) => match ts with
      | (.word w, _) :: ts | (.document w, _) :: ts => .ok (⟨n, d, w⟩, ts)
      | _ => .error ts
  | _ => none

def redirectionsFrom (last : Nat) : Nat → Tokens → Parsed (List Redirection)
  | 0, ts => .ok ([], ts)
  | n + 1, ts =>
    match redirection? ts with
    | none => .ok ([], ts)
    | some (.error ts) => .error (unexpected ts last none)
    | some (.ok (r, ts)) => (redirectionsFrom last n ts).map fun (rs, ts) => (r :: rs, ts)

def simpleFrom (last : Nat) : Nat → List (String × Word) → List Word → List Redirection → Tokens →
    Parsed (List (String × Word) × List Word × List Redirection)
  | 0, as, ws, rs, ts => .ok ((as.reverse, ws.reverse, rs.reverse), ts)
  | n + 1, as, ws, rs, ts =>
    match redirection? ts with
    | some (.error ts) => .error (unexpected ts last none)
    | some (.ok (r, ts)) => simpleFrom last n as ws (r :: rs) ts
    | none =>
      match ts with
      | (.word w, _) :: rest =>
        match (if ws.isEmpty then assignment? w else none) with
        | some a => simpleFrom last n (a :: as) ws rs rest
        | none => simpleFrom last n as (w :: ws) rs rest
      | (.number k, _) :: rest =>
        simpleFrom last n as ([.text (toString k) false] :: ws) rs rest
      | _ => .ok ((as.reverse, ws.reverse, rs.reverse), ts)

def expect (last : Nat) (word : String) (ts : Tokens) : Parsed Unit :=
  if keyword? ts = some word then .ok ((), ts.drop 1)
  else .error (unexpected ts last (some word))

def patternsFrom (last : Nat) : Nat → List Word → Tokens → Parsed (List Word)
  | n + 1, found, (.word w, _) :: (.operator "|", _) :: ts => patternsFrom last n (w :: found) ts
  | _, found, (.word w, _) :: (.operator ")", _) :: ts => .ok ((w :: found).reverse, ts)
  | _, _, (.word _, _) :: ts => .error (unexpected ts last (some ")"))
  | _, _, ts => .error (unexpected ts last none)

def loopWords : Nat → Tokens → List Word × Tokens
  | n + 1, (.word w, _) :: ts =>
    let (ws, ts) := loopWords n ts
    (w :: ws, ts)
  | _, ts => ([], ts)

def skipSeparator : Tokens → Tokens
  | (.operator ";", _) :: ts => skipNewlines ts
  | ts => skipNewlines ts

def endsList (ts : Tokens) : Bool :=
  match ts with
  | [] => true
  | (.operator ")", _) :: _ => true
  | (.operator ";;", _) :: _ => true
  | _ =>
    match keyword? ts with
    | some w => ["then", "else", "elif", "fi", "do", "done", "\x7d", "esac"].contains w
    | none => false

def definition? : Tokens → Option (String × Tokens)
  | (.word w, _) :: (.operator "(", _) :: (.operator ")", _) :: ts =>
    ((plain? w).filter isName).map fun name => (name, skipNewlines ts)
  | _ => none

mutual

def listFrom (last : Nat) : Nat → Bool → Tokens → Parsed Cmd
  | 0, _, ts => .error (unexpected ts last none)
  | n + 1, single, ts =>
    let ts := if single then ts else skipNewlines ts
    if endsList ts then .ok (.nothing, ts)
    else
      match andOrFrom last n ts with
      | .error e => .error e
      | .ok (first, ts) =>
        match ts with
        | (.operator "&", _) :: ts =>
          (listRest last n single ts).map fun (rest, ts) =>
            (.sequence (.background first) rest, ts)
        | (.operator ";", _) :: ts =>
          (listRest last n single ts).map fun (rest, ts) => (.sequence first rest, ts)
        | (.newline, _) :: more =>
          if single then .ok (first, ts)
          else (listFrom last n single more).map fun (rest, ts) => (.sequence first rest, ts)
        | _ => .ok (first, ts)

def listRest (last : Nat) : Nat → Bool → Tokens → Parsed Cmd
  | 0, _, ts => .error (unexpected ts last none)
  | n + 1, single, ts =>
    match ts with
    | (.newline, _) :: _ => if single then .ok (.nothing, ts) else listFrom last n single ts
    | _ => listFrom last n single ts

def andOrFrom (last : Nat) : Nat → Tokens → Parsed Cmd
  | 0, ts => .error (unexpected ts last none)
  | n + 1, ts =>
    match pipelineFrom last n ts with
    | .error e => .error e
    | .ok (first, ts) => andOrRest last n first ts

def andOrRest (last : Nat) : Nat → Cmd → Tokens → Parsed Cmd
  | 0, first, ts => .ok (first, ts)
  | n + 1, first, ts =>
    match ts with
    | (.operator "&&", _) :: ts =>
      match pipelineFrom last n (skipNewlines ts) with
      | .error e => .error e
      | .ok (next, ts) => andOrRest last n (.both first next) ts
    | (.operator "||", _) :: ts =>
      match pipelineFrom last n (skipNewlines ts) with
      | .error e => .error e
      | .ok (next, ts) => andOrRest last n (.either first next) ts
    | _ => .ok (first, ts)

def pipelineFrom (last : Nat) : Nat → Tokens → Parsed Cmd
  | 0, ts => .error (unexpected ts last none)
  | n + 1, ts =>
    if keyword? ts = some "!" then
      (pipelineFrom last n (ts.drop 1)).map fun (body, ts) => (.negate body, ts)
    else stagesFrom last n ts

def stagesFrom (last : Nat) : Nat → Tokens → Parsed Cmd
  | 0, ts => .error (unexpected ts last none)
  | n + 1, ts =>
    match commandFrom last n ts with
    | .error e => .error e
    | .ok (first, (.operator "|", _) :: ts) =>
      (stagesFrom last n (skipNewlines ts)).map fun (rest, ts) => (.pipe first rest, ts)
    | .ok (first, ts) => .ok (first, ts)

def commandFrom (last : Nat) : Nat → Tokens → Parsed Cmd
  | 0, ts => .error (unexpected ts last none)
  | n + 1, ts =>
    match definition? ts with
    | some (name, ts) => (commandFrom last n ts).map fun (body, ts) => (.define name body, ts)
    | none =>
      if (keyword? ts).isSome || (ts.head?.map Prod.fst) = some (.operator "(") then
        match compoundFrom last n ts with
        | .error e => .error e
        | .ok (body, rest) =>
          (redirectionsFrom last rest.length rest).map fun (rs, rest) =>
            (if rs.isEmpty then body else .redirected body rs (rowOf ts), rest)
      else
        match simpleFrom last (ts.length + 1) [] [] [] ts with
        | .error e => .error e
        | .ok ((as, ws, rs), rest) =>
          if as.isEmpty && ws.isEmpty && rs.isEmpty then .error (unexpected ts last none)
          else .ok (.simple as ws rs (rowOf ts), rest)

def compoundFrom (last : Nat) : Nat → Tokens → Parsed Cmd
  | 0, ts => .error (unexpected ts last none)
  | n + 1, ts =>
    match ts with
    | (.operator "(", _) :: ts =>
      match listFrom last n false ts with
      | .error e => .error e
      | .ok (body, (.operator ")", _) :: ts) => .ok (.subshell body, ts)
      | .ok (_, ts) => .error (unexpected ts last (some ")"))
    | _ =>
      match keyword? ts with
      | some "\x7b" =>
        match listFrom last n false (ts.drop 1) with
        | .error e => .error e
        | .ok (body, ts) => (expect last "\x7d" ts).map fun (_, ts) => (body, ts)
      | some "if" => branchFrom last n (ts.drop 1)
      | some "while" => loopFrom last n false (ts.drop 1)
      | some "until" => loopFrom last n true (ts.drop 1)
      | some "for" => eachFrom last n (ts.drop 1)
      | some "case" => choiceFrom last n (ts.drop 1)
      | _ => .error (unexpected ts last none)

def branchFrom (last : Nat) : Nat → Tokens → Parsed Cmd
  | 0, ts => .error (unexpected ts last none)
  | n + 1, ts =>
    match listFrom last n false ts with
    | .error e => .error e
    | .ok (condition, ts) =>
      match expect last "then" ts with
      | .error e => .error e
      | .ok ((), ts) =>
        match listFrom last n false ts with
        | .error e => .error e
        | .ok (yes, ts) =>
          match keyword? ts with
          | some "elif" =>
            (branchFrom last n (ts.drop 1)).map fun (no, ts) => (.branch condition yes no, ts)
          | some "else" =>
            match listFrom last n false (ts.drop 1) with
            | .error e => .error e
            | .ok (no, ts) =>
              (expect last "fi" ts).map fun (_, ts) => (.branch condition yes no, ts)
          | _ => (expect last "fi" ts).map fun (_, ts) => (.branch condition yes .nothing, ts)

def loopFrom (last : Nat) : Nat → Bool → Tokens → Parsed Cmd
  | 0, _, ts => .error (unexpected ts last none)
  | n + 1, negated, ts =>
    match listFrom last n false ts with
    | .error e => .error e
    | .ok (condition, ts) =>
      (bodyFrom last n ts).map fun (body, ts) => (.loop negated condition body, ts)

def bodyFrom (last : Nat) : Nat → Tokens → Parsed Cmd
  | 0, ts => .error (unexpected ts last none)
  | n + 1, ts =>
    match expect last "do" ts with
    | .error e => .error e
    | .ok ((), ts) =>
      match listFrom last n false ts with
      | .error e => .error e
      | .ok (body, ts) => (expect last "done" ts).map fun (_, ts) => (body, ts)

def eachFrom (last : Nat) : Nat → Tokens → Parsed Cmd
  | 0, ts => .error (unexpected ts last none)
  | n + 1, ts =>
    match ts with
    | (.word w, row) :: ts =>
      match (plain? w).filter isName with
      | none => .error ⟨row, "Syntax error: Bad for loop variable"⟩
      | some name =>
        let ts := skipNewlines ts
        let (words, ts) : Option (List Word) × Tokens :=
          if keyword? ts = some "in" then
            let (ws, ts) := loopWords ts.length (ts.drop 1)
            (some ws, ts)
          else (none, ts)
        (bodyFrom last n (skipSeparator ts)).map fun (body, ts) => (.each name words body, ts)
    | _ => .error (unexpected ts last none)

def choiceFrom (last : Nat) : Nat → Tokens → Parsed Cmd
  | 0, ts => .error (unexpected ts last none)
  | n + 1, ts =>
    match ts with
    | (.word w, _) :: ts =>
      match expect last "in" (skipNewlines ts) with
      | .error e => .error e
      | .ok ((), ts) => (armsFrom last n ts).map fun (arms, ts) => (.choice w arms, ts)
    | _ => .error (unexpected ts last none)

def armsFrom (last : Nat) : Nat → Tokens → Parsed Cmd
  | 0, ts => .error (unexpected ts last none)
  | n + 1, ts =>
    let ts := skipNewlines ts
    if keyword? ts = some "esac" then .ok (.nothing, ts.drop 1)
    else
      let ts := match ts with
        | (.operator "(", _) :: ts => ts
        | ts => ts
      match patternsFrom last ts.length [] ts with
      | .error e => .error e
      | .ok (patterns, ts) =>
        match listFrom last n false ts with
        | .error e => .error e
        | .ok (body, (.operator ";;", _) :: ts) =>
          (armsFrom last n ts).map fun (next, ts) => (.arm patterns body next, ts)
        | .ok (body, ts) =>
          (expect last "esac" ts).map fun (_, ts) => (.arm patterns body .nothing, ts)

end

def nextLine (last : Nat) (ts : Tokens) : Parsed Cmd :=
  match listFrom last (8 * (ts.length + 2)) true (skipNewlines ts) with
  | .error e => .error e
  | .ok (c, []) => .ok (c, [])
  | .ok (c, (.newline, _) :: ts) => .ok (c, ts)
  | .ok (_, ts) => .error (unexpected ts last none)

end PipeShell.Script
