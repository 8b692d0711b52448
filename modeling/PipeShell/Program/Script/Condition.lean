import PipeShell.Program.Script.State

/-!
# Conditions

The conditions of `test`: comparisons of texts and numbers, questions about files, and their
combinations.
-/

namespace PipeShell.Script

abbrev Verdict := Except String Bool

def integer (text : String) : Except String Int :=
  let cs := Text.trim text.toList
  let digits := match cs with
    | '-' :: ds | '+' :: ds => ds
    | ds => ds
  match Text.digits? digits with
  | some n => .ok (if cs.head? = some '-' then -(Int.ofNat n) else Int.ofNat n)
  | none => .error ("Illegal number: " ++ text)

/-- Compares two texts, or the files that they name. Of two files that exist neither is newer. -/
def compare? (files : Files) (a op b : String) : Option Verdict :=
  let found := fun name => (files.find name).toOption
  let numbers := fun (holds : Int → Int → Bool) => some (do
    let x ← integer a
    let y ← integer b
    return holds x y)
  match op with
  | "=" => some (.ok (a == b))
  | "!=" => some (.ok (a != b))
  | "<" => some (.ok (a < b))
  | ">" => some (.ok (b < a))
  | "-eq" => numbers (· == ·)
  | "-ne" => numbers (· != ·)
  | "-lt" => numbers (· < ·)
  | "-le" => numbers (· ≤ ·)
  | "-gt" => numbers (· > ·)
  | "-ge" => numbers (· ≥ ·)
  | "-ef" => some (.ok ((found a).isSome && found a == found b))
  | "-nt" => some (.ok ((found a).isSome && (found b).isNone))
  | "-ot" => some (.ok ((found b).isSome && (found a).isNone))
  | _ => none

def ask? (files : Files) (op a : String) : Option Bool :=
  let node := fun (holds : Node → Bool) => some (match files.stat a with
    | .ok n => holds n
    | .error _ => false)
  match op with
  | "-z" => some a.isEmpty
  | "-n" => some !a.isEmpty
  | "-e" => node fun _ => true
  | "-f" => node fun n => match n with
    | .file .. => true
    | _ => false
  | "-d" => node fun n => match n with
    | .dir .. => true
    | _ => false
  | "-c" => node fun n => match n with
    | .device _ => true
    | _ => false
  | "-s" => node fun n => match n with
    | .file content _ => !content.isEmpty
    | .dir .. => true
    | _ => false
  | "-r" => node (·.allows .read)
  | "-w" => node (·.allows .write)
  | "-x" => node (·.allows .execute)
  | "-h" | "-L" => some (match files.findEntry a with
    | .ok i => match files.node? i with
      | some (.link _) => true
      | _ => false
    | .error _ => false)
  | "-b" | "-p" | "-S" | "-t" | "-u" | "-g" | "-k" => some false
  | "-O" | "-G" => node fun _ => true
  | _ => none

mutual

def anyOf (files : Files) : Nat → List String → Except String (Bool × List String)
  | 0, _ => .error "unexpected operator"
  | n + 1, ts =>
    match allOf files n ts with
    | .ok (a, "-o" :: rest) => (anyOf files n rest).map fun (b, rest) => (a || b, rest)
    | result => result

def allOf (files : Files) : Nat → List String → Except String (Bool × List String)
  | 0, _ => .error "unexpected operator"
  | n + 1, ts =>
    match notOf files n ts with
    | .ok (a, "-a" :: rest) => (allOf files n rest).map fun (b, rest) => (a && b, rest)
    | result => result

def notOf (files : Files) : Nat → List String → Except String (Bool × List String)
  | 0, _ => .error "unexpected operator"
  | n + 1, ts =>
    match ts with
    | "!" :: a :: rest => (notOf files n (a :: rest)).map fun (b, rest) => (!b, rest)
    | _ => oneOf files n ts

def oneOf (files : Files) : Nat → List String → Except String (Bool × List String)
  | 0, _ => .error "unexpected operator"
  | n + 1, ts =>
    match ts with
    | [] => .error "argument expected"
    | a :: op :: b :: rest =>
      match compare? files a op b with
      | some verdict => verdict.map fun v => (v, rest)
      | none =>
        if a == "(" then
          match anyOf files n (op :: b :: rest) with
          | .ok (v, ")" :: rest) => .ok (v, rest)
          | .ok _ => .error "closing paren expected"
          | .error e => .error e
        else
          match ask? files a op with
          | some v => .ok (v, b :: rest)
          | none => .ok (!a.isEmpty, op :: b :: rest)
    | [op, a] =>
      match ask? files op a with
      | some v => .ok (v, [])
      | none => .ok (!op.isEmpty, [a])
    | [a] => .ok (!a.isEmpty, [])

end

def test (files : Files) (args : List String) : Verdict :=
  match args with
  | [] => .ok false
  | [a] => .ok !a.isEmpty
  | _ =>
    match anyOf files (8 * args.length + 8) args with
    | .error e => .error e
    | .ok (v, []) => .ok v
    | .ok (_, _ :: _) => .error ((args.head?.getD "") ++ ": unexpected operator")

end PipeShell.Script
