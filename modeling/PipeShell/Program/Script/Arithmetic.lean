import PipeShell.Program.Script.State

/-!
# Arithmetic of scripts

Integers with the operators of scripts. A name stands for the value of the variable, and an
assignment gives it a new one.
-/

namespace PipeShell.Script

inductive Sum
  | number (n : Int)
  | name (s : String)
  | symbol (s : String)
  deriving Repr, DecidableEq

def longSymbols : List String :=
  ["<<=", ">>=", "<=", ">=", "==", "!=", "&&", "||", "<<", ">>", "+=", "-=", "*=", "/=", "%=", "&=",
    "|=", "^="]

def digitsValue (base : Nat) (ds : List Char) : Int :=
  Int.ofNat (ds.foldl (fun n c =>
    let d := if c.isDigit then c.toNat - 48 else c.toLower.toNat - 87
    n * base + d) 0)

def numberAt (cs : List Char) : Int × List Char :=
  match cs with
  | '0' :: x :: rest =>
    if (x == 'x' || x == 'X') then
      let isHex := fun (c : Char) => c.isDigit || ('a' ≤ c.toLower && c.toLower ≤ 'f')
      (digitsValue 16 (rest.takeWhile isHex), rest.dropWhile isHex)
    else
      let isOctal := fun (c : Char) => '0' ≤ c && c ≤ '7'
      (digitsValue 8 ((x :: rest).takeWhile isOctal), (x :: rest).dropWhile isOctal)
  | _ => (digitsValue 10 (cs.takeWhile Char.isDigit), cs.dropWhile Char.isDigit)

def sumTokens : Nat → List Char → List Sum
  | 0, _ => []
  | _, [] => []
  | n + 1, c :: cs =>
    if c.isWhitespace then sumTokens n cs
    else if c.isDigit then
      let (value, rest) := numberAt (c :: cs)
      .number value :: sumTokens n rest
    else if isNameStart c then
      let name := (c :: cs).takeWhile isNameChar
      .name (String.ofList name) :: sumTokens n ((c :: cs).drop name.length)
    else
      match longSymbols.find? (fun symbol => symbol.toList.isPrefixOf (c :: cs)) with
      | some symbol => .symbol symbol :: sumTokens n ((c :: cs).drop symbol.length)
      | none => .symbol (String.ofList [c]) :: sumTokens n cs

def ofBool (b : Bool) : Int := if b then 1 else 0

def wrap (n : Int) : Int := Int.bmod n 18446744073709551616

def bitwise (op : Nat → Nat → Nat) (a b : Int) : Int :=
  let bits := fun (n : Int) => (n % 18446744073709551616).toNat
  wrap (Int.ofNat (op (bits a) (bits b)))

def binary? : String → Option (Nat × (Int → Int → Int))
  | "*" => some (10, (· * ·))
  | "/" => some (10, Int.tdiv)
  | "%" => some (10, Int.tmod)
  | "+" => some (9, (· + ·))
  | "-" => some (9, (· - ·))
  | "<<" => some (8, fun a b => a * Int.ofNat (Nat.pow 2 (b % 64).toNat))
  | ">>" => some (8, fun a b => Int.fdiv a (Int.ofNat (Nat.pow 2 (b % 64).toNat)))
  | "<" => some (7, fun a b => ofBool (a < b))
  | ">" => some (7, fun a b => ofBool (b < a))
  | "<=" => some (7, fun a b => ofBool (a ≤ b))
  | ">=" => some (7, fun a b => ofBool (b ≤ a))
  | "==" => some (6, fun a b => ofBool (a = b))
  | "!=" => some (6, fun a b => ofBool (a ≠ b))
  | "&" => some (5, bitwise Nat.land)
  | "^" => some (4, bitwise Nat.xor)
  | "|" => some (3, bitwise Nat.lor)
  | "&&" => some (2, fun a b => ofBool (a ≠ 0 && b ≠ 0))
  | "||" => some (1, fun a b => ofBool (a ≠ 0 || b ≠ 0))
  | _ => none

def assigns? (symbol : String) : Option String :=
  if symbol == "=" then some ""
  else if ["+=", "-=", "*=", "/=", "%=", "&=", "|=", "^=", "<<=", ">>="].contains symbol then
    some (String.ofList symbol.toList.dropLast)
  else none

structure Working where
  bindings : Environment
  deriving Repr

abbrev Worked := Except String (Int × List Sum × Working)

def Working.value (w : Working) (name : String) : Except String Int :=
  match (w.bindings.get? name).getD "" with
  | "" => .ok 0
  | text =>
    let (sign, cs) : Int × List Char := match text.toList with
      | '-' :: cs => (-1, cs)
      | '+' :: cs => (1, cs)
      | cs => (1, cs)
    match cs with
    | c :: _ =>
      if c.isDigit then
        match numberAt cs with
        | (v, []) => .ok (sign * v)
        | _ => .error ("Illegal number: " ++ text)
      else .error ("Illegal number: " ++ text)
    | [] => .error ("Illegal number: " ++ text)

def compute (symbol : String) (a b : Int) : Except String Int :=
  if (symbol == "/" || symbol == "%") && b = 0 then .error "division by zero"
  else
    match binary? symbol with
    | some (_, f) => .ok (wrap (f a b))
    | none => .error "expecting primary"

mutual

def sumAtom (w : Working) : Nat → List Sum → Worked
  | n + 1, .symbol "(" :: ts =>
    match sumFrom w n 0 ts with
    | .error e => .error e
    | .ok (v, .symbol ")" :: ts, w) => .ok (v, ts, w)
    | .ok _ => .error "expecting ')'"
  | n + 1, .symbol "-" :: ts => (sumAtom w n ts).map fun (v, ts, w) => (wrap (-v), ts, w)
  | n + 1, .symbol "+" :: ts => sumAtom w n ts
  | n + 1, .symbol "!" :: ts => (sumAtom w n ts).map fun (v, ts, w) => (ofBool (v = 0), ts, w)
  | n + 1, .symbol "~" :: ts => (sumAtom w n ts).map fun (v, ts, w) => (-v - 1, ts, w)
  | _, .number v :: ts => .ok (wrap v, ts, w)
  | n + 1, .name name :: .symbol symbol :: ts =>
    match assigns? symbol with
    | none => (w.value name).map fun v => (v, .symbol symbol :: ts, w)
    | some op =>
      match sumFrom w n 0 ts, w.value name with
      | .error e, _ => .error e
      | .ok _, .error e => .error e
      | .ok (v, ts, w), .ok old =>
        match (if op.isEmpty then .ok v else compute op old v) with
        | .error e => .error e
        | .ok v => .ok (v, ts, ⟨w.bindings.set name (toString v)⟩)
  | _, .name name :: ts => (w.value name).map fun v => (v, ts, w)
  | _, _ => .error "expecting primary"

def sumFrom (w : Working) : Nat → Nat → List Sum → Worked
  | 0, _, _ => .error "expecting primary"
  | n + 1, level, ts =>
    match sumAtom w n ts with
    | .error e => .error e
    | .ok (v, ts, w) => sumRest w n level v ts

def sumRest (w : Working) : Nat → Nat → Int → List Sum → Worked
  | 0, _, v, ts => .ok (v, ts, w)
  | n + 1, level, v, ts =>
    match ts with
    | .symbol "?" :: rest =>
      if level ≠ 0 then .ok (v, ts, w)
      else
        match sumFrom w n 0 rest with
        | .error e => .error e
        | .ok (yes, .symbol ":" :: rest, w) =>
          (sumFrom w n 0 rest).map fun (no, rest, w) => (if v ≠ 0 then yes else no, rest, w)
        | .ok _ => .error "expecting ':'"
    | .symbol op :: rest =>
      match binary? op with
      | some (tightness, _) =>
        if level ≤ tightness then
          match sumFrom w n (tightness + 1) rest with
          | .error e => .error e
          | .ok (b, rest, w) =>
            match compute op v b with
            | .error e => .error e
            | .ok v => sumRest w n level v rest
        else .ok (v, ts, w)
      | none => .ok (v, ts, w)
    | _ => .ok (v, ts, w)

end

def arithmetic (bindings : Environment) (source : String) : Except String (Int × Environment) :=
  let cs := source.toList
  match sumTokens (cs.length + 1) cs with
  | [] => .ok (0, bindings)
  | ts =>
    match sumFrom ⟨bindings⟩ (4 * cs.length + 8) 0 ts with
    | .ok (v, [], w) => .ok (v, w.bindings)
    | .ok _ => .error ("arithmetic expression: expecting EOF: \"" ++ source ++ "\"")
    | .error e =>
      if "Illegal".toList.isPrefixOf e.toList then .error e
      else .error ("arithmetic expression: " ++ e ++ ": \"" ++ source ++ "\"")

end PipeShell.Script
