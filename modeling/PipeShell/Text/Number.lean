import PipeShell.Text.Blank

/-!
# Decimal numbers in words

A number is a non-empty run of ASCII digits with an optional plus sign; signed numbers also take a
minus sign. A value that does not fit is refused.
-/

namespace PipeShell.Text

def digit? (c : Char) : Option Nat :=
  if '0' ≤ c ∧ c ≤ '9' then some (c.toNat - '0'.toNat) else none

def digits? : List Char → Option Nat
  | [] => none
  | cs => cs.foldl (fun n c => do return (← n) * 10 + (← digit? c)) (some 0)

def readNat? (limit : Nat) (cs : List Char) : Option Nat :=
  let n := match cs with
    | '+' :: rest => digits? rest
    | _ => digits? cs
  n.filter (· ≤ limit)

def readInt? (limit : Nat) (cs : List Char) : Option Int :=
  match cs with
  | '-' :: rest => ((digits? rest).filter (· ≤ limit + 1)).map fun n => -(Int.ofNat n)
  | _ => (readNat? limit cs).map Int.ofNat

def max64 : Nat := 18446744073709551615

def maxSigned32 : Nat := 2147483647

end PipeShell.Text
