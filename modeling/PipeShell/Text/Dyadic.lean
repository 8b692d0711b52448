/-!
# Binary numbers in decimal text

A number is a whole mantissa times a power of two. A quotient is rounded to a mantissa of a given
count of bits, and a number is rounded to decimal places; both go to the nearest, a tie goes to the
even neighbour.
-/

namespace PipeShell.Text

def roundDiv (n d : Nat) : Nat :=
  let q := n / d
  let r := 2 * (n % d)
  if d < r || (r == d && q % 2 == 1) then q + 1 else q

def tenTo (n : Nat) : Nat := Nat.pow 10 n

structure Dyadic where
  mantissa : Nat
  exponent : Int
  deriving DecidableEq, Repr

namespace Dyadic

def quotient (x : Dyadic) : Nat × Nat :=
  if x.exponent < 0 then (x.mantissa, Nat.shiftLeft 1 x.exponent.natAbs)
  else (Nat.shiftLeft x.mantissa x.exponent.natAbs, 1)

def nearest (bits n d : Nat) : Dyadic :=
  if n == 0 then ⟨0, 0⟩
  else
    let scaled := fun (e : Int) =>
      if e < 0 then (Nat.shiftLeft n e.natAbs, d) else (n, Nat.shiftLeft d e.natAbs)
    let e : Int := Int.ofNat n.log2 - Int.ofNat d.log2 - Int.ofNat bits + 1
    let (p, q) := scaled e
    let e := if p / q < Nat.shiftLeft 1 (bits - 1) then e - 1 else e
    let (p, q) := scaled e
    ⟨roundDiv p q, e⟩

def scaled (x : Dyadic) (power : Int) : Nat :=
  let (n, d) := x.quotient
  if power < 0 then roundDiv n (d * tenTo power.natAbs) else roundDiv (n * tenTo power.natAbs) d

def digitsOf (n : Nat) : List Char := (toString n).toList

def fixed (x : Dyadic) (places : Nat) : List Char × List Char :=
  let digits := digitsOf (x.scaled (Int.ofNat places))
  let digits := List.replicate (places + 1 - digits.length) '0' ++ digits
  digits.splitAt (digits.length - places)

def magnitude (x : Dyadic) : Int :=
  let (n, d) := x.quotient
  if n == 0 then 0
  else if d ≤ n then Int.ofNat ((digitsOf (n / d)).length - 1)
  else
    let k := (digitsOf (d / n)).length - 1
    Int.negOfNat (if d ≤ n * tenTo k then k else k + 1)

def scientific (x : Dyadic) (places : Nat) : List Char × Int :=
  let power := x.magnitude
  let n := x.scaled (Int.ofNat places - power)
  if n < tenTo (places + 1) then
    let digits := digitsOf n
    (List.replicate (places + 1 - digits.length) '0' ++ digits, power)
  else ((digitsOf n).take (places + 1), power + 1)

end Dyadic

end PipeShell.Text
