import Mathlib.Data.List.Induction
import Mathlib.Data.Nat.Digits.Defs
import Mathlib.Tactic.Common
import PipeShell.Text.Number

/-!
# What numbers stand for

The readers of numbers go through the digits from the left. The value of the digits is given here
from the right, as the sum of the digits times powers of ten.
-/

namespace PipeShell.Text

def value (ds : List Char) : Nat := Nat.ofDigits 10 (ds.reverse.map fun d => d.toNat - '0'.toNat)

theorem value_append_singleton (ds : List Char) (d : Char) :
    value (ds ++ [d]) = value ds * 10 + (d.toNat - '0'.toNat) := by
  rw [value, List.reverse_append, List.reverse_singleton, List.singleton_append, List.map_cons,
    Nat.ofDigits_cons, ← value]
  omega

inductive Decimal : List Char → Int → Prop
  | bare {ds : List Char} (hne : ds ≠ []) (hd : ∀ d ∈ ds, d.isDigit) : Decimal ds (value ds)
  | plus {ds : List Char} (hne : ds ≠ []) (hd : ∀ d ∈ ds, d.isDigit) :
      Decimal ('+' :: ds) (value ds)
  | minus {ds : List Char} (hne : ds ≠ []) (hd : ∀ d ∈ ds, d.isDigit) :
      Decimal ('-' :: ds) (-(value ds : Int))

theorem digit?_eq (c : Char) :
    digit? c = if c.isDigit then some (c.toNat - '0'.toNat) else none := by
  have hiff : ('0' ≤ c ∧ c ≤ '9') ↔ c.isDigit = true := by
    simp only [Char.isDigit, Bool.and_eq_true, decide_eq_true_eq, Char.le_def, ge_iff_le]
  simp only [digit?, hiff]

def scan (ds : List Char) : Option Nat :=
  ds.foldl (fun n c => do return (← n) * 10 + (← digit? c)) (some 0)

theorem scan_eq (ds : List Char) :
    scan ds = if ds.all Char.isDigit then some (value ds) else none := by
  induction ds using List.reverseRecOn with
  | nil => rfl
  | append_singleton ds d ih =>
    have hstep : scan (ds ++ [d]) = do return (← scan ds) * 10 + (← digit? d) := by
      simp only [scan, List.foldl_append, List.foldl_cons, List.foldl_nil]
    rw [hstep, ih, digit?_eq, value_append_singleton, List.all_append]
    cases ds.all Char.isDigit <;> cases hd : d.isDigit <;> simp [hd]

theorem digits?_eq_some_iff {ds : List Char} {n : Nat} :
    digits? ds = some n ↔ ds ≠ [] ∧ (∀ d ∈ ds, d.isDigit) ∧ n = value ds := by
  cases ds with
  | nil => simp [digits?]
  | cons d ds =>
    have hscan : digits? (d :: ds) = scan (d :: ds) := rfl
    rw [hscan, scan_eq, Option.ite_none_right_eq_some, List.all_eq_true, Option.some.injEq,
      eq_comm (a := n)]
    simp only [ne_eq, List.cons_ne_nil, not_false_eq_true, true_and]

theorem decimal_minus_iff {ds : List Char} {n : Int} :
    Decimal ('-' :: ds) n ↔ ds ≠ [] ∧ (∀ d ∈ ds, d.isDigit) ∧ n = -(value ds : Int) := by
  constructor
  · rintro (⟨-, hd⟩ | - | ⟨hne, hd⟩)
    · exact absurd (hd '-' List.mem_cons_self) (by decide)
    · exact ⟨hne, hd, rfl⟩
  · rintro ⟨hne, hd, rfl⟩
    exact .minus hne hd

theorem decimal_plus_iff {ds : List Char} {n : Int} :
    Decimal ('+' :: ds) n ↔ ds ≠ [] ∧ (∀ d ∈ ds, d.isDigit) ∧ n = value ds := by
  constructor
  · rintro (⟨-, hd⟩ | ⟨hne, hd⟩ | -)
    · exact absurd (hd '+' List.mem_cons_self) (by decide)
    · exact ⟨hne, hd, rfl⟩
  · rintro ⟨hne, hd, rfl⟩
    exact .plus hne hd

theorem decimal_bare_iff {ds : List Char} (hp : ∀ rest, ds ≠ '+' :: rest)
    (hm : ∀ rest, ds ≠ '-' :: rest) {n : Int} :
    Decimal ds n ↔ ds ≠ [] ∧ (∀ d ∈ ds, d.isDigit) ∧ n = value ds := by
  constructor
  · rintro (⟨hne, hd⟩ | - | -)
    · exact ⟨hne, hd, rfl⟩
    · exact absurd rfl (hp _)
    · exact absurd rfl (hm _)
  · rintro ⟨hne, hd, rfl⟩
    exact .bare hne hd

/-- A number is read from its decimal notation alone, if it fits. -/
theorem readInt?_eq_some_iff {limit : Nat} {cs : List Char} {n : Int} :
    readInt? limit cs = some n ↔ Decimal cs n ∧ -(limit : Int) - 1 ≤ n ∧ n ≤ limit := by
  have hnat : ∀ ds : List Char, ((digits? ds).filter (· ≤ limit)).map Int.ofNat = some n ↔
      (ds ≠ [] ∧ (∀ d ∈ ds, d.isDigit) ∧ n = value ds) ∧ -(limit : Int) - 1 ≤ n ∧ n ≤ limit := by
    intro ds
    simp only [Option.map_eq_some_iff, Option.filter_eq_some_iff, digits?_eq_some_iff,
      decide_eq_true_eq, Int.ofNat_eq_natCast]
    constructor
    · rintro ⟨_, ⟨⟨hne, hd, rfl⟩, hle⟩, rfl⟩
      exact ⟨⟨hne, hd, rfl⟩, by omega, by omega⟩
    · rintro ⟨⟨hne, hd, rfl⟩, -, hle⟩
      exact ⟨_, ⟨⟨hne, hd, rfl⟩, by omega⟩, rfl⟩
  unfold readInt?
  split
  · next rest =>
    rw [decimal_minus_iff]
    simp only [Option.map_eq_some_iff, Option.filter_eq_some_iff, digits?_eq_some_iff,
      decide_eq_true_eq, Int.ofNat_eq_natCast]
    constructor
    · rintro ⟨_, ⟨⟨hne, hd, rfl⟩, hle⟩, rfl⟩
      exact ⟨⟨hne, hd, rfl⟩, by omega, by omega⟩
    · rintro ⟨⟨hne, hd, rfl⟩, hle, -⟩
      exact ⟨_, ⟨⟨hne, hd, rfl⟩, by omega⟩, rfl⟩
  · next hm =>
    unfold readNat?
    split
    · rw [decimal_plus_iff]
      exact hnat _
    · next hp =>
      rw [decimal_bare_iff hp hm]
      exact hnat cs

theorem Decimal.unique {cs : List Char} {m n : Int} (hm : Decimal cs m) (hn : Decimal cs n) :
    m = n := by
  have hread : ∀ k, Decimal cs k → k.natAbs ≤ max m.natAbs n.natAbs →
      readInt? (max m.natAbs n.natAbs) cs = some k := fun k hk hle =>
    readInt?_eq_some_iff.2 ⟨hk, by omega, by omega⟩
  exact Option.some.inj ((hread m hm (Nat.le_max_left _ _)).symm.trans
    (hread n hn (Nat.le_max_right _ _)))

end PipeShell.Text
