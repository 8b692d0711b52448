import PipeShell.Proofs.Text.Bytes
import PipeShell.Text.Order

/-!
# The order of names

Names are compared by their characters. UTF-8 was made so that this is also the order of their
bytes: the encodings of two characters differ first in a byte that is smaller for the smaller
character, whatever follows.
-/

namespace PipeShell.Text

theorem cons_ofNat_lt {m n : Nat} {xs ys : Bytes} (hn : n < 256)
    (h : m < n ∨ m = n ∧ xs < ys) : UInt8.ofNat m :: xs < UInt8.ofNat n :: ys := by
  rw [List.cons_lt_cons_iff, UInt8.lt_iff_toNat_lt, UInt8.toNat_ofNat', UInt8.toNat_ofNat']
  rcases h with hlt | ⟨rfl, hlt⟩
  · exact Or.inl (by omega)
  · exact Or.inr ⟨rfl, hlt⟩

theorem continuation_lt {m n : Nat} {xs ys : Bytes} (hq : m / 64 = n / 64)
    (h : m < n ∨ m = n ∧ xs < ys) :
    UInt8.ofNat (m % 64 + 0x80) :: xs < UInt8.ofNat (n % 64 + 0x80) :: ys := by
  refine cons_ofNat_lt (by omega) ?_
  rcases h with hlt | ⟨rfl, hlt⟩
  · exact Or.inl (by omega)
  · exact Or.inr ⟨rfl, hlt⟩

theorem utf8EncodeChar_append_lt {c d : Char} (h : c < d) (xs ys : Bytes) :
    String.utf8EncodeChar c ++ xs < String.utf8EncodeChar d ++ ys := by
  have hlt : c.val.toNat < d.val.toNat := h
  have hmax : d.val.toNat < 0x110000 := by
    rcases d.valid with hd | hd
    · omega
    · exact hd.2
  simp only [String.utf8EncodeChar]
  generalize c.val.toNat = m at hlt ⊢
  generalize d.val.toNat = n at hlt hmax ⊢
  have hdiv : ∀ k, m / k < n / k ∨ m / k = n / k := fun k =>
    Nat.lt_or_eq_of_le (Nat.div_le_div_right (Nat.le_of_lt hlt))
  have hlast : m / 64 = n / 64 → UInt8.ofNat (m % 64 + 0x80) :: xs <
      UInt8.ofNat (n % 64 + 0x80) :: ys := fun hq => continuation_lt hq (Or.inl hlt)
  have hlast₂ : m / 4096 = n / 4096 →
      UInt8.ofNat (m / 64 % 64 + 0x80) :: UInt8.ofNat (m % 64 + 0x80) :: xs <
        UInt8.ofNat (n / 64 % 64 + 0x80) :: UInt8.ofNat (n % 64 + 0x80) :: ys := by
    intro hq
    refine continuation_lt ?_ ((hdiv 64).imp id fun heq => ⟨heq, hlast heq⟩)
    rw [Nat.div_div_eq_div_mul, Nat.div_div_eq_div_mul, hq]
  split_ifs
  -- where the lengths differ, the first bytes do
  all_goals try exact cons_ofNat_lt (by omega) (Or.inl (by omega))
  · refine cons_ofNat_lt (by omega) ((hdiv 64).imp (by omega) ?_)
    exact fun heq => ⟨by rw [heq], hlast heq⟩
  · refine cons_ofNat_lt (by omega) ((hdiv 4096).imp (by omega) ?_)
    exact fun heq => ⟨by rw [heq], hlast₂ heq⟩
  · refine cons_ofNat_lt (by omega) ((hdiv 262144).imp (by omega) ?_)
    intro hq
    refine ⟨by rw [hq], continuation_lt ?_ ((hdiv 4096).imp id fun heq => ⟨heq, hlast₂ heq⟩)⟩
    rw [Nat.div_div_eq_div_mul, Nat.div_div_eq_div_mul, hq]

theorem flatMap_utf8EncodeChar_lt {cs ds : List Char} (h : cs < ds) :
    cs.flatMap String.utf8EncodeChar < ds.flatMap String.utf8EncodeChar := by
  induction cs generalizing ds with
  | nil =>
    cases ds with
    | nil => exact absurd h (List.lt_irrefl _)
    | cons d ds =>
      rw [List.flatMap_cons, List.flatMap_nil]
      cases he : String.utf8EncodeChar d with
      | nil => exact absurd he String.utf8EncodeChar_ne_nil
      | cons b bs => exact List.nil_lt_cons _ _
  | cons c cs ih =>
    cases ds with
    | nil => exact absurd h (List.not_lt_nil _)
    | cons d ds =>
      rw [List.flatMap_cons, List.flatMap_cons]
      rcases List.cons_lt_cons_iff.1 h with hc | ⟨rfl, hcs⟩
      · exact utf8EncodeChar_append_lt hc _ _
      · exact List.append_left_lt (ih hcs)

/-- The order of names is that of their bytes. -/
theorem encode_lt {s t : String} (h : s < t) : encode s < encode t := by
  rw [encode_eq_flatMap, encode_eq_flatMap]
  exact flatMap_utf8EncodeChar_lt h

theorem mem_dropRepeats {name : String} (names : List String) :
    name ∈ dropRepeats names ↔ name ∈ names := by
  induction names using dropRepeats.induct with
  | case1 => rfl
  | case2 x => rfl
  | case3 x rest ih => simp [dropRepeats, ih]
  | case4 x y rest hne ih =>
    rw [dropRepeats, if_neg hne, List.mem_cons, ih, ← List.mem_cons]

theorem pairwise_dropRepeats {names : List String} (h : names.Pairwise (· ≤ ·)) :
    (dropRepeats names).Pairwise (· < ·) := by
  induction names using dropRepeats.induct with
  | case1 => exact List.Pairwise.nil
  | case2 x => exact List.pairwise_singleton _ _
  | case3 x rest ih =>
    rw [dropRepeats, if_pos rfl]
    exact ih (List.pairwise_cons.1 h).2
  | case4 x y rest hne ih =>
    obtain ⟨hx, hrest⟩ := List.pairwise_cons.1 h
    obtain ⟨hy, -⟩ := List.pairwise_cons.1 hrest
    rw [dropRepeats, if_neg hne]
    refine List.pairwise_cons.2 ⟨?_, ih hrest⟩
    intro z hz
    rw [mem_dropRepeats] at hz
    have hxy : x < y := Std.lt_of_le_of_ne (hx y List.mem_cons_self) hne
    rcases List.mem_cons.1 hz with rfl | hz
    · exact hxy
    · exact Std.lt_of_lt_of_le hxy (hy z hz)

theorem mem_distinctSorted {name : String} {names : List String} :
    name ∈ distinctSorted names ↔ name ∈ names := by
  rw [distinctSorted, mem_dropRepeats, sortNames, List.mem_mergeSort]

theorem pairwise_distinctSorted (names : List String) :
    (distinctSorted names).Pairwise (· < ·) := by
  refine pairwise_dropRepeats ?_
  have hs : (sortNames names).Pairwise fun a b => decide (a ≤ b) :=
    List.pairwise_mergeSort (by simpa using fun _ _ _ => String.le_trans)
      (by simpa using String.le_total) names
  simpa using hs

theorem startsWith_iff {text name : String} :
    startsWith text name = true ↔ text.toList <+: name.toList := by
  rw [startsWith, List.isPrefixOf_iff_prefix]

end PipeShell.Text
