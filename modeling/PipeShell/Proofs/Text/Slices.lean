import PipeShell.Proofs.Text.Order

/-!
# Texts cut at byte positions

A position counts bytes, and a text can only be cut between two of its characters. The part between
two positions is there exactly if the text falls into three parts of these sizes. Its bytes are then
the bytes between the positions.
-/

namespace PipeShell.Text

theorem takeBytes?_size (xs ys : List Char) : takeBytes? (size xs) (xs ++ ys) = some xs := by
  induction xs with
  | nil => cases ys <;> rfl
  | cons c xs ih =>
    obtain ⟨n, hn⟩ : ∃ n, size (c :: xs) = n + 1 :=
      Nat.exists_eq_succ_of_ne_zero (Nat.ne_of_gt (Nat.add_pos_left c.utf8Size_pos _))
    rw [List.cons_append, hn, takeBytes?, ← hn, size_cons, if_pos (Nat.le_add_right _ _),
      Nat.add_sub_cancel_left, ih]
    rfl

variable {n : Nat} {cs : List Char}

theorem takeBytes?_eq_some_iff {before : List Char} :
    takeBytes? n cs = some before ↔ ∃ after, cs = before ++ after ∧ size before = n := by
  constructor
  · intro h
    fun_induction takeBytes? n cs generalizing before with
    | case1 cs =>
      obtain rfl : [] = before := Option.some.inj h
      exact ⟨cs, rfl, rfl⟩
    | case2 n => cases h
    | case3 n c cs hc ih =>
      obtain ⟨head, hhead, rfl⟩ := Option.map_eq_some_iff.1 h
      obtain ⟨after, rfl, hsize⟩ := ih hhead
      exact ⟨after, rfl, by rw [size_cons, hsize, Nat.add_sub_cancel' hc]⟩
    | case4 n c cs hc => cases h
  · rintro ⟨after, rfl, rfl⟩
    exact takeBytes?_size before after

def Inside (n : Nat) (cs : List Char) : Prop :=
  ∃ before c after, cs = before ++ c :: after ∧ size before < n ∧ n < size before + width c

theorem takeBytes?_eq_none (h : takeBytes? n cs = none) : size cs < n ∨ Inside n cs := by
  fun_induction takeBytes? n cs with
  | case1 cs => cases h
  | case2 n => exact Or.inl (Nat.succ_pos n)
  | case3 n c cs hc ih =>
    rcases ih (Option.map_eq_none_iff.1 h) with hpast | ⟨before, d, after, rfl, hlo, hhi⟩
    · refine Or.inl ?_
      rw [size_cons]
      omega
    · refine Or.inr ⟨c :: before, d, after, rfl, ?_, ?_⟩
      · rw [size_cons]
        omega
      · rw [size_cons]
        omega
  | case4 n c cs hc =>
    refine Or.inr ⟨[], c, cs, rfl, Nat.succ_pos n, ?_⟩
    rw [size_nil]
    omega

theorem not_inside_size (before after : List Char) :
    ¬ Inside (size before) (before ++ after) := by
  rintro ⟨start, c, rest, hcs, hlo, hhi⟩
  rcases List.append_eq_append_iff.1 hcs with ⟨gap, rfl, -⟩ | ⟨gap, rfl, hgap⟩
  · rw [size_append] at hlo
    omega
  · cases gap with
    | nil =>
      rw [List.append_nil] at hlo
      omega
    | cons d gap =>
      obtain ⟨rfl, -⟩ := List.cons.inj hgap
      rw [size_append, size_cons] at hhi
      omega

theorem takeBytes?_eq_none_iff : takeBytes? n cs = none ↔ size cs < n ∨ Inside n cs := by
  refine ⟨takeBytes?_eq_none, fun h => ?_⟩
  cases htake : takeBytes? n cs with
  | none => rfl
  | some before =>
    obtain ⟨after, rfl, rfl⟩ := takeBytes?_eq_some_iff.1 htake
    rcases h with hpast | hinside
    · rw [size_append] at hpast
      omega
    · exact absurd hinside (not_inside_size before after)

def slice? (first last : Nat) (cs : List Char) : Option (List Char) :=
  (takeBytes? last cs).bind fun before =>
    (takeBytes? first before).map fun head => before.drop head.length

theorem slice?_eq_some_iff {first last : Nat} {part : List Char} :
    slice? first last cs = some part ↔
      ∃ head rest, cs = head ++ part ++ rest ∧ size head = first ∧ size (head ++ part) = last := by
  rw [slice?, Option.bind_eq_some_iff]
  constructor
  · rintro ⟨before, hbefore, hpart⟩
    obtain ⟨head, hhead, rfl⟩ := Option.map_eq_some_iff.1 hpart
    obtain ⟨rest, rfl, hlast⟩ := takeBytes?_eq_some_iff.1 hbefore
    obtain ⟨part, rfl, hfirst⟩ := takeBytes?_eq_some_iff.1 hhead
    rw [List.drop_left]
    exact ⟨head, rest, rfl, hfirst, hlast⟩
  · rintro ⟨head, rest, rfl, rfl, rfl⟩
    refine ⟨head ++ part, takeBytes?_size _ rest, ?_⟩
    rw [takeBytes?_size, Option.map_some, List.drop_left]

theorem length_encode (cs : List Char) : (encode (String.ofList cs)).length = size cs := by
  rw [encode_eq_flatMap, String.toList_ofList]
  induction cs with
  | nil => rfl
  | cons c cs ih =>
    rw [List.flatMap_cons, List.length_append, ih, String.length_utf8EncodeChar, size_cons, width]

/-- The bytes of a part are the bytes between its positions. -/
theorem encode_of_slice? {first last : Nat} {part : List Char}
    (h : slice? first last cs = some part) :
    encode (String.ofList part) = ((encode (String.ofList cs)).take last).drop first := by
  obtain ⟨head, rest, rfl, rfl, rfl⟩ := slice?_eq_some_iff.1 h
  rw [String.ofList_append, encode_append, ← length_encode (head ++ part), List.take_left,
    String.ofList_append, encode_append, ← length_encode head, List.drop_left]

end PipeShell.Text
