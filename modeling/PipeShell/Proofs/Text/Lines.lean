import Mathlib.Tactic.Common
import PipeShell.Text.Bytes

/-!
# Lines of a text

The lines of a text are its pieces between line feeds. Behind the last line feed there is one more
piece, which is a line only if it is not empty.
-/

namespace PipeShell.Text

section Lines

variable {α : Type} [DecidableEq α] {feed : α}

/-- The last of some pieces does not count if it is empty. -/
def closed (pieces : List (List α)) : List (List α) :=
  if pieces.getLast? = some [] then pieces.dropLast else pieces

theorem closed_cons (piece : List α) {pieces : List (List α)} (hp : pieces ≠ []) :
    closed (piece :: pieces) = piece :: closed pieces := by
  obtain ⟨next, rest, rfl⟩ := List.exists_cons_of_ne_nil hp
  unfold closed
  rw [List.getLast?_cons_cons]
  split_ifs
  · rfl
  · rfl

theorem splitOn_cons_self (feed : α) (xs : List α) :
    (feed :: xs).splitOn feed = [] :: xs.splitOn feed := by
  simp [List.splitOn, List.splitOnP_cons_eq_if_modifyHead]

theorem splitOn_cons_of_ne {x : α} (hx : x ≠ feed) (xs : List α) :
    (x :: xs).splitOn feed = (xs.splitOn feed).modifyHead (x :: ·) := by
  simp [List.splitOn, List.splitOnP_cons_eq_if_modifyHead, hx]

omit [DecidableEq α] in
theorem modifyHead_nil_append (pieces : List (List α)) :
    pieces.modifyHead ([] ++ ·) = pieces := by
  cases pieces <;> rfl

theorem splitAux_eq (pieces : List (List α)) (piece xs : List α) :
    splitAux feed pieces piece xs =
      pieces.reverse ++ closed ((xs.splitOn feed).modifyHead (piece.reverse ++ ·)) := by
  induction xs generalizing pieces piece with
  | nil =>
    by_cases hp : piece = []
    · simp [splitAux, closed, hp]
    · simp [splitAux, closed, hp]
  | cons x xs ih =>
    have hne : xs.splitOn feed ≠ [] := List.splitOnP_ne_nil _ xs
    rw [splitAux]
    split_ifs with hx
    · subst hx
      rw [ih, splitOn_cons_self, List.modifyHead_cons, List.append_nil, closed_cons _ hne,
        List.reverse_nil, modifyHead_nil_append]
      simp
    · rw [ih, splitOn_cons_of_ne hx, List.modifyHead_modifyHead]
      simp [Function.comp_def]

theorem rawLines_eq (feed : α) (xs : List α) : rawLines feed xs = closed (xs.splitOn feed) := by
  rw [rawLines, splitAux_eq, List.reverse_nil, List.reverse_nil, modifyHead_nil_append]
  exact List.nil_append _

theorem splitOn_lines {lines : List (List α)} (hl : ∀ line ∈ lines, feed ∉ line) :
    (lines.flatMap (· ++ [feed])).splitOn feed = lines ++ [[]] := by
  induction lines with
  | nil => simp
  | cons line lines ih =>
    have hline : line.splitOn feed = [line] := by
      refine List.splitOnP_eq_singleton ?_
      intro x hx
      exact beq_false_of_ne (ne_of_mem_of_not_mem hx (hl line List.mem_cons_self))
    have hrest := ih fun other ho => hl other (List.mem_cons_of_mem line ho)
    have hsplit := List.splitOnP_append_cons (p := (· == feed)) line
      (lines.flatMap (· ++ [feed])) (beq_self_eq_true feed)
    change _ = line.splitOn feed ++ (lines.flatMap (· ++ [feed])).splitOn feed at hsplit
    rw [hline, hrest] at hsplit
    rw [List.flatMap_cons, List.append_assoc]
    exact hsplit

theorem closed_splitOn_lines {lines : List (List α)} (hl : ∀ line ∈ lines, feed ∉ line) :
    closed ((lines.flatMap (· ++ [feed])).splitOn feed) = lines := by
  rw [splitOn_lines hl]
  simp [closed]

theorem notMem_of_mem_splitOn {xs piece : List α} (hp : piece ∈ xs.splitOn feed) :
    feed ∉ piece := by
  induction xs generalizing piece with
  | nil =>
    obtain rfl : piece = [] := by simpa using hp
    exact List.not_mem_nil
  | cons x xs ih =>
    by_cases hx : x = feed
    · subst hx
      rw [splitOn_cons_self, List.mem_cons] at hp
      rcases hp with rfl | hp
      · exact List.not_mem_nil
      · exact ih hp
    · obtain ⟨first, rest, hs⟩ := List.exists_cons_of_ne_nil (List.splitOnP_ne_nil (· == feed) xs)
      change xs.splitOn feed = first :: rest at hs
      rw [splitOn_cons_of_ne hx, hs, List.modifyHead_cons, List.mem_cons] at hp
      rcases hp with rfl | hp
      · rw [List.mem_cons, not_or]
        exact ⟨Ne.symm hx, ih (hs ▸ List.mem_cons_self)⟩
      · exact ih (hs ▸ List.mem_cons_of_mem first hp)

theorem notMem_of_mem_closed {xs line : List α} (hline : line ∈ closed (xs.splitOn feed)) :
    feed ∉ line := by
  unfold closed at hline
  split_ifs at hline
  · exact notMem_of_mem_splitOn (List.dropLast_subset _ hline)
  · exact notMem_of_mem_splitOn hline

end Lines

end PipeShell.Text
