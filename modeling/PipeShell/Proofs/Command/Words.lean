import Mathlib.Tactic.Common
import PipeShell.Command.Words

/-!
# Words of joined lines

The word reader only ever adds to the words that it has finished. A line that can be read leaves it
between words, so that a separator and another line can follow: the words of both stand one after
the other, and the only thing that can go wrong is what can go wrong with the second line alone.

A line without quotes and backslashes is read by cutting it at its separators.
-/

namespace PipeShell

namespace WordReader

def onto (r : WordReader) (older : List (List Char)) : WordReader :=
  { r with done := r.done ++ older }

theorem finishWord_onto (r : WordReader) (older : List (List Char)) :
    (r.onto older).finishWord = r.finishWord.onto older := by
  by_cases h : r.pending.isEmpty <;> simp [finishWord, onto, h]

theorem step_onto (r : WordReader) (older : List (List Char)) (c : Char) :
    (r.onto older).step c = (r.step c).onto older := by
  have hf := finishWord_onto r older
  obtain ⟨mode, pending, done⟩ := r
  cases mode with
  | plain =>
    simp only [onto, step] at hf ⊢
    split_ifs
    · rfl
    · rfl
    · rfl
    · exact hf
    · rfl
  | escaped => rfl
  | single =>
    simp only [onto, step]
    split_ifs <;> rfl
  | double =>
    simp only [onto, step]
    split_ifs <;> rfl
  | doubleEscaped =>
    simp only [onto, step]
    split_ifs <;> rfl

theorem scan_append (r : WordReader) (s t : List Char) : r.scan (s ++ t) = (r.scan s).scan t :=
  List.foldl_append

@[simp] theorem scan_nil (r : WordReader) : r.scan [] = r := rfl

@[simp] theorem scan_cons (r : WordReader) (c : Char) (s : List Char) :
    r.scan (c :: s) = (r.step c).scan s := rfl

theorem scan_onto (r : WordReader) (older : List (List Char)) (line : List Char) :
    (r.onto older).scan line = (r.scan line).onto older := by
  induction line generalizing r with
  | nil => rfl
  | cons c line ih => rw [scan_cons, step_onto, ih, scan_cons]

theorem finish_onto (r : WordReader) (older : List (List Char)) :
    (r.onto older).finish = r.finish.map (older.reverse ++ ·) := by
  have hf := finishWord_onto r older
  have hm : (r.onto older).mode = r.mode := rfl
  unfold finish
  rw [hm, hf]
  cases r.mode <;> simp [onto, Except.map]

theorem mode_of_finish {r : WordReader} {ws : List (List Char)} (h : r.finish = .ok ws) :
    r.mode = .plain := by
  cases hm : r.mode <;> simp [finish, hm] at h
  rfl

theorem finishWord_of_finish {r : WordReader} {ws : List (List Char)} (h : r.finish = .ok ws) :
    r.finishWord = ({} : WordReader).onto ws.reverse := by
  have hm := mode_of_finish h
  obtain ⟨mode, pending, done⟩ := r
  subst hm
  simp only [finish, Except.ok.injEq] at h
  cases pending <;> simp [finishWord, onto, ← h]

theorem step_separator {r : WordReader} {ws : List (List Char)} {c : Char}
    (h : r.finish = .ok ws) (hc : isSeparator c) :
    r.step c = ({} : WordReader).onto ws.reverse := by
  have hm := mode_of_finish h
  have hq : c ≠ '\\' ∧ c ≠ '"' ∧ c ≠ '\x27' := by
    refine ⟨?_, ?_, ?_⟩ <;> rintro rfl <;> exact absurd hc (by decide)
  rw [← finishWord_of_finish h]
  simp only [step, hm, beq_iff_eq, hq, if_false, hc, if_true]

end WordReader

namespace Command

open WordReader

/-- Two lines with a separator between them are read one after the other. -/
theorem wordsOf_append {s t : List Char} {ws : List (List Char)} {c : Char}
    (hs : wordsOf s = .ok ws) (hc : isSeparator c) :
    wordsOf (s ++ c :: t) = (wordsOf t).map (ws ++ ·) := by
  unfold wordsOf at hs ⊢
  rw [scan_append, scan_cons, step_separator hs hc, scan_onto, finish_onto, List.reverse_reverse]

theorem words_append {s t : String} {ws : List String} (hs : words s = .ok ws) :
    words (s ++ " " ++ t) = (words t).map (ws ++ ·) := by
  unfold words at hs ⊢
  cases hcs : wordsOf s.toList with
  | error e => simp [hcs, Except.map] at hs
  | ok cs =>
    have hws : cs.map String.ofList = ws := by simpa [hcs, Except.map] using hs
    have hj : (s ++ " " ++ t).toList = s.toList ++ ' ' :: t.toList := by simp
    rw [hj, wordsOf_append hcs (by decide)]
    cases wordsOf t.toList <;> simp [Except.map, ← hws]

def isOrdinary (c : Char) : Bool := c != '\\' && c != '"' && c != '\x27'

def cut (line : List Char) : List (List Char) :=
  (line.splitOnP isSeparator).filter (· ≠ [])

theorem cut_append {c : Char} (hc : isSeparator c) (s t : List Char) :
    cut (s ++ c :: t) = cut s ++ cut t := by
  rw [cut, cut, cut, List.splitOnP_append_cons s t hc, List.filter_append]

theorem cut_of_not_separator {word : List Char} (h : ∀ c ∈ word, isSeparator c = false) :
    cut word = [word].filter (· ≠ []) := by
  rw [cut, List.splitOnP_eq_singleton h]

theorem forall_mem_of_mem_split {P : Char → Prop} {line pending piece : List Char}
    (hp : ∀ c ∈ pending, P c) (hl : ∀ c ∈ line, isSeparator c = false → P c)
    (h : piece ∈ line.splitOnPPrepend isSeparator pending) : ∀ c ∈ piece, P c := by
  induction line generalizing pending with
  | nil =>
    obtain rfl : piece = pending.reverse := by simpa using h
    simpa using hp
  | cons d line ih =>
    rw [List.forall_mem_cons] at hl
    rw [List.splitOnPPrepend_cons_eq_if] at h
    by_cases hd : isSeparator d
    · rw [if_pos hd, List.mem_cons] at h
      rcases h with rfl | h
      · simpa using hp
      · exact ih (List.forall_mem_nil _) hl.2 h
    · rw [if_neg hd] at h
      exact ih (List.forall_mem_cons.2 ⟨hl.1 (by simpa using hd), hp⟩) hl.2 h

theorem forall_mem_of_mem_cut {P : Char → Prop} {line piece : List Char}
    (hl : ∀ c ∈ line, isSeparator c = false → P c) (h : piece ∈ cut line) : ∀ c ∈ piece, P c :=
  forall_mem_of_mem_split (List.forall_mem_nil _) hl (List.mem_filter.1 h).1

theorem cut_eq_nil_iff {line : List Char} : cut line = [] ↔ ∀ c ∈ line, isSeparator c := by
  induction line with
  | nil => simp [cut]
  | cons c line ih =>
    rw [List.forall_mem_cons, ← ih, cut, cut, List.splitOnP_cons_eq_if_modifyHead]
    by_cases hc : isSeparator c
    · simp [hc]
    · obtain ⟨piece, pieces, hp⟩ :=
        List.exists_cons_of_ne_nil (List.splitOnP_ne_nil isSeparator line)
      simp [hc, hp]

theorem finish_scan_ordinary (line pending : List Char) (done : List (List Char))
    (h : ∀ c ∈ line, isOrdinary c) :
    (scan ⟨.plain, pending, done⟩ line).finish =
      .ok (done.reverse ++ (line.splitOnPPrepend isSeparator pending).filter (· ≠ [])) := by
  induction line generalizing pending done with
  | nil =>
    cases pending <;> simp [finish, finishWord]
  | cons c line ih =>
    have hc := h c List.mem_cons_self
    have hl := fun d hd => h d (List.mem_cons_of_mem c hd)
    simp only [isOrdinary, Bool.and_eq_true, bne_iff_ne] at hc
    rw [scan_cons, List.splitOnPPrepend_cons_eq_if]
    by_cases hs : isSeparator c
    · simp only [step, beq_iff_eq, hc, if_false, hs, if_true]
      cases pending with
      | nil => simpa [finishWord] using ih [] done hl
      | cons d pending => simpa [finishWord] using ih [] ((d :: pending).reverse :: done) hl
    · simpa [step, hc, hs, push] using ih (c :: pending) done hl

/-- Reading a line without quotes and backslashes is cutting it at its separators. -/
theorem wordsOf_ordinary {line : List Char} (h : ∀ c ∈ line, isOrdinary c) :
    wordsOf line = .ok (cut line) :=
  finish_scan_ordinary line [] [] h

end Command

end PipeShell
