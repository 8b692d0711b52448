import PipeShell.Proofs.Text.Bytes
import PipeShell.Shell.Input

/-!
# Lines of the terminal's input

However the input is cut into blocks, the lines that are read are the lines of the input. A line of
plain text, without backspaces and with no carriage return at its end, is read as it was written.
-/

namespace PipeShell

namespace Text.Grapheme

theorem flatten_clustersAux (m : Memory) (piece : List Char) (found : List (List Char))
    (cs : List Char) :
    (clustersAux m piece found cs).flatten = found.reverse.flatten ++ piece.reverse ++ cs := by
  induction cs generalizing m piece found with
  | nil => simp [clustersAux]
  | cons c cs ih =>
    unfold clustersAux
    split_ifs
    · rw [ih]
      simp
    · rw [ih]
      simp

theorem flatten_clusters (cs : List Char) : (clusters cs).flatten = cs := by
  cases cs with
  | nil => rfl
  | cons c cs => exact flatten_clustersAux _ _ _ cs

end Text.Grapheme

namespace LineReader

theorem erase_of_no_backspace {clusters : List (List Char)} (hc : ∀ c ∈ clusters, c ≠ [backspace])
    (kept : List Char) (sizes : List UInt8) :
    erase kept sizes clusters = some (clusters.flatten.reverse ++ kept) := by
  induction clusters generalizing kept sizes with
  | nil => cases sizes <;> simp [erase]
  | cons c clusters ih =>
    have hrest : ∀ d ∈ clusters, d ≠ [backspace] := fun d hd => hc d (List.mem_cons_of_mem c hd)
    have hstep : erase kept sizes (c :: clusters) =
        erase (c.reverse ++ kept) (UInt8.ofNat (Text.size c) :: sizes) clusters := by
      cases sizes <;> simp only [erase, if_neg (hc c List.mem_cons_self)]
    rw [hstep, ih hrest]
    simp

theorem applyBackspaces?_of_notMem {cs : List Char} (hb : backspace ∉ cs) :
    applyBackspaces? cs = some cs := by
  have hc : ∀ c ∈ Text.Grapheme.clusters cs, c ≠ [backspace] := by
    rintro c hc rfl
    refine hb ?_
    rw [← Text.Grapheme.flatten_clusters cs]
    exact List.mem_flatten.2 ⟨_, hc, List.mem_singleton_self _⟩
  rw [applyBackspaces?, erase_of_no_backspace hc, Text.Grapheme.flatten_clusters]
  simp

structure Plain (line : String) : Prop where
  feed : '\n' ∉ line.toList
  backspace : backspace ∉ line.toList
  ret : line.toList.getLast? ≠ some '\r'

theorem Plain.text {line : String} (hp : Plain line) :
    LineReader.text (Text.encode (line ++ "\n")) = .ok line := by
  have hend : trimEnd (line ++ "\n").toList = line.toList := by
    have hlist : (line ++ "\n").toList = line.toList ++ ['\n'] := by simp
    rw [hlist, trimEnd, List.getLast?_concat, if_pos rfl, List.dropLast_concat, Text.dropReturn,
      if_neg hp.ret]
  rw [LineReader.text, Text.decode?_encode]
  simp only [hend, applyBackspaces?_of_notMem hp.backspace, String.ofList_toList]

theorem fill_append (ahead input : Bytes) :
    (fill ahead input).1 ++ (fill ahead input).2 = ahead ++ input := by
  fun_induction fill ahead input with
  | case1 ahead input h => rfl
  | case2 ahead h => rfl
  | case3 ahead h x rest ih =>
    have hdrop : rest.drop (blockSize - 1) = (x :: rest).drop blockSize := rfl
    rw [ih, hdrop, List.append_assoc, List.take_append_drop]

theorem feed_mem_fill (ahead input : Bytes) :
    feed ∈ (fill ahead input).1 ∨ (fill ahead input).2 = [] := by
  fun_induction fill ahead input with
  | case1 ahead input h => exact Or.inl (List.contains_iff_mem.1 h)
  | case2 ahead h => exact Or.inr rfl
  | case3 ahead h x rest ih => exact ih

def pending (r : LineReader) (h : Host) : Bytes := r.ahead ++ h.terminalIn

theorem takeWhile_ne_feed {line : Bytes} (hl : feed ∉ line) (rest : Bytes) :
    (line ++ feed :: rest).takeWhile (· ≠ feed) = line := by
  have hall : ∀ b ∈ line, decide (b ≠ feed) = true := by
    intro b hb
    rw [decide_eq_true_eq]
    rintro rfl
    exact hl hb
  rw [List.takeWhile_append_of_pos hall, List.takeWhile_cons_of_neg (by simp), List.append_nil]

/-- The line that is read is the first of the input, and what follows it is still to come. -/
theorem next_line {r : LineReader} {h : Host} {line rest : Bytes} (hl : feed ∉ line)
    (hp : r.pending h = line ++ feed :: rest) :
    (r.next h).1 = some (line ++ [feed]) ∧ (r.next h).2.1.pending (r.next h).2.2 = rest := by
  have hf := fill_append r.ahead h.terminalIn
  rw [← pending, hp] at hf
  have hmem : feed ∈ (fill r.ahead h.terminalIn).1 := by
    rcases feed_mem_fill r.ahead h.terminalIn with hm | hn
    · exact hm
    · rw [hn, List.append_nil] at hf
      simp [hf]
  obtain ⟨ahead, hahead, hrest⟩ : ∃ ahead, (fill r.ahead h.terminalIn).1 = line ++ feed :: ahead ∧
      ahead ++ (fill r.ahead h.terminalIn).2 = rest := by
    rcases List.append_eq_append_iff.1 hf with ⟨more, hline, -⟩ | ⟨more, hfill, hmore⟩
    · refine absurd ?_ hl
      rw [hline]
      exact List.mem_append_left _ hmem
    · cases more with
      | nil =>
        rw [List.append_nil] at hfill
        exact absurd (hfill ▸ hmem) hl
      | cons b ahead =>
        obtain ⟨rfl, hrest⟩ := List.cons.inj hmore
        exact ⟨ahead, hfill, hrest.symm⟩
  have hsize : (line ++ feed :: ahead).take (line.length + 1) = line ++ [feed] := by
    rw [List.take_append, List.take_of_length_le (Nat.le_succ _)]
    simp
  have hdrop : (line ++ feed :: ahead).drop (line.length + 1) = ahead := by
    simp [List.drop_append]
  simp only [next, pending, hahead, takeWhile_ne_feed hl, hsize, hdrop]
  exact ⟨by simp, hrest⟩

theorem next_end {r : LineReader} {h : Host} (hp : r.pending h = []) : (r.next h).1 = none := by
  have hf := fill_append r.ahead h.terminalIn
  rw [pending] at hp
  rw [hp, List.append_eq_nil_iff] at hf
  simp [next, hf.1]

end LineReader

end PipeShell
