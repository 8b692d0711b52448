import PipeShell.Proofs.History.Runs
import PipeShell.Shell.Loop

/-!
# The generation of a history

The generation counts the changes of the entries: one for each line that is taken in, and one for
each time the history is cleared. A line that is taken in becomes the last entry, which it was not
before, so it changes the entries also when the list is full and everything moves up by one place.
Between two moments of the same generation nothing was taken in or cleared, and the entries are
those of before. A counter of 64 bits tells the same as long as there are fewer changes than it can
count.
-/

namespace PipeShell.History

theorem add_cases (h : History) (line : String) :
    (h.accepts (stripEnd line) = true ∧ h.add line = (true, h.push (stripEnd line))) ∨
      (h.accepts (stripEnd line) = false ∧ h.add line = (false, h)) := by
  by_cases hacc : h.accepts (stripEnd line) = true
  · exact Or.inl ⟨hacc, by simp [add, hacc]⟩
  · exact Or.inr ⟨by simpa using hacc, by simp [add, hacc]⟩

theorem getLast?_push {h : History} (hpos : 0 < h.limit) (line : String) :
    (h.push line).entries.getLast? = some line := by
  rw [entries_push, getLast?_rtake hpos, List.getLast?_concat]

theorem generation_push (h : History) (line : String) :
    (h.push line).generation = h.generation + 1 := rfl

theorem entries_push_ne {h : History} (hpos : 0 < h.limit) {line : String}
    (hacc : h.accepts line = true) : (h.push line).entries ≠ h.entries := by
  intro heq
  have hlast := getLast?_push hpos line
  rw [heq] at hlast
  exact (h.accepts_iff line).1 hacc (Or.inr hlast)

theorem add_iff_entries_ne {h : History} (hpos : 0 < h.limit) (line : String) :
    (h.add line).1 = true ↔ (h.add line).2.entries ≠ h.entries := by
  rcases h.add_cases line with ⟨hacc, hadd⟩ | ⟨-, hadd⟩
  · simp [hadd, entries_push_ne hpos hacc]
  · simp [hadd]

theorem generation_add (h : History) (line : String) :
    (h.add line).2.generation = h.generation + if (h.add line).1 then 1 else 0 := by
  rcases h.add_cases line with ⟨-, hadd⟩ | ⟨-, hadd⟩
  · simp [hadd, generation_push]
  · simp [hadd]

theorem generation_addAll (h : History) (lines : List String) :
    (h.addAll lines).generation = h.generation + (h.admitted lines).length := by
  induction lines generalizing h with
  | nil => rfl
  | cons line lines ih =>
    have hadd := h.generation_add line
    rw [addAll_cons, ih, admitted, List.length_append, hadd]
    by_cases hnew : (h.add line).1 = true
    · simp only [hnew, if_true, List.length_singleton]
      omega
    · simp [hnew]

theorem addAll_of_admitted_eq_nil {h : History} {lines : List String}
    (hnone : h.admitted lines = []) : h.addAll lines = h := by
  induction lines with
  | nil => rfl
  | cons line lines ih =>
    rcases h.add_cases line with ⟨-, hadd⟩ | ⟨-, hadd⟩
    · simp [admitted, hadd] at hnone
    · rw [addAll_cons]
      simp only [admitted, hadd, Bool.false_eq_true, if_false, List.nil_append] at hnone ⊢
      exact ih hnone

namespace Archive

/-- How often an operation changes the entries. A history that is cleared counts as changed, also
if there was nothing in it. -/
def changes (a : Archive) (op : Operation) : Nat :=
  if op = .clear then 1 else (a.admits op).length

theorem generation_after (a : Archive) (op : Operation) :
    (a.after op).history.generation = a.history.generation + a.changes op := by
  have hall := a.history.generation_addAll (a.offers op)
  rw [history_after, changes]
  by_cases hclear : op = .clear
  · simp [hclear, History.clear]
  · rw [if_neg hclear, if_neg hclear]
    split_ifs
    · exact hall
    · exact hall

theorem entries_after {a : Archive} {op : Operation} (hnone : a.changes op = 0) :
    (a.after op).history.entries = a.history.entries := by
  rw [changes] at hnone
  by_cases hclear : op = .clear
  · simp [hclear] at hnone
  · rw [if_neg hclear, List.length_eq_zero_iff] at hnone
    rw [history_after, if_neg hclear, addAll_of_admitted_eq_nil hnone]
    split_ifs
    · rfl
    · rfl

end Archive

namespace Account

def changes (a : Account) : List Operation → Nat
  | [] => 0
  | op :: ops => a.toArchive.changes op + (a.after op).changes ops

theorem run_append (a : Account) (ops more : List Operation) :
    a.run (ops ++ more) = (a.run ops).run more := List.foldl_append

theorem changes_append (a : Account) (ops more : List Operation) :
    a.changes (ops ++ more) = a.changes ops + (a.run ops).changes more := by
  induction ops generalizing a with
  | nil => exact (Nat.zero_add _).symm
  | cons op ops ih =>
    have hrest := ih (a.after op)
    simp only [List.cons_append, changes, hrest]
    exact (Nat.add_assoc _ _ _).symm

theorem generation_run (a : Account) (ops : List Operation) :
    (a.run ops).history.generation = a.history.generation + a.changes ops := by
  induction ops generalizing a with
  | nil => rfl
  | cons op ops ih =>
    have hrest := ih (a.after op)
    have hstep := a.toArchive.generation_after op
    rw [changes, ← Nat.add_assoc, ← hstep]
    exact hrest

theorem entries_run {a : Account} {ops : List Operation} (hnone : a.changes ops = 0) :
    (a.run ops).history.entries = a.history.entries := by
  induction ops generalizing a with
  | nil => rfl
  | cons op ops ih =>
    rw [changes, Nat.add_eq_zero_iff] at hnone
    exact (ih hnone.2).trans (Archive.entries_after hnone.1)

theorem entries_eq_of_generation_eq {a : Account} {p q : List Operation} (hpq : p <+: q)
    (hgen : (a.run p).history.generation = (a.run q).history.generation) :
    (a.run p).history.entries = (a.run q).history.entries := by
  obtain ⟨more, rfl⟩ := hpq
  have hrun := (a.run p).generation_run more
  rw [run_append] at hgen ⊢
  exact (entries_run (by omega)).symm

theorem generation_start (limit : Nat) (file : Option String) (files : Files) :
    (start limit file files).history.generation = 0 := rfl

theorem changes_le {a : Account} {p ops : List Operation} (hp : p <+: ops) :
    a.changes p ≤ a.changes ops := by
  obtain ⟨more, rfl⟩ := hp
  rw [changes_append]
  exact Nat.le_add_right _ _

theorem limit_pos (limit : Nat) (file : Option String) (files : Files) (ops : List Operation) :
    0 < ((start limit file files).run ops).history.limit :=
  (Tail.run (Tail.start limit file) ops).pos

end Account

theorem eq_of_ofNat_eq {m n : Nat} (hm : m < UInt64.size) (hn : n < UInt64.size)
    (h : UInt64.ofNat m = UInt64.ofNat n) : m = n := by
  have hval := congrArg UInt64.toNat h
  rwa [UInt64.toNat_ofNat_of_lt' hm, UInt64.toNat_ofNat_of_lt' hn] at hval

/-- After any run of a new history, a line that is offered is kept exactly if it changes the entries,
and then the generation goes up by one. Reading raises the generation by the number of lines that
are taken in, and writing leaves it. If there are fewer changes than 64 bits can count, then any two
moments of a run at which the counter is the same have the same entries, so that an editor that is
not brought up to date because it knows the generation has nothing to catch up on. -/
theorem generation_tells_changes (limit : Nat) (file : Option String) (files : Files)
    (ops : List Operation) :
    let start := Account.start limit file files
    let a := start.run ops
    (∀ line, ((a.history.add line).1 = true ↔
        (a.history.add line).2.entries ≠ a.history.entries) ∧
      (a.history.add line).2.generation =
        a.history.generation + if (a.history.add line).1 then 1 else 0) ∧
    (∀ path, (a.after (.readFrom path)).history.generation =
      a.history.generation + (a.admits (.readFrom path)).length) ∧
    (a.after .load).history.generation = a.history.generation + (a.admits .load).length ∧
    (∀ path, (a.after (.writeTo path)).history.generation = a.history.generation ∧
      (a.after (.appendTo path)).history.generation = a.history.generation) ∧
    (a.after .save).history.generation = a.history.generation ∧
    (start.changes ops < UInt64.size → ∀ p q, p <+: ops → q <+: ops →
      (UInt64.ofNat (start.run p).history.generation =
          UInt64.ofNat (start.run q).history.generation →
        (start.run p).history.entries = (start.run q).history.entries) ∧
      ∀ (s : Shell) (e : Shell.Editor), s.history = (start.run q).history →
        e.synced = some (start.run p).history.generation → (s.sync e).1 = e →
        (start.run p).history.entries = s.history.entries) := by
  intro start a
  have hpos : 0 < a.history.limit := Account.limit_pos limit file files ops
  -- prefixes of one run are comparable, and the earlier one decides
  have hsame : ∀ p q, p <+: ops → q <+: ops →
      (start.run p).history.generation = (start.run q).history.generation →
      (start.run p).history.entries = (start.run q).history.entries := by
    intro p q hp hq hgen
    rcases List.prefix_or_prefix_of_prefix hp hq with hpq | hqp
    · exact Account.entries_eq_of_generation_eq hpq hgen
    · exact (Account.entries_eq_of_generation_eq hqp hgen.symm).symm
  refine ⟨fun line => ⟨add_iff_entries_ne hpos line, a.history.generation_add line⟩,
    ?_, ?_, ?_, ?_, ?_⟩
  · exact fun path => a.toArchive.generation_after (.readFrom path)
  · exact a.toArchive.generation_after .load
  · exact fun path =>
      ⟨a.toArchive.generation_after (.writeTo path), a.toArchive.generation_after (.appendTo path)⟩
  · exact a.toArchive.generation_after .save
  · intro hfew p q hp hq
    have hbound : ∀ r, r <+: ops → (start.run r).history.generation < UInt64.size := by
      intro r hr
      have hle := Account.changes_le (a := start) hr
      rw [Account.generation_run, Account.generation_start]
      omega
    constructor
    · intro hword
      exact hsame p q hp hq (eq_of_ofNat_eq (hbound p hp) (hbound q hq) hword)
    · intro s e hs he hstays
      by_cases hknown : e.synced = some s.history.generation
      · rw [hs] at hknown ⊢
        exact hsame p q hp hq (Option.some.inj (he.symm.trans hknown))
      · have hnew : (s.sync e).1.synced = some s.history.generation := by
          simp only [Shell.sync, if_neg hknown]
        rw [hstays] at hnew
        exact absurd hnew hknown

/-- The list is full and holds one line. It was written and offered the same line again in between,
and the generation is still that of the second line. -/
theorem generation_tells_changes_full :
    let start := Account.start 1 none Files.empty
    let ops : List Operation := [.add "a", .add "b", .writeTo "/h", .add "b", .readFrom "/h"]
    start.changes ops < UInt64.size ∧
      UInt64.ofNat (start.run (ops.take 2)).history.generation =
        UInt64.ofNat (start.run ops).history.generation ∧
      (start.run (ops.take 1)).history.entries = ["a"] ∧
      (start.run (ops.take 2)).history.entries = ["b"] ∧
      (start.run ops).history.entries = ["b"] := by
  intro start ops
  -- the value takes the place of its name, as comparing the two later would run the operations
  have hstart : start = Account.start 1 none Files.empty := rfl
  clear_value start
  subst hstart
  obtain ⟨-, -, -, -, -, hmoments⟩ := generation_tells_changes 1 none Files.empty ops
  obtain ⟨hword, -⟩ := hmoments (by decide +kernel) (ops.take 2) ops (List.take_prefix 2 ops)
    (List.prefix_refl ops)
  have hsame := hword (by decide +kernel)
  refine ⟨by decide +kernel, by decide +kernel, by decide +kernel, by decide +kernel, ?_⟩
  rw [← hsame]
  decide +kernel

end PipeShell.History
