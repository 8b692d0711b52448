import PipeShell.Proofs.History.Runs
import PipeShell.Proofs.History.Saved

/-!
# Appending to a file

The mark of a history counts the leading entries that are already in a file, and it moves along when
entries are dropped from the front. What lies behind the mark is therefore the end of the lines that
were taken in since they were last settled, also when lines were dropped in between. A file to which
the history is appended often enough gets every line once.
-/

namespace PipeShell.History

/-- The entries behind the mark are the end of the lines that wait to be written. -/
structure Marked (h : History) (waiting : List String) : Prop where
  le : h.appended ≤ h.entries.length
  fresh : h.fresh = waiting.rtake h.limit

theorem fresh_of_le {h : History} (hle : h.appended ≤ h.entries.length) :
    h.fresh = h.entries.drop h.appended := by
  rw [fresh, Nat.min_eq_left hle]

/-- A line that is taken in comes behind the mark, and a line that is dropped for it comes from
before the mark as long as there is one. -/
theorem fresh_push {h : History} (hle : h.appended ≤ h.entries.length) (line : String) :
    (h.push line).appended ≤ (h.push line).entries.length ∧
      (h.push line).fresh = (h.fresh ++ [line]).rtake h.limit := by
  have happ : (h.push line).appended = h.appended - ((h.entries ++ [line]).length - h.limit) := rfl
  have hent : (h.push line).entries =
      (h.entries ++ [line]).drop ((h.entries ++ [line]).length - h.limit) := rfl
  have hlen : (h.entries ++ [line]).length = h.entries.length + 1 := by simp
  have hle' : (h.push line).appended ≤ (h.push line).entries.length := by
    rw [happ, hent, List.length_drop, hlen]
    omega
  refine ⟨hle', ?_⟩
  -- both sides drop entries from one list, so that only the numbers have to agree
  rw [fresh_of_le hle', fresh_of_le hle, ← List.drop_append_of_le_length hle, hent, happ,
    List.drop_drop, List.rtake, List.drop_drop]
  congr 1
  rw [List.length_drop, hlen]
  omega

namespace Marked

variable {h : History} {waiting : List String}

theorem push (hm : Marked h waiting) (line : String) : Marked (h.push line) (waiting ++ [line]) where
  le := (fresh_push hm.le line).1
  fresh := by
    rw [(fresh_push hm.le line).2, hm.fresh]
    exact rtake_concat_rtake waiting line h.limit

theorem addAll (hm : Marked h waiting) (lines : List String) :
    Marked (h.addAll lines) (waiting ++ h.admitted lines) := by
  induction lines generalizing h waiting with
  | nil => simpa [addAll_nil, admitted] using hm
  | cons line lines ih =>
    rw [addAll_cons, admitted, ← List.append_assoc]
    refine ih ?_
    by_cases hacc : h.accepts (stripEnd line) = true
    · simp only [add, hacc, if_true]
      exact hm.push (stripEnd line)
    · simp only [add, hacc, Bool.false_eq_true, if_false, List.append_nil]
      exact hm

theorem clear (h : History) : Marked h.clear [] where
  le := Nat.le_refl 0
  fresh := by simp [History.clear, History.fresh]

theorem markAppended (h : History) : Marked h.markAppended [] where
  le := Nat.le_refl _
  fresh := by simp [History.markAppended, History.fresh]

theorem after {a : Account} (hm : Marked a.history a.waiting) (op : Operation) :
    Marked (a.after op).history (a.after op).waiting := by
  have hh := a.toArchive.history_after op
  have hall := hm.addAll (a.offers op)
  simp only [Account.after]
  rw [hh]
  by_cases hclear : op = .clear
  · subst hclear
    exact Marked.clear a.history
  · rw [if_neg hclear]
    split_ifs
    · exact Marked.markAppended _
    · exact hall

theorem run (limit : Nat) (file : Option String) (files : Files) (ops : List Operation) :
    Marked ((Account.start limit file files).run ops).history
      ((Account.start limit file files).run ops).waiting := by
  refine Account.run_induction (P := fun a => Marked a.history a.waiting)
    (fun _ op hm => hm.after op) ?_ ops
  exact ⟨Nat.le_refl 0, by simp [Account.start, History.start, new, History.fresh]⟩

theorem fresh_eq (hm : Marked h waiting) (hlen : h.entries.length ≤ h.limit) :
    h.fresh = h.entries.rtake (min waiting.length h.entries.length) := by
  have hlength : h.fresh.length = min h.limit waiting.length := by rw [hm.fresh, length_rtake]
  have hle := hm.le
  rw [fresh_of_le hm.le, List.length_drop] at hlength
  rw [fresh_of_le hm.le, List.rtake]
  congr 1
  omega

end Marked

/-- The file holds what it held at first and then the lines that were taken in, except for those
that still wait. -/
def Journal (path : String) (old : Bytes) (a : Account) : Prop :=
  ∃ saved, a.admitted = saved ++ a.waiting ∧ a.files.content? path = some (old ++ written saved)

theorem Journal.add {path : String} {old : Bytes} {a : Account} (hj : Journal path old a)
    (line : String) : Journal path old (a.after (.add line)) := by
  obtain ⟨saved, hsaved, hc⟩ := hj
  refine ⟨saved, ?_, by simpa only [Account.after, Archive.after] using hc⟩
  simp only [Account.after, Archive.settles, hsaved, List.append_assoc, Bool.false_eq_true, if_false]

theorem Journal.append {path : String} {old : Bytes} {a : Account} (hj : Journal path old a)
    (hm : Marked a.history a.waiting) (hfew : a.waiting.length ≤ a.history.limit)
    (hok : (a.history.appendTo a.files path).1.isOk = true) :
    (a.after (.appendTo path)).waiting = [] ∧
      (a.after (.appendTo path)).files.Holds path
        (old ++ written (a.after (.appendTo path)).admitted) := by
  obtain ⟨saved, hsaved, hc⟩ := hj
  obtain ⟨-, -, hfile⟩ := appendTo_of_isOk hc hok
  have hall : (a.after (.appendTo path)).admitted = saved ++ a.waiting := by
    simp [Account.after, Archive.admits, Archive.offers, History.admitted, hsaved]
  refine ⟨by simp [Account.after, Archive.settles, hok], ?_⟩
  rw [hall, written_append, ← List.append_assoc]
  rwa [hm.fresh, rtake_of_length_le hfew] at hfile

/-- Lines are added and the history is appended to the path, each time with success and before more
lines wait than can be kept. -/
structure Diary (a : Account) (path : String) (ops : List Operation) : Prop where
  kinds : ∀ op ∈ ops, op = .appendTo path ∨ ∃ line, op = .add line
  succeeds : ∀ before, before ++ [.appendTo path] <+: ops →
    ((a.run before).history.appendTo (a.run before).files path).1.isOk = true
  few : ∀ before, before <+: ops → (a.run before).waiting.length ≤ a.history.limit

theorem Diary.left {a : Account} {path : String} {ops more : List Operation}
    (hd : Diary a path (ops ++ more)) : Diary a path ops where
  kinds op hop := hd.kinds op (List.mem_append_left more hop)
  succeeds before hb := hd.succeeds before (hb.trans (List.prefix_append ops more))
  few before hb := hd.few before (hb.trans (List.prefix_append ops more))

theorem Diary.append {limit : Nat} {file : Option String} {files : Files} {path : String}
    {old : Bytes} {ops : List Operation}
    (hd : Diary (Account.start limit file files) path (ops ++ [.appendTo path]))
    (hj : Journal path old ((Account.start limit file files).run ops)) :
    ((Account.start limit file files).run (ops ++ [.appendTo path])).waiting = [] ∧
      ((Account.start limit file files).run (ops ++ [.appendTo path])).files.Holds path
        (old ++ written ((Account.start limit file files).run (ops ++ [.appendTo path])).admitted) := by
  have hfew := hd.few ops (List.prefix_append ops _)
  rw [← ((Account.start limit file files).sameSettings_run ops).1] at hfew
  rw [Account.run_concat]
  exact hj.append (Marked.run limit file files ops) hfew
    (hd.succeeds ops (List.prefix_refl _))

theorem Diary.journal {limit : Nat} {file : Option String} {files : Files} {path : String}
    {old : Bytes} (hc : files.content? path = some old) {ops : List Operation}
    (hd : Diary (Account.start limit file files) path ops) :
    Journal path old ((Account.start limit file files).run ops) := by
  -- from the end, since an append is about the lines that the whole run before it took in
  induction ops using List.reverseRecOn with
  | nil => exact ⟨[], rfl, by simpa [Account.run, Account.start] using hc⟩
  | append_singleton ops op ih =>
    have hj := ih hd.left
    rcases hd.kinds op (by simp) with rfl | ⟨line, rfl⟩
    · obtain ⟨hnone, hfile⟩ := hd.append hj
      exact ⟨_, by rw [hnone, List.append_nil], hfile.content?⟩
    · rw [Account.run_concat]
      exact hj.add line

/-- Appending a history to a regular file adds as many of its last entries as lines were taken in
since they were last settled, or all entries if there were more such lines, and changes nothing else
of the history. A file that takes part in a run of additions and appends, where never more lines
wait than can be kept, ends up with every line that was taken in, once and in order. -/
theorem appends_each_line_once (limit : Nat) (file : Option String) (files : Files)
    (ops : List Operation) (path : String) (old : Bytes) :
    let start := Account.start limit file files
    let a := start.run ops
    let count := min a.waiting.length a.history.entries.length
    let r := a.history.appendTo a.files path
    (a.files.content? path = some old → r.1.isOk = true →
      r.1 = .ok count ∧
      r.2.2.Holds path (old ++ written (a.history.entries.rtake count)) ∧
      r.2.1.entries = a.history.entries ∧ r.2.1.generation = a.history.generation) ∧
    (files.content? path = some old → Diary start path ops →
      ops.getLast? = some (.appendTo path) → a.files.Holds path (old ++ written a.admitted)) := by
  intro start a count r
  have hm : Marked a.history a.waiting := Marked.run limit file files ops
  have ht : Tail a.history a.offered := Tail.run (Tail.start limit file) ops
  constructor
  · intro hc hok
    have hfresh : a.history.fresh = a.history.entries.rtake count := hm.fresh_eq ht.length_le
    have hcount : a.history.fresh.length = count := by
      rw [hfresh, length_rtake]
      exact Nat.min_eq_left (Nat.min_le_right _ _)
    obtain ⟨hres, hhist, hfile⟩ := appendTo_of_isOk hc hok
    rw [hcount] at hres
    rw [hfresh] at hfile
    exact ⟨hres, hfile, by rw [hhist]; rfl, by rw [hhist]; rfl⟩
  · intro hc hd hlast
    obtain ⟨before, hops⟩ := List.getLast?_eq_some_iff.1 hlast
    have hd' : Diary start path (before ++ [.appendTo path]) := hops ▸ hd
    have hfile := (hd'.append (hd'.left.journal hc)).2
    rwa [← hops] at hfile

/-- The third line pushes the first one out of the list, after the first two were appended. -/
theorem appends_each_line_once_evicting :
    let start := Account.start 2 none Files.empty
    let ops : List Operation := [.add "a", .add "b", .appendTo "/h", .add "c", .appendTo "/h"]
    let a := start.run (ops.take 4)
    Diary start "/h" ops ∧ a.history.entries = ["b", "c"] ∧
      (a.history.appendTo a.files "/h").1 = .ok 1 ∧
      (start.run ops).files.Holds "/h" (written ["a", "b", "c"]) := by
  intro start ops a
  have hkinds : ∀ op ∈ ops, op = .appendTo "/h" ∨ ∃ line, op = .add line := by simp [ops]
  have hsucceeds : ∀ n : Fin 5, ops[n] = .appendTo "/h" →
      ((start.run (ops.take n)).history.appendTo (start.run (ops.take n)).files "/h").1.isOk =
        true := by
    decide +kernel
  have hfew : ∀ n : Fin 6, (start.run (ops.take n)).waiting.length ≤ 2 := by decide +kernel
  have hd : Diary start "/h" ops := by
    refine ⟨hkinds, ?_, ?_⟩
    · intro before hb
      have hlt : before.length < 5 := by
        have hlen := hb.length_le
        rw [List.length_append, List.length_singleton] at hlen
        exact hlen
      have hop : ops[before.length] = .appendTo "/h" := by
        simpa using (hb.getElem (i := before.length) (by simp)).symm
      have hbefore := List.prefix_iff_eq_take.1 ((List.prefix_append before _).trans hb)
      rw [hbefore]
      exact hsucceeds ⟨before.length, hlt⟩ hop
    · intro before hb
      have hlt : before.length < 6 := Nat.lt_succ_of_le hb.length_le
      rw [List.prefix_iff_eq_take.1 hb]
      exact hfew ⟨before.length, hlt⟩
  have hpart := (appends_each_line_once 2 none Files.empty (ops.take 4) "/h" (written ["a", "b"])).1
    (by decide +kernel) (by decide +kernel)
  have hall := (appends_each_line_once 2 none Files.empty ops "/h" []).2 (by decide +kernel) hd rfl
  have hadmitted : (start.run ops).admitted = ["a", "b", "c"] := by decide +kernel
  rw [hadmitted] at hall
  exact ⟨hd, by decide +kernel, hpart.1, hall⟩

end PipeShell.History
