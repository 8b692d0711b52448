import Mathlib.Data.List.Destutter
import Mathlib.Data.List.DropRight
import Mathlib.Tactic.Common
import PipeShell.History.File
import PipeShell.Proofs.Text.Lines

/-!
# Runs of a history

A history goes through any number of operations, and the files that it is read from and written to
may be changed by others in between. An account is kept beside it: which lines were offered since
the history was last cleared, which lines it has taken in, and which of these are not known to be in
a file. At any time the entries are the end of what was offered, with blank lines left out and runs
of equal lines told once.
-/

namespace PipeShell.History

def start (limit : Nat) (file : Option String) : History := { new limit with file := file }

structure Archive where
  history : History
  files : Files

/-- What can be done with a history. Between two operations anyone may change the files. -/
inductive Operation
  | add (line : String)
  | clear
  | readFrom (path : String)
  | writeTo (path : String)
  | appendTo (path : String)
  | load
  | save
  | disturb (files : Files)
  deriving DecidableEq

def linesAt (files : Files) (path : String) : List String :=
  match files.readText path with
  | .ok text => (Text.closed (text.toList.splitOn '\n')).map String.ofList
  | .error _ => []

/-- Those of some lines that are taken in when they are offered in order, as they are kept. -/
def admitted (h : History) : List String → List String
  | [] => []
  | line :: rest =>
    (if (h.add line).1 then [stripEnd line] else []) ++ (h.add line).2.admitted rest

namespace Archive

def after (a : Archive) : Operation → Archive
  | .add line => { a with history := (a.history.add line).2 }
  | .clear => { a with history := a.history.clear }
  | .readFrom path => { a with history := (a.history.readFrom a.files path).2 }
  | .writeTo path => ⟨(a.history.writeTo a.files path).2.1, (a.history.writeTo a.files path).2.2⟩
  | .appendTo path => ⟨(a.history.appendTo a.files path).2.1, (a.history.appendTo a.files path).2.2⟩
  | .load => { a with history := (a.history.load a.files).1 }
  | .save => ⟨(a.history.save a.files).1, (a.history.save a.files).2.1⟩
  | .disturb files => { a with files := files }

def offers (a : Archive) : Operation → List String
  | .add line => [line]
  | .readFrom path => linesAt a.files path
  | .load => (a.history.file.map (linesAt a.files)).getD []
  | _ => []

def admits (a : Archive) (op : Operation) : List String := a.history.admitted (a.offers op)

/-- After the operation nothing is left that would have to be written to a file: the history was
cleared, or all of it was read from a file or written to one with success. -/
def settles (a : Archive) : Operation → Bool
  | .clear => true
  | .writeTo path => (a.history.writeTo a.files path).1.isOk
  | .appendTo path => (a.history.appendTo a.files path).1.isOk
  | .load =>
    match a.history.file with
    | some file => (a.history.readFrom a.files file).1.isOk
    | none => false
  | .save =>
    match a.history.file with
    | some file => (a.history.writeTo (prepareDirectory a.files file).1 file).1.isOk
    | none => false
  | _ => false

end Archive

/-- A history with its files, and what became of the lines that were offered to it: those offered
since it was last cleared, all that it took in, and those that it took in since they were last
settled. -/
structure Account extends Archive where
  offered : List String := []
  admitted : List String := []
  waiting : List String := []

namespace Account

def start (limit : Nat) (file : Option String) (files : Files) : Account where
  history := History.start limit file
  files := files

def after (a : Account) (op : Operation) : Account where
  toArchive := a.toArchive.after op
  offered := if op = .clear then [] else a.offered ++ a.offers op
  admitted := a.admitted ++ a.admits op
  waiting := if a.settles op then [] else a.waiting ++ a.admits op

def run (a : Account) (ops : List Operation) : Account := ops.foldl after a

theorem run_concat (a : Account) (ops : List Operation) (op : Operation) :
    a.run (ops ++ [op]) = (a.run ops).after op := by
  simp [run]

theorem run_induction {P : Account → Prop} (hstep : ∀ a op, P a → P (a.after op)) {a : Account}
    (ha : P a) (ops : List Operation) : P (a.run ops) := by
  induction ops generalizing a with
  | nil => exact ha
  | cons op ops ih => exact ih (hstep a op ha)

end Account

theorem addAll_nil (h : History) : h.addAll [] = h := rfl

theorem addAll_cons (h : History) (line : String) (lines : List String) :
    h.addAll (line :: lines) = (h.add line).2.addAll lines := by
  rw [addAll, addAll, List.foldl_cons]

theorem readFrom_eq (h : History) (files : Files) (path : String) :
    (h.readFrom files path).2 = h.addAll (linesAt files path) := by
  unfold readFrom linesAt
  cases files.readText path with
  | error e => rfl
  | ok text => simp only [Text.feedLines, Text.rawLines_eq]

theorem writeTo_eq (h : History) (files : Files) (path : String) :
    (h.writeTo files path).2.1 =
      if (h.writeTo files path).1.isOk then h.markAppended else h := by
  unfold writeTo
  rcases files.write path (Text.encode h.render) with ⟨e | u, g⟩ <;> rfl

theorem appendTo_eq (h : History) (files : Files) (path : String) :
    (h.appendTo files path).2.1 =
      if (h.appendTo files path).1.isOk then h.markAppended else h := by
  cases ho : files.openForWriting path true with
  | error e => simp only [appendTo, ho, Except.isOk, Except.toBool, Bool.false_eq_true, if_false]
  | ok made =>
    obtain ⟨i, g⟩ := made
    cases hw : appendLines g i h.fresh with
    | mk result k =>
      cases result <;>
        simp only [appendTo, ho, hw, Except.isOk, Except.toBool, Bool.false_eq_true, if_false, if_true]

theorem load_eq {h : History} {file : String} (hf : h.file = some file) (files : Files) :
    (h.load files).1 =
      if (h.readFrom files file).1.isOk then (h.addAll (linesAt files file)).markAppended
      else h.addAll (linesAt files file) := by
  have hr := readFrom_eq h files file
  unfold load
  simp only [hf]
  cases hread : h.readFrom files file with
  | mk result kept =>
    rw [hread] at hr
    obtain rfl : kept = _ := hr
    cases result with
    | ok count => simp only [Except.isOk, Except.toBool, if_true]
    | error e =>
      cases e <;> simp only [Except.isOk, Except.toBool, Bool.false_eq_true, if_false]

theorem save_eq {h : History} {file : String} (hf : h.file = some file) (files : Files) :
    (h.save files).1 = (h.writeTo (prepareDirectory files file).1 file).2.1 := by
  unfold save
  simp only [hf]
  rcases h.writeTo (prepareDirectory files file).1 file with ⟨e | u, kept, g⟩ <;> rfl

/-- All that an operation can do to a history: clear it, or offer lines to it and then perhaps
remember that all entries are in a file. -/
theorem Archive.history_after (a : Archive) (op : Operation) :
    (a.after op).history =
      if op = .clear then a.history.clear
      else if a.settles op then (a.history.addAll (a.offers op)).markAppended
      else a.history.addAll (a.offers op) := by
  cases op with
  | add line => simp [after, settles, offers, addAll_cons, addAll_nil]
  | clear => rfl
  | readFrom path => exact readFrom_eq a.history a.files path
  | writeTo path => exact writeTo_eq a.history a.files path
  | appendTo path => exact appendTo_eq a.history a.files path
  | load =>
    cases hf : a.history.file with
    | none => simp [after, settles, offers, load, hf, addAll_nil]
    | some file =>
      simp only [after, settles, offers, hf]
      exact load_eq hf a.files
  | save =>
    cases hf : a.history.file with
    | none => simp [after, settles, offers, save, hf, addAll_nil]
    | some file =>
      simp only [after, settles, offers, hf]
      rw [save_eq hf, writeTo_eq]
      rfl
  | disturb files => rfl

def SameSettings (h k : History) : Prop := k.limit = h.limit ∧ k.file = h.file

theorem sameSettings_add (h : History) (line : String) : h.SameSettings (h.add line).2 := by
  unfold add
  simp only
  split_ifs <;> exact ⟨rfl, rfl⟩

theorem sameSettings_addAll (h : History) (lines : List String) :
    h.SameSettings (h.addAll lines) := by
  induction lines generalizing h with
  | nil => exact ⟨rfl, rfl⟩
  | cons line lines ih =>
    have ha := h.sameSettings_add line
    have hrest := ih (h.add line).2
    rw [addAll_cons]
    exact ⟨hrest.1.trans ha.1, hrest.2.trans ha.2⟩

theorem Archive.sameSettings_after (a : Archive) (op : Operation) :
    a.history.SameSettings (a.after op).history := by
  have hall := a.history.sameSettings_addAll (a.offers op)
  rw [history_after]
  split_ifs
  · exact ⟨rfl, rfl⟩
  · exact hall
  · exact hall

theorem Account.sameSettings_run (a : Account) (ops : List Operation) :
    a.history.SameSettings (a.run ops).history := by
  refine run_induction (P := fun b => a.history.SameSettings b.history) ?_ ⟨rfl, rfl⟩ ops
  intro b op hb
  have ha := b.toArchive.sameSettings_after op
  exact ⟨ha.1.trans hb.1, ha.2.trans hb.2⟩

section Lists

variable {α : Type}

theorem length_rtake (l : List α) (n : Nat) : (l.rtake n).length = min n l.length := by
  rw [List.rtake, List.length_drop]
  omega

theorem rtake_of_length_le {l : List α} {n : Nat} (h : l.length ≤ n) : l.rtake n = l := by
  rw [List.rtake, Nat.sub_eq_zero_of_le h, List.drop_zero]

theorem rtake_concat_rtake (l : List α) (x : α) (n : Nat) :
    (l.rtake n ++ [x]).rtake n = (l ++ [x]).rtake n := by
  have hd : l.rtake n ++ [x] = (l ++ [x]).drop (l.length - n) := by
    rw [List.rtake, List.drop_append_of_le_length (Nat.sub_le _ _)]
  rw [hd, List.rtake, List.rtake, List.drop_drop]
  congr 1
  simp only [List.length_drop, List.length_append, List.length_singleton]
  omega

theorem getLast?_rtake {n : Nat} (hn : 0 < n) (l : List α) : (l.rtake n).getLast? = l.getLast? := by
  rw [List.rtake_eq_reverse_take_reverse, List.getLast?_reverse, List.head?_take,
    if_neg (Nat.ne_of_gt hn), List.head?_reverse]

variable [DecidableEq α]

theorem destutter'_concat (a : α) (l : List α) (x : α) :
    (l ++ [x]).destutter' (· ≠ ·) a =
      if (a :: l).getLast? = some x then l.destutter' (· ≠ ·) a
      else l.destutter' (· ≠ ·) a ++ [x] := by
  -- `a` is the line that the next one is compared with, so it has to vary
  induction l generalizing a with
  | nil => by_cases hx : a = x <;> simp [hx]
  | cons b l ih =>
    rw [List.getLast?_cons_cons, List.cons_append, List.destutter'_cons, List.destutter'_cons]
    by_cases hb : a ≠ b
    · rw [if_pos hb, if_pos hb, ih b]
      split_ifs <;> rfl
    · obtain rfl : a = b := not_not.1 hb
      rw [if_neg hb, if_neg hb, ih a]

theorem destutter_concat (l : List α) (x : α) :
    (l ++ [x]).destutter (· ≠ ·) =
      if l.getLast? = some x then l.destutter (· ≠ ·) else l.destutter (· ≠ ·) ++ [x] := by
  cases l with
  | nil => simp
  | cons a l => exact destutter'_concat a l x

theorem getLast?_destutter (l : List α) : (l.destutter (· ≠ ·)).getLast? = l.getLast? := by
  induction l using List.reverseRecOn with
  | nil => rfl
  | append_singleton l x ih =>
    rw [destutter_concat]
    split_ifs with hx
    · rw [ih, hx, List.getLast?_concat]
    · rw [List.getLast?_concat, List.getLast?_concat]

end Lists

def bare (line : String) : String :=
  String.ofList (line.toList.rdropWhile (· ∈ ['\n', '\r']))

/-- What is to be kept of some lines: each without its end, blank ones left out, and every run of
equal lines told once. -/
def kept (lines : List String) : List String :=
  ((lines.map bare).filter fun line => line.toList.any fun c => !Text.isBlank c).destutter (· ≠ ·)

theorem stripEnd_eq_bare : stripEnd = bare := by
  funext line
  have hp : (fun c => c == '\n' || c == '\r') = fun c => decide (c ∈ ['\n', '\r']) := by
    funext c
    rw [Bool.eq_iff_iff, decide_eq_true_iff]
    simp
  rw [bare, ← hp]
  rfl

theorem isBlankLine_eq_false_iff (line : String) :
    isBlankLine line = false ↔ ∃ c ∈ line.toList, ¬ Text.isBlank c := by
  simp [isBlankLine, Text.allBlank]

theorem kept_eq (lines : List String) :
    kept lines =
      ((lines.map stripEnd).filter fun line => !isBlankLine line).destutter (· ≠ ·) := by
  have hblank : (fun line => !isBlankLine line) =
      fun line => line.toList.any fun c => !Text.isBlank c := by
    funext line
    rw [isBlankLine, Text.allBlank, List.not_all_eq_any_not]
  rw [kept, stripEnd_eq_bare, hblank]

theorem kept_concat (lines : List String) (line : String) :
    kept (lines ++ [line]) =
      if isBlankLine (stripEnd line) = true ∨ (kept lines).getLast? = some (stripEnd line) then
        kept lines
      else kept lines ++ [stripEnd line] := by
  simp only [kept_eq]
  rw [List.map_append, List.filter_append, List.map_singleton, getLast?_destutter]
  cases hb : isBlankLine (stripEnd line) with
  | true => simp [hb]
  | false =>
    rw [List.filter_singleton]
    simp only [hb, Bool.not_false, Bool.false_eq_true, false_or]
    exact destutter_concat _ _

theorem not_blank_of_mem_kept {lines : List String} {line : String} (h : line ∈ kept lines) :
    ∃ c ∈ line.toList, ¬ Text.isBlank c := by
  have hm := (List.destutter_sublist _ _).subset h
  simpa using (List.mem_filter.1 hm).2

theorem accepts_iff (h : History) (line : String) :
    h.accepts line = true ↔
      ¬ (isBlankLine line = true ∨ h.entries.getLast? = some line) := by
  simp [accepts]

theorem entries_push (h : History) (line : String) :
    (h.push line).entries = (h.entries ++ [line]).rtake h.limit := rfl

/-- The entries are the end of what is to be kept of some lines. -/
structure Tail (h : History) (lines : List String) : Prop where
  pos : 0 < h.limit
  entries : h.entries = (kept lines).rtake h.limit

namespace Tail

variable {h : History} {lines : List String}

theorem getLast? (ht : Tail h lines) : h.entries.getLast? = (kept lines).getLast? := by
  rw [ht.entries, getLast?_rtake ht.pos]

theorem suffix (ht : Tail h lines) : h.entries <:+ kept lines := by
  rw [ht.entries]
  exact List.drop_suffix _ _

theorem length_le (ht : Tail h lines) : h.entries.length ≤ h.limit := by
  rw [ht.entries, length_rtake]
  exact Nat.min_le_left _ _

theorem add (ht : Tail h lines) (line : String) : Tail (h.add line).2 (lines ++ [line]) where
  pos := by
    rw [(h.sameSettings_add line).1]
    exact ht.pos
  entries := by
    -- the last entry is the last line kept, so that the history skips what `kept` skips
    have ha := h.accepts_iff (stripEnd line)
    rw [ht.getLast?] at ha
    rw [(h.sameSettings_add line).1, kept_concat]
    unfold History.add
    simp only
    split_ifs with hacc hskip hskip
    · exact absurd hskip (ha.1 hacc)
    · rw [entries_push, ht.entries, rtake_concat_rtake]
    · exact ht.entries
    · exact absurd (ha.2 hskip) hacc

theorem addAll (ht : Tail h lines) (more : List String) :
    Tail (h.addAll more) (lines ++ more) := by
  induction more generalizing h lines with
  | nil => simpa [addAll_nil] using ht
  | cons line more ih =>
    have hrest := ih (ht.add line)
    rw [List.append_assoc] at hrest
    rw [addAll_cons]
    exact hrest

theorem clear (ht : Tail h lines) : Tail h.clear [] where
  pos := ht.pos
  entries := by simp [History.clear, kept]

theorem markAppended (ht : Tail h lines) : Tail h.markAppended lines where
  pos := ht.pos
  entries := ht.entries

theorem start (limit : Nat) (file : Option String) : Tail (History.start limit file) [] where
  pos := Nat.lt_of_lt_of_le Nat.one_pos (Nat.le_max_right limit 1)
  entries := by simp [History.start, new, kept]

theorem after {a : Account} (ht : Tail a.history a.offered) (op : Operation) :
    Tail (a.after op).history (a.after op).offered := by
  have hh := a.toArchive.history_after op
  have hall := ht.addAll (a.offers op)
  simp only [Account.after]
  rw [hh]
  split_ifs with hclear hsettles
  · exact ht.clear
  · exact hall.markAppended
  · exact hall

theorem run {a : Account} (ht : Tail a.history a.offered) (ops : List Operation) :
    Tail (a.run ops).history (a.run ops).offered :=
  Account.run_induction (P := fun a => Tail a.history a.offered) (fun _ op h => h.after op) ht ops

end Tail

/-- After any run of a new history its entries are the last of the lines offered since it was
cleared, as many as it may keep, once blank lines are left out and runs of equal lines are told
once. So there are never too many of them, no two neighbours are equal, and none is blank. -/
theorem entries_eq_tail_of_offered (limit : Nat) (file : Option String) (files : Files)
    (ops : List Operation) :
    let a := (Account.start limit file files).run ops
    a.history.entries = (kept a.offered).rtake (max limit 1) ∧
      a.history.entries.length ≤ max limit 1 ∧
      a.history.entries.IsChain (· ≠ ·) ∧
      ∀ line ∈ a.history.entries, ∃ c ∈ line.toList, ¬ Text.isBlank c := by
  intro a
  have ht : Tail a.history a.offered := Tail.run (Tail.start limit file) ops
  have hl : a.history.limit = max limit 1 := ((Account.start limit file files).sameSettings_run ops).1
  refine ⟨hl ▸ ht.entries, hl ▸ ht.length_le, ?_, ?_⟩
  · exact (List.isChain_destutter _ _).suffix ht.suffix
  · intro line hline
    exact not_blank_of_mem_kept (ht.suffix.subset hline)

end PipeShell.History
