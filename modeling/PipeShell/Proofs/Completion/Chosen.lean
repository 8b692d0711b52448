import PipeShell.Proofs.Completion.Commands

/-!
# Commands that were chosen

A command that is chosen from the candidates is put into the line as it is, with a space behind it.
The word reader gives its name back exactly if there is nothing in the name that it takes for a
separator, a quote or a backslash.

The reason is a count. Every character of a line adds at most one character to what the reader
holds, and a character that is not taken as it is adds none. If the name has one, the reader cannot
hold as many characters as the name has before it comes to the space. Only a waiting backslash could
make a character of the space, but then the name ends in a backslash and the word in a space.
-/

namespace PipeShell

namespace WordReader

def isBare (c : Char) : Bool := Command.isOrdinary c && !isSeparator c

/-- A backslash that waits between double quotes is kept before most characters. -/
def waiting : Mode → Nat
  | .doubleEscaped => 1
  | _ => 0

def held (r : WordReader) : Nat :=
  r.done.flatten.length + r.pending.length + waiting r.mode

@[simp] theorem mode_push (r : WordReader) (c : Char) : (r.push c).mode = r.mode := rfl

@[simp] theorem mode_enter (r : WordReader) (mode : Mode) : (r.enter mode).mode = mode := rfl

@[simp] theorem mode_finishWord (r : WordReader) : r.finishWord.mode = r.mode := by
  unfold finishWord
  split_ifs <;> rfl

theorem held_push (r : WordReader) (c : Char) : (r.push c).held = r.held + 1 := by
  simp only [held, push, List.length_cons]
  omega

theorem held_finishWord (r : WordReader) : r.finishWord.held = r.held := by
  unfold finishWord
  split_ifs
  · rfl
  · simp only [held, List.flatten_cons, List.length_append, List.length_reverse, List.length_nil]
    omega

theorem held_enter (r : WordReader) (mode : Mode) :
    (r.enter mode).held + waiting r.mode = r.held + waiting mode := by
  simp only [held, enter]
  omega

theorem step_of_isBare {r : WordReader} (hm : r.mode = .plain) {c : Char} (hc : isBare c) :
    r.step c = r.push c := by
  simp only [isBare, Command.isOrdinary, Bool.and_eq_true, bne_iff_ne, Bool.not_eq_true'] at hc
  simp [step, hm, hc]

theorem held_step_of_not_isBare {r : WordReader} (hm : r.mode = .plain) {c : Char}
    (hc : isBare c = false) : (r.step c).held = r.held := by
  have henter := held_enter r
  rw [hm] at henter
  simp only [step, hm]
  split_ifs with hb hd hq hs
  · exact henter .escaped
  · exact henter .double
  · exact henter .single
  · exact held_finishWord r
  · simp_all [isBare, Command.isOrdinary]

theorem held_step_le (r : WordReader) (c : Char) : (r.step c).held ≤ r.held + 1 := by
  have hpush := held_push r c
  have henter := held_enter r
  have hpushed := held_enter (r.push c)
  simp only [mode_push] at hpushed
  cases hm : r.mode with
  | plain =>
    cases hc : isBare c with
    | true => exact Nat.le_of_eq (by rw [step_of_isBare hm hc, hpush])
    | false => exact Nat.le_succ_of_le (Nat.le_of_eq (held_step_of_not_isBare hm hc))
  | escaped =>
    have hplain := hpushed .plain
    simp only [step, hm, waiting] at hplain ⊢
    omega
  | single =>
    have hplain := henter .plain
    simp only [step, hm, waiting] at hplain ⊢
    split_ifs <;> omega
  | double =>
    have hplain := henter .plain
    have hwaits := henter .doubleEscaped
    simp only [step, hm, waiting] at hplain hwaits ⊢
    split_ifs <;> omega
  | doubleEscaped =>
    -- the backslash was counted when it was read
    have hone := hpushed .double
    have htwo := held_enter ((r.push '\\').push c) .double
    simp only [held_push, mode_push, step, hm, waiting] at hone htwo ⊢
    split_ifs <;> omega

theorem held_scan_le (r : WordReader) (line : List Char) :
    (r.scan line).held ≤ r.held + line.length := by
  induction line generalizing r with
  | nil => exact Nat.le_refl _
  | cons c line ih =>
    have hstep := held_step_le r c
    have hrest := ih (r.step c)
    rw [scan_cons, List.length_cons]
    omega

theorem held_scan_lt {r : WordReader} (hm : r.mode = .plain) {line : List Char}
    (h : ∃ c ∈ line, isBare c = false) : (r.scan line).held < r.held + line.length := by
  induction line generalizing r with
  | nil => simp at h
  | cons c line ih =>
    rw [scan_cons, List.length_cons]
    cases hc : isBare c with
    | false =>
      have hstep := held_step_of_not_isBare hm hc
      have hrest := held_scan_le (r.step c) line
      omega
    | true =>
      have hline : ∃ d ∈ line, isBare d = false := by simpa [hc] using h
      have hrest := ih (r := r.push c) hm hline
      rw [held_push] at hrest
      rw [step_of_isBare hm hc]
      omega

theorem held_of_finish {r : WordReader} {ws : List (List Char)} (h : r.finish = .ok ws) :
    r.held = ws.flatten.length := by
  have hw := held_finishWord r
  rw [finishWord_of_finish h] at hw
  rw [← hw, ← (List.reverse_perm ws).flatten.length_eq]
  simp [held, onto, waiting]

theorem eq_backslash_of_step {r : WordReader} {c : Char} (h : (r.step c).mode = .escaped) :
    c = '\\' := by
  cases hm : r.mode with
  | plain =>
    simp only [step, hm] at h
    split_ifs at h with hb
    · exact beq_iff_eq.1 hb
    all_goals simp [hm] at h
  | escaped => simp [step, hm] at h
  | single =>
    simp only [step, hm] at h
    split_ifs at h <;> simp [hm] at h
  | double =>
    simp only [step, hm] at h
    split_ifs at h <;> simp [hm] at h
  | doubleEscaped =>
    simp only [step, hm] at h
    split_ifs at h <;> simp at h

theorem getLast?_of_scan_escaped {line : List Char} (h : (scan {} line).mode = .escaped) :
    line.getLast? = some '\\' := by
  rcases List.eq_nil_or_concat' line with rfl | ⟨front, c, rfl⟩
  · cases h
  · rw [scan_append, scan_cons, scan_nil] at h
    rw [List.getLast?_concat, eq_backslash_of_step h]

theorem finish_escaped (r : WordReader) (c : Char) :
    ((r.push c).enter .plain).finish = .ok (r.done.reverse ++ [r.pending.reverse ++ [c]]) := by
  simp [finish, enter, push, finishWord]

theorem scan_separators {head : List Char} (h : ∀ c ∈ head, isSeparator c) : scan {} head = {} := by
  induction head with
  | nil => rfl
  | cons c head ih =>
    have hempty : finish {} = .ok [] := rfl
    rw [List.forall_mem_cons] at h
    rw [scan_cons, step_separator hempty h.1]
    exact ih h.2

end WordReader

namespace Command

open WordReader

theorem wordsOf_of_isBare {name : List Char} (hne : name ≠ []) (h : ∀ c ∈ name, isBare c) :
    wordsOf (name ++ [' ']) = .ok [name] := by
  have hbare : ∀ c ∈ name, isOrdinary c ∧ isSeparator c = false := by
    simpa [isBare] using h
  have hname : wordsOf name = .ok [name] := by
    rw [wordsOf_ordinary fun c hc => (hbare c hc).1,
      cut_of_not_separator fun c hc => (hbare c hc).2]
    simp [hne]
  rw [wordsOf_append hname (by decide)]
  rfl

theorem isBare_of_wordsOf {name : List Char} (h : wordsOf (name ++ [' ']) = .ok [name]) :
    ∀ c ∈ name, isBare c := by
  by_contra hnot
  have hlost : ∃ c ∈ name, isBare c = false := by simpa using hnot
  have hlt : (scan {} name).held < name.length := by
    have hlt := held_scan_lt (r := {}) rfl hlost
    rwa [show ({} : WordReader).held = 0 from rfl, Nat.zero_add] at hlt
  rw [wordsOf, scan_append, scan_cons, scan_nil] at h
  have hmode := mode_of_finish h
  cases hm : (scan {} name).mode with
  | plain =>
    have hheld := held_of_finish h
    rw [held_step_of_not_isBare hm (by decide), List.flatten_singleton] at hheld
    omega
  | escaped =>
    have hback := getLast?_of_scan_escaped hm
    simp only [step, hm, finish_escaped, Except.ok.injEq] at h
    have hlast := congrArg List.getLast? h
    rw [List.getLast?_concat, List.getLast?_singleton, Option.some.injEq] at hlast
    rw [← hlast, List.getLast?_concat, Option.some.injEq] at hback
    exact absurd hback (by decide)
  | single => simp [step, hm] at hmode
  | double => simp [step, hm] at hmode
  | doubleEscaped =>
    simp only [step, hm] at hmode
    split_ifs at hmode <;> simp at hmode

/-- A name with a space behind it and separators before it is read as that name exactly if all of
its characters stand for themselves. -/
theorem wordsOf_eq_singleton_iff {head name : List Char} (hh : ∀ c ∈ head, isSeparator c)
    (hne : name ≠ []) :
    wordsOf (head ++ (name ++ [' '])) = .ok [name] ↔ ∀ c ∈ name, isBare c := by
  have hhead : wordsOf (head ++ (name ++ [' '])) = wordsOf (name ++ [' ']) := by
    rw [wordsOf, scan_append, scan_separators hh, wordsOf]
  rw [hhead]
  exact ⟨isBare_of_wordsOf, wordsOf_of_isBare hne⟩

theorem words_eq_singleton_iff (line name : String) :
    words line = .ok [name] ↔ wordsOf line.toList = .ok [name.toList] := by
  rw [words]
  cases wordsOf line.toList with
  | error e => simp [Except.map]
  | ok ws =>
    simp only [Except.map, Except.ok.injEq, List.map_eq_singleton_iff]
    constructor
    · rintro ⟨w, rfl, rfl⟩
      rw [String.toList_ofList]
    · rintro rfl
      exact ⟨_, rfl, String.ofList_toList⟩

end Command

namespace Search

theorem ne_empty_of_mem_executables {files : Files} {searchPath start name : String}
    (h : name ∈ executables files searchPath start) : name ≠ "" := by
  rw [executables, Text.mem_distinctSorted, List.mem_flatMap] at h
  obtain ⟨dir, -, hmem⟩ := h
  obtain ⟨⟨names, hlist, -⟩, -, he⟩ := mem_executablesIn_iff.1 hmem
  refine Files.ne_empty_of_isExecutable_join ?_ he
  rintro rfl
  rw [Files.list_empty] at hlist
  cases hlist

end Search

namespace Completion

theorem ne_empty_of_mem_commandNames {files : Files} {searchPath start name : String}
    {builtins : List String} (hb : ∀ b ∈ builtins, b ≠ "")
    (h : name ∈ commandNames files searchPath builtins start) : name ≠ "" := by
  rw [commandNames, Text.mem_distinctSorted, List.mem_append] at h
  rcases h with h | h
  · exact hb name (List.mem_filter.1 h).1
  · exact Search.ne_empty_of_mem_executables h

theorem Completer.complete?_of_isFirst {c : Completer} (he : c.enabled = true) (files : Files)
    (env : Environment) {line : List Char} {pos : Nat} {cursor : Cursor}
    (hat : Cursor.at? line pos = some cursor) (hfirst : cursor.isFirst = true)
    (hs : '/' ∉ cursor.word) :
    c.complete? files env line pos = some (cursor.start,
      commands files env.searchPath c.builtins (String.ofList cursor.word)) := by
  obtain ⟨before, hbefore, rfl⟩ := Option.map_eq_some_iff.1 hat
  simp [complete?, he, hbefore, hfirst, hs]

theorem isBare_iff (c : Char) :
    WordReader.isBare c = true ↔ c ∉ [' ', '\t', '\n', '\r', '\x27', '"', '\\'] := by
  simp only [WordReader.isBare, Command.isOrdinary, WordReader.isSeparator, Bool.and_eq_true,
    bne_iff_ne, Bool.not_eq_true', Bool.or_eq_false_iff, beq_eq_false_iff_ne, List.mem_cons,
    List.not_mem_nil, or_false, not_or]
  tauto

/-- A command that is chosen for the first word of a line is read back as that command exactly if
its name has no separator, quote or backslash in it. -/
theorem chosen_command_read_back_iff (c : Completer) (files : Files) (env : Environment)
    {line head : List Char} {pos : Nat} {cursor : Cursor}
    (hat : Cursor.at? line pos = some cursor)
    (hhead : Text.takeBytes? cursor.start line = some head)
    (hblank : ∀ x ∈ head, x = ' ' ∨ x = '\t') (hs : '/' ∉ cursor.word)
    (hb : ∀ name ∈ c.builtins, name ≠ "") :
    ∃ start candidates, c.complete? files env line pos = some (start, candidates) ∧
      ∀ x ∈ candidates, start = cursor.start ∧
        (Command.words (String.ofList head ++ x.replacement) = .ok [x.display] ↔
          ∀ y ∈ x.display.toList, y ∉ [' ', '\t', '\n', '\r', '\x27', '"', '\\']) := by
  cases he : c.enabled with
  | false => exact ⟨pos, [], by simp [Completer.complete?, he], List.forall_mem_nil _⟩
  | true =>
    have hmarks := Cursor.at?_eq_some_iff.1 hat
    obtain rfl : cursor.head = head := Option.some.inj (hmarks.takeBytes?_start.symm.trans hhead)
    have hseparator : ∀ x ∈ cursor.head, WordReader.isSeparator x = true := by
      intro x hx
      rcases hblank x hx with rfl | rfl <;> decide
    have hfirst : cursor.isFirst = true :=
      Cursor.isFirst_iff.2 fun x hx => Cursor.isBlank_of_isSeparator (hseparator x hx)
    refine ⟨_, _, Completer.complete?_of_isFirst he files env hat hfirst hs, ?_⟩
    intro x hx
    obtain ⟨name, hname, rfl⟩ := List.mem_map.1 hx
    have hne : name.toList ≠ [] := by
      simpa using ne_empty_of_mem_commandNames hb hname
    refine ⟨rfl, ?_⟩
    rw [Command.words_eq_singleton_iff]
    simp only [String.toList_append, String.toList_ofList, ← isBare_iff]
    exact Command.wordsOf_eq_singleton_iff hseparator hne

/-- A builtin is read back. A program whose name ends in a backslash is not: the backslash takes the
space into the word. -/
theorem chosen_command_read_back_swallowed :
    let tree : Files := ⟨#[.dir 0 [("b", 1)] false 0o755, .dir 0 [("e\\", 2)] false 0o755,
      .file [] 0o755], 0⟩
    let c : Completer := ⟨["echo"], true⟩
    let env : Environment := [("PATH", "/b")]
    let line := "\t e -n".toList
    Cursor.at? line 3 = some ⟨['\t', ' '], ['e']⟩ ∧
      Text.takeBytes? 2 line = some ['\t', ' '] ∧ (∀ name ∈ c.builtins, name ≠ "") ∧
      ∃ candidates, c.complete? tree env line 3 = some (2, candidates) ∧
        ⟨"echo", "echo "⟩ ∈ candidates ∧ Command.words "\t echo " = .ok ["echo"] ∧
        ⟨"e\\", "e\\ "⟩ ∈ candidates ∧ Command.words "\t e\\ " ≠ .ok ["e\\"] := by
  intro tree c env line
  have hat : Cursor.at? line 3 = some ⟨['\t', ' '], ['e']⟩ := by decide
  have hhead : Text.takeBytes? 2 line = some ['\t', ' '] := by decide
  have hb : ∀ name ∈ c.builtins, name ≠ "" := by decide
  have hnames : ∀ name ∈ ["echo", "e\\"],
      ⟨name, name ++ " "⟩ ∈ commands tree env.searchPath c.builtins "e" := by
    intro name hn
    refine List.mem_map.2 ⟨name, ?_, rfl⟩
    rw [commandNames, Text.mem_distinctSorted, List.mem_append, Search.executables,
      Text.mem_distinctSorted]
    revert name
    decide +kernel
  obtain ⟨start, candidates, hc, hread⟩ :=
    chosen_command_read_back_iff c tree env hat hhead (by simp) (by decide) hb
  have hoffered := Completer.complete?_of_isFirst (c := c) rfl tree env hat (by decide) (by decide)
  obtain ⟨rfl, rfl⟩ := Prod.mk.inj (Option.some.inj (hc.symm.trans hoffered))
  have hecho := hnames "echo" (by decide)
  have hback := hnames "e\\" (by decide)
  refine ⟨hat, hhead, hb, _, hoffered, hecho, (hread _ hecho).2.2 ?_, hback, ?_⟩
  · exact List.all_iff_forall_prop.1 (by decide)
  · intro hword
    exact (hread _ hback).2.1 hword '\\' (by decide) (by decide)

end Completion

end PipeShell
