import Mathlib.Data.Bool.AllAny
import Mathlib.Data.List.DropRight
import PipeShell.Completion.Command
import PipeShell.Proofs.Command.Reading
import PipeShell.Proofs.Text.Slices

/-!
# The word at a position

The word under the cursor is looked for backwards from a byte position. It starts where the last
blank character before the position ends, which is between two characters however many bytes these
take. So the part of the line from there to the position can always be cut out, and it is the
longest one without a blank character.

The word reader goes forwards and has its own separators. On a line without quotes and backslashes
both see the same words, as long as every blank character before the position is a separator.
-/

namespace PipeShell.Completion

theorem Completer.complete?_eq_none_iff (completer : Completer) (files : Files) (env : Environment)
    (line : List Char) (pos : Nat) :
    completer.complete? files env line pos = none ↔
      completer.enabled = true ∧ Cursor.at? line pos = none := by
  rw [complete?, Cursor.at?]
  cases completer.enabled with
  | false => simp
  | true =>
    cases Text.takeBytes? pos line with
    | none => simp
    | some before =>
      simp only [Bool.not_true, Bool.false_eq_true, if_false, Option.map_some]
      split_ifs <;> simp

namespace Cursor

variable {line before head word : List Char} {pos : Nat} {cursor : Cursor}

theorem ofBefore_eq (hh : ∀ c, head.getLast? = some c → Text.isBlank c = true)
    (hw : ∀ c ∈ word, Text.isBlank c = false) : ofBefore (head ++ word) = ⟨head, word⟩ := by
  have hword : ∀ c ∈ word.reverse, (!Text.isBlank c) = true := by
    intro c hc
    rw [hw c (List.mem_reverse.1 hc)]
    rfl
  have hhead : head.reverse.takeWhile (fun c => !Text.isBlank c) = [] ∧
      head.reverse.dropWhile (fun c => !Text.isBlank c) = head.reverse := by
    cases hr : head.reverse with
    | nil => exact ⟨rfl, rfl⟩
    | cons c cs =>
      have hc : Text.isBlank c = true := hh c (by rw [← List.head?_reverse, hr, List.head?_cons])
      simp [hc]
  rw [ofBefore, Text.dropTail, List.reverse_append, List.dropWhile_append_of_pos hword,
    List.takeWhile_append_of_pos hword, hhead.1, hhead.2, List.append_nil, List.reverse_reverse,
    List.reverse_reverse]

/-- The cursor has the word that ends at a position of the line, and what stands before it. -/
structure Marks (cursor : Cursor) (line : List Char) (pos : Nat) : Prop where
  split : ∃ rest, line = cursor.head ++ cursor.word ++ rest
  size : Text.size (cursor.head ++ cursor.word) = pos
  head : ∀ c, cursor.head.getLast? = some c → Text.isBlank c = true
  word : ∀ c ∈ cursor.word, Text.isBlank c = false

theorem at?_eq_some_iff : at? line pos = some cursor ↔ cursor.Marks line pos := by
  rw [at?, Option.map_eq_some_iff]
  constructor
  · rintro ⟨before, hbefore, rfl⟩
    obtain ⟨rest, rfl, rfl⟩ := Text.takeBytes?_eq_some_iff.1 hbefore
    have hsplit : (ofBefore before).head ++ (ofBefore before).word = before :=
      List.rdropWhile_append_rtakeWhile
    refine ⟨⟨rest, by rw [hsplit]⟩, by rw [hsplit], ?_, ?_⟩
    · intro c hc
      obtain ⟨hne, rfl⟩ := List.mem_getLast?_eq_getLast hc
      have hlast := List.rdropWhile_last_not (fun c => !Text.isBlank c) before hne
      rwa [Bool.not_eq_true, Bool.not_eq_false'] at hlast
    · intro c hc
      simpa using List.mem_rtakeWhile_imp hc
  · rintro ⟨⟨rest, rfl⟩, rfl, hh, hw⟩
    exact ⟨_, Text.takeBytes?_size _ rest, ofBefore_eq hh hw⟩

namespace Marks

theorem takeBytes? (h : cursor.Marks line pos) :
    Text.takeBytes? pos line = some (cursor.head ++ cursor.word) := by
  obtain ⟨rest, hrest⟩ := h.split
  exact Text.takeBytes?_eq_some_iff.2 ⟨rest, hrest, h.size⟩

theorem takeBytes?_start (h : cursor.Marks line pos) :
    Text.takeBytes? cursor.start line = some cursor.head := by
  obtain ⟨rest, hrest⟩ := h.split
  exact Text.takeBytes?_eq_some_iff.2 ⟨cursor.word ++ rest, by rw [hrest, List.append_assoc], rfl⟩

theorem slice? (h : cursor.Marks line pos) :
    Text.slice? cursor.start pos line = some cursor.word := by
  obtain ⟨rest, hrest⟩ := h.split
  exact Text.slice?_eq_some_iff.2 ⟨cursor.head, rest, hrest, rfl, h.size⟩

theorem start_le_pos (h : cursor.Marks line pos) : cursor.start ≤ pos := by
  have hsize := h.size
  rw [Text.size_append] at hsize
  exact Nat.le.intro hsize

-- A longer part would hold the last character of the head, which is blank.
theorem start_le (h : cursor.Marks line pos) {n : Nat} {part : List Char}
    (hpart : Text.slice? n pos line = some part) (hb : ∀ c ∈ part, Text.isBlank c = false) :
    cursor.start ≤ n := by
  obtain ⟨front, rest, hline, rfl, hsize⟩ := Text.slice?_eq_some_iff.1 hpart
  have hsame : front ++ part = cursor.head ++ cursor.word := by
    have hcut := Text.takeBytes?_eq_some_iff.2 ⟨rest, hline, hsize⟩
    exact Option.some.inj (hcut.symm.trans h.takeBytes?)
  rcases List.append_eq_append_iff.1 hsame with ⟨gap, hhead, hword⟩ | ⟨gap, rfl, -⟩
  · cases hlast : gap.getLast? with
    | none =>
      obtain rfl := List.getLast?_eq_none_iff.1 hlast
      rw [start, hhead, List.append_nil]
    | some c =>
      have hblank : Text.isBlank c = true := by
        refine h.head c ?_
        rw [hhead, List.getLast?_append, hlast, Option.some_or]
      have hmem : c ∈ part := by
        rw [hword]
        exact List.mem_append_left _ (List.mem_of_getLast? hlast)
      rw [hb c hmem] at hblank
      cases hblank
  · rw [Text.size_append]
    exact Nat.le_add_right _ _

end Marks

theorem isFirst_iff : cursor.isFirst = true ↔ ∀ c ∈ cursor.head, Text.isBlank c = true :=
  List.all_eq_true

/-- There is a cursor at every position that is neither past the end nor inside a character. Its
word is the longest part of the line that ends there and has no blank character in it. The start of
the word is again between characters, so that completion can cut it out of the line, and the word is
the first one exactly if there is nothing but blank characters before its start. -/
theorem starts_behind_last_blank (line : List Char) (pos : Nat) :
    (at? line pos = none ↔ Text.size line < pos ∨ Text.Inside pos line) ∧
    (∀ cursor, at? line pos = some cursor →
      cursor.start ≤ pos ∧
      (∃ head, Text.takeBytes? cursor.start line = some head ∧
        (cursor.start = 0 ∨ ∃ c, head.getLast? = some c ∧ Text.isBlank c = true) ∧
        (cursor.isFirst = true ↔ ∀ c ∈ head, Text.isBlank c = true)) ∧
      Text.slice? cursor.start pos line = some cursor.word ∧
      Text.encode (String.ofList cursor.word) =
        ((Text.encode (String.ofList line)).take pos).drop cursor.start ∧
      (∀ c ∈ cursor.word, Text.isBlank c = false) ∧
      ∀ n part, Text.slice? n pos line = some part → (∀ c ∈ part, Text.isBlank c = false) →
        cursor.start ≤ n) ∧
    ∀ (completer : Completer) (files : Files) (env : Environment),
      completer.complete? files env line pos = none ↔
        completer.enabled = true ∧ at? line pos = none := by
  refine ⟨?_, ?_, fun completer files env => completer.complete?_eq_none_iff files env line pos⟩
  · rw [at?, Option.map_eq_none_iff, Text.takeBytes?_eq_none_iff]
  · intro cursor hat
    have hmarks := at?_eq_some_iff.1 hat
    refine ⟨hmarks.start_le_pos, ⟨cursor.head, hmarks.takeBytes?_start, ?_, isFirst_iff⟩,
      hmarks.slice?, Text.encode_of_slice? hmarks.slice?, hmarks.word,
      fun n part => hmarks.start_le⟩
    cases hlast : cursor.head.getLast? with
    | none =>
      left
      rw [start, List.getLast?_eq_none_iff.1 hlast, Text.size_nil]
    | some c => exact Or.inr ⟨c, rfl, hmarks.head c hlast⟩

/-- A blank character of three bytes stands before the word. Inside of it there is no cursor. -/
theorem starts_behind_last_blank_wide :
    let line := ['l', 's', '\u3000', 'é', '€']
    (∀ completer files env, Completer.complete? completer files env line 4 = none ↔
      completer.enabled = true) ∧
    ∃ cursor, at? line 10 = some cursor ∧ cursor.start = 5 ∧ cursor.isFirst = false ∧
      Text.slice? 5 10 line = some ['é', '€'] ∧ Text.slice? 4 10 line = none := by
  intro line
  have hinside : Text.Inside 4 line := ⟨['l', 's'], '\u3000', ['é', '€'], rfl, by decide, by decide⟩
  have hnone : at? line 4 = none := (starts_behind_last_blank line 4).1.2 (Or.inr hinside)
  have hat : at? line 10 = some ⟨['l', 's', '\u3000'], ['é', '€']⟩ := by decide
  obtain ⟨-, -, hslice, -⟩ := (starts_behind_last_blank line 10).2.1 _ hat
  refine ⟨?_, _, hat, by decide, by decide, hslice, by decide⟩
  intro completer files env
  rw [(starts_behind_last_blank line 4).2.2 completer files env]
  exact and_iff_left hnone

open Command WordReader in
theorem words_of_marks (h : cursor.Marks line pos)
    (ho : ∀ c ∈ cursor.head ++ cursor.word, isOrdinary c)
    (hb : ∀ c ∈ cursor.head ++ cursor.word, Text.isBlank c = isSeparator c) :
    wordsOf cursor.head = .ok (cut cursor.head) ∧
    wordsOf (cursor.head ++ cursor.word) =
      .ok (cut cursor.head ++ [cursor.word].filter (· ≠ [])) := by
  have hword : ∀ c ∈ cursor.word, isSeparator c = false := by
    intro c hc
    rw [← hb c (List.mem_append_right _ hc)]
    exact h.word c hc
  refine ⟨wordsOf_ordinary fun c hc => ho c (List.mem_append_left _ hc), ?_⟩
  rw [wordsOf_ordinary ho, ← cut_of_not_separator hword]
  rcases List.eq_nil_or_concat' cursor.head with hnil | ⟨front, c, hhead⟩
  · rw [hnil, List.nil_append]
    rfl
  · have hc : isSeparator c = true := by
      have hmem : c ∈ cursor.head ++ cursor.word := by simp [hhead]
      rw [← hb c hmem]
      exact h.head c (by rw [hhead, List.getLast?_concat])
    rw [hhead, List.append_assoc, List.singleton_append, cut_append hc, cut_append hc]
    rw [cut_eq_nil_iff.2 (List.forall_mem_nil _), List.append_nil]

theorem isBlank_of_isSeparator {c : Char} (h : WordReader.isSeparator c = true) :
    Text.isBlank c = true := by
  have hall : ∀ d ∈ Quoting.separators, Text.isBlank d = true := List.all_eq_true.1 (by decide)
  exact hall c ((Quoting.isSeparator_iff c).1 h)

/-- On a line without quotes and backslashes, with separators as the only blank characters before
the cursor, the word under the cursor is the last word that is read up to there, unless it is empty.
The words before it are those of the line before its start, and it is the first word exactly if
there are none. -/
theorem completes_last_word_read {line before : List Char} {pos : Nat}
    (ho : ∀ c ∈ line, c ∉ ['\x27', '"', '\\']) (hpos : Text.takeBytes? pos line = some before)
    (hb : ∀ c ∈ before, Text.isBlank c = true → c ∈ [' ', '\t', '\n', '\r']) :
    ∃ cursor head word ws, at? line pos = some cursor ∧
      Text.takeBytes? cursor.start line = some head ∧
      Text.slice? cursor.start pos line = some word ∧
      Command.words (String.ofList head) = .ok ws ∧
      Command.words (String.ofList before) =
        .ok (ws ++ if word = [] then [] else [String.ofList word]) ∧
      (cursor.isFirst = true ↔ ws = []) := by
  have hat : at? line pos = some (ofBefore before) := by rw [at?, hpos, Option.map_some]
  have hmarks := at?_eq_some_iff.1 hat
  have hbefore : (ofBefore before).head ++ (ofBefore before).word = before :=
    Option.some.inj (hmarks.takeBytes?.symm.trans hpos)
  generalize ofBefore before = cursor at hat hmarks hbefore
  obtain ⟨rest, hline⟩ := hmarks.split
  have hordinary : ∀ c ∈ cursor.head ++ cursor.word, Command.isOrdinary c := by
    intro c hc
    have hc := ho c (by rw [hline]; exact List.mem_append_left _ hc)
    simp only [List.mem_cons, List.not_mem_nil, or_false, not_or] at hc
    simp [Command.isOrdinary, hc]
  have hsame : ∀ c ∈ cursor.head ++ cursor.word, Text.isBlank c = WordReader.isSeparator c := by
    intro c hc
    refine Bool.eq_iff_iff.2 ⟨fun hblank => ?_, isBlank_of_isSeparator⟩
    exact (Quoting.isSeparator_iff c).2 (hb c (hbefore ▸ hc) hblank)
  obtain ⟨hhead, hall⟩ := words_of_marks hmarks hordinary hsame
  refine ⟨cursor, cursor.head, cursor.word, (Command.cut cursor.head).map String.ofList, hat,
    hmarks.takeBytes?_start, hmarks.slice?, ?_, ?_, ?_⟩
  · rw [Command.words, String.toList_ofList, hhead]
    rfl
  · rw [Command.words, String.toList_ofList, ← hbefore, hall]
    by_cases hempty : cursor.word = [] <;> simp [Except.map, hempty]
  · rw [isFirst_iff, List.map_eq_nil_iff, Command.cut_eq_nil_iff]
    refine forall₂_congr fun c hc => ?_
    rw [hsame c (List.mem_append_left _ hc)]

/-- There is a separator of each kind and an operator, and behind the cursor a blank character that
is no separator. -/
theorem completes_last_word_read_mixed :
    let line := "\tls\r-é |\nwc\u3000x".toList
    let before := "\tls\r-é |\nwc".toList
    (∀ c ∈ line, c ∉ ['\x27', '"', '\\']) ∧ Text.takeBytes? 12 line = some before ∧
      (∀ c ∈ before, Text.isBlank c = true → c ∈ [' ', '\t', '\n', '\r']) ∧
      ∃ cursor ws, at? line 12 = some cursor ∧ cursor.start = 10 ∧ cursor.isFirst = false ∧
        Command.words "\tls\r-é |\n" = .ok ws ∧
        Command.words (String.ofList before) = .ok (ws ++ ["wc"]) := by
  intro line before
  have ho : ∀ c ∈ line, c ∉ ['\x27', '"', '\\'] :=
    List.all_iff_forall_prop.1 (by decide)
  have hpos : Text.takeBytes? 12 line = some before := by decide
  have hb : ∀ c ∈ before, Text.isBlank c = true → c ∈ [' ', '\t', '\n', '\r'] :=
    List.all_iff_forall_prop.1 (by decide)
  obtain ⟨cursor, head, word, ws, hat, hhead, hword, hws, hall, -⟩ :=
    completes_last_word_read ho hpos hb
  have hcursor : at? line 12 = some ⟨"\tls\r-é |\n".toList, ['w', 'c']⟩ := by decide
  obtain rfl := Option.some.inj (hat.symm.trans hcursor)
  obtain rfl : head = "\tls\r-é |\n".toList := Option.some.inj (hhead.symm.trans (by decide))
  obtain rfl : word = ['w', 'c'] := Option.some.inj (hword.symm.trans (by decide))
  exact ⟨ho, hpos, hb, _, ws, hat, by decide, by decide, by simpa using hws, hall⟩

end Cursor

end PipeShell.Completion
