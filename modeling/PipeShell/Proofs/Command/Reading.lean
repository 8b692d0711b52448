import PipeShell.Proofs.Command.Quoting
import PipeShell.Proofs.Command.Words

/-!
# Reading a line of the quoting grammar

The word reader keeps step with the layout of the line that it has read: the pieces say which words
are finished and what the current one holds, the unfinished segment says in which mode it is. At the
end of the line it gives the values of the words that are not empty, or the error of the unfinished
segment.
-/

namespace PipeShell.Quoting

open WordReader

theorem isSeparator_iff (c : Char) : isSeparator c = true ↔ c ∈ separators := by
  simp [isSeparator, separators, or_assoc]

theorem isDoubleEscapable_iff (c : Char) :
    isDoubleEscapable c = true ↔ c ∈ ['$', '\x60', '"', '\\'] := by
  simp [isDoubleEscapable, or_assoc]

theorem value_escaped (c : Char) :
    (Item.escaped c).value = if isDoubleEscapable c then [c] else ['\\', c] := by
  simp only [Item.value, isDoubleEscapable_iff]

def grow (r : WordReader) (cs : List Char) : WordReader :=
  { r with pending := cs.reverse ++ r.pending }

theorem grow_append (r : WordReader) (cs ds : List Char) :
    grow r (cs ++ ds) = grow (grow r cs) ds := by
  simp [grow]

def Piece.feed (r : WordReader) : Piece → WordReader
  | .separator _ => r.finishWord
  | .segment s => grow r s.value

theorem mode_feed (r : WordReader) (piece : Piece) : (piece.feed r).mode = r.mode := by
  cases piece with
  | segment s => rfl
  | separator c =>
    by_cases h : r.pending.isEmpty <;> simp [Piece.feed, finishWord, h]

theorem mode_feedAll (r : WordReader) (ps : List Piece) :
    (ps.foldl Piece.feed r).mode = r.mode := by
  induction ps generalizing r with
  | nil => rfl
  | cons piece ps ih => rw [List.foldl_cons, ih, mode_feed]

@[simp] def Unfinished.value : Unfinished → List Char
  | .escape => []
  | .single cs _ => cs
  | .double items _ => items.flatMap Item.value

@[simp] def Unfinished.mode : Unfinished → Mode
  | .escape => .escaped
  | .single _ _ => .single
  | .double _ backslash => if backslash then .doubleEscaped else .double

namespace Layout

/-- The state of the word reader behind a line of this layout. -/
def reader (l : Layout) : WordReader :=
  match l.tail with
  | none => l.pieces.foldl Piece.feed {}
  | some u => (grow (l.pieces.foldl Piece.feed {}) u.value).enter u.mode

-- The tail says in which mode the reader is, so the cases are those of the reader.
theorem reader_extend (l : Layout) (c : Char) : (l.extend c).reader = l.reader.step c := by
  obtain ⟨ps, tail⟩ := l
  have hm := mode_feedAll {} ps
  have hsep := isSeparator_iff c
  generalize hr : ps.foldl Piece.feed {} = r at hm
  obtain ⟨mode, pending, done⟩ := r
  obtain rfl : mode = .plain := hm
  rcases tail with _ | (_ | ⟨cs, h⟩ | ⟨items, _ | _⟩)
  · simp only [extend]
    split_ifs with hb hd hq hs
    · simp [reader, hr, step, enter, hb, grow]
    · simp [reader, hr, step, enter, hd, grow]
    · simp [reader, hr, step, enter, hq, grow]
    · simp [reader, hr, step, hb, hd, hq, hsep.2 hs, Piece.feed]
    · simp [reader, hr, step, hb, hd, hq, hsep, hs, Piece.feed, grow, push]
  · simp [extend, reader, hr, step, enter, Piece.feed, grow, push]
  · simp only [extend]
    split_ifs with hq
    · simp [reader, hr, step, enter, hq, Piece.feed, grow]
    · simp [reader, hr, step, enter, hq, grow, push]
  · simp only [extend]
    split_ifs with hb hd
    · simp [reader, hr, step, enter, hb, grow]
    · simp [reader, hr, step, enter, hd, Piece.feed, grow]
    · simp [reader, hr, step, enter, hb, hd, Item.value, grow, push]
  · by_cases hc : isDoubleEscapable c
    · simp [extend, reader, hr, step, enter, value_escaped, hc, grow, push]
    · simp [extend, reader, hr, step, enter, value_escaped, hc, grow, push]

theorem scan_reader (l : Layout) (line : List Char) :
    l.reader.scan line = (l.extendAll line).reader := by
  induction line generalizing l with
  | nil => rfl
  | cons c line ih => rw [scan_cons, ← reader_extend, ih, extendAll_cons]

theorem scan_text (l : Layout) : WordReader.scan {} l.text = l.reader := by
  have h := scan_reader {} l.text
  rwa [extendAll_text] at h

theorem finish_reader_of_tail {l : Layout} {u : Unfinished} (h : l.tail = some u) :
    l.reader.finish = .error u.error := by
  simp only [reader, h]
  rcases u with _ | ⟨cs, h⟩ | ⟨items, _ | _⟩ <;> rfl

end Layout

theorem feed_segments (r : WordReader) (ss : List Segment) :
    (ss.map Piece.segment).foldl Piece.feed r = grow r (ss.flatMap Segment.value) := by
  induction ss generalizing r with
  | nil => rfl
  | cons s ss ih =>
    rw [List.map_cons, List.foldl_cons, ih, List.flatMap_cons, grow_append]
    rfl

theorem feed_word (r : WordReader) (w : Word) : w.pieces.foldl Piece.feed r = grow r w.value :=
  feed_segments r w.segments

theorem feed_separators {r : WordReader} (h : r.pending = []) (cs : List Separator) :
    (cs.map Piece.separator).foldl Piece.feed r = r := by
  have hf : r.finishWord = r := by simp [finishWord, h]
  induction cs with
  | nil => rfl
  | cons c cs ih => rw [List.map_cons, List.foldl_cons, Piece.feed, hf, ih]

theorem finishWord_grow (done : List (List Char)) (v : List Char) :
    (grow { done := done } v).finishWord = { done := [v].filter (· ≠ []) ++ done } := by
  cases v <;> simp [grow, finishWord]

theorem finish_grow (done : List (List Char)) (v : List Char) :
    (grow { done := done } v).finish = .ok (done.reverse ++ [v].filter (· ≠ [])) := by
  rw [finish, finishWord_grow]
  cases v <;> simp [grow]

theorem feed_part (done : List (List Char)) (w : Word) (g : Gap) :
    (w.pieces ++ g.pieces).foldl Piece.feed { done := done } =
      { done := [w.value].filter (· ≠ []) ++ done } := by
  rw [List.foldl_append, feed_word, Gap.pieces, Gap.separators, List.map_cons, List.foldl_cons,
    Piece.feed, finishWord_grow, feed_separators rfl]

theorem feed_parts (done : List (List Char)) (parts : List (Word × Gap)) :
    (parts.flatMap fun part => part.1.pieces ++ part.2.pieces).foldl Piece.feed { done := done } =
      { done := ((parts.map fun part => part.1.value).filter (· ≠ [])).reverse ++ done } := by
  induction parts generalizing done with
  | nil => rfl
  | cons part parts ih =>
    rw [List.flatMap_cons, List.foldl_append, feed_part, ih]
    by_cases hv : part.1.value = [] <;> simp [hv]

theorem finish_feed_last (done : List (List Char)) (last : Option Word) :
    ((last.toList.flatMap Word.pieces).foldl Piece.feed { done := done }).finish =
      .ok (done.reverse ++ (last.toList.map Word.value).filter (· ≠ [])) := by
  cases last with
  | none => exact finish_grow done []
  | some w =>
    rw [Option.toList_some, List.flatMap_singleton, feed_word]
    exact finish_grow done w.value

theorem finish_feed_pieces (p : Phrase) :
    (p.pieces.foldl Piece.feed {}).finish = .ok p.values := by
  rw [Phrase.pieces, List.foldl_append, List.foldl_append, feed_separators rfl, feed_parts,
    finish_feed_last]
  simp [Phrase.values, Phrase.words, Function.comp_def]

end PipeShell.Quoting

namespace PipeShell.Command

open Quoting

theorem wordsOf_text (p : Phrase) : wordsOf p.text = .ok p.values := by
  have hs := Layout.scan_text (.ofPhrase p none)
  have ht : (Layout.ofPhrase p none).text = p.text := by simp [Layout.text_ofPhrase]
  rw [wordsOf, ← ht, hs]
  exact finish_feed_pieces p

theorem wordsOf_unfinished (p : Phrase) (u : Unfinished) :
    wordsOf (p.text ++ u.text) = .error u.error := by
  have hs := Layout.scan_text (.ofPhrase p (some u))
  have ht : (Layout.ofPhrase p (some u)).text = p.text ++ u.text := by simp [Layout.text_ofPhrase]
  rw [wordsOf, ← ht, hs]
  exact Layout.finish_reader_of_tail rfl

theorem words_text {line : String} {p : Phrase} (h : p.text = line.toList) :
    words line = .ok (p.values.map String.ofList) := by
  rw [words, ← h, wordsOf_text]
  rfl

theorem words_unfinished {line : String} {p : Phrase} {u : Unfinished}
    (h : p.text ++ u.text = line.toList) : words line = .error u.error := by
  rw [words, ← h, wordsOf_unfinished]
  rfl

theorem words_eq_ok_iff (line : String) (ws : List String) :
    words line = .ok ws ↔
      ∃ p : Phrase, p.text = line.toList ∧ p.values.map String.ofList = ws := by
  constructor
  · intro hws
    rcases Layout.existsUnique_text line.toList with ⟨p, hp, -⟩ | ⟨⟨p, u⟩, hp, -⟩
    · rw [words_text hp] at hws
      exact ⟨p, hp, Except.ok.inj hws⟩
    · rw [words_unfinished hp] at hws
      exact absurd hws (by simp)
  · rintro ⟨p, hp, rfl⟩
    exact words_text hp

theorem words_eq_error_iff (line : String) (e : SyntaxError) :
    words line = .error e ↔
      ∃ (p : Phrase) (u : Unfinished), p.text ++ u.text = line.toList ∧ u.error = e := by
  constructor
  · intro he
    rcases Layout.existsUnique_text line.toList with ⟨p, hp, -⟩ | ⟨⟨p, u⟩, hp, -⟩
    · rw [words_text hp] at he
      exact absurd he (by simp)
    · rw [words_unfinished hp] at he
      exact ⟨p, u, hp, Except.error.inj he⟩
  · rintro ⟨p, u, hp, rfl⟩
    exact words_unfinished hp

/-- The words of a line are the values of the words in its layout, without the empty ones. A line
without such a layout breaks off in one unfinished segment, whose error is the error of the line. -/
theorem words_iff_quoting (line : String) :
    (∀ ws, words line = .ok ws ↔
      ∃ p : Phrase, p.text = line.toList ∧ p.values.map String.ofList = ws) ∧
    (∀ e, words line = .error e ↔
      ∃ (p : Phrase) (u : Unfinished), p.text ++ u.text = line.toList ∧ u.error = e) ∧
    ((∃! p : Phrase, p.text = line.toList) ∨
      ∃! broken : Phrase × Unfinished, broken.1.text ++ broken.2.text = line.toList) :=
  ⟨words_eq_ok_iff line, words_eq_error_iff line, Layout.existsUnique_text line.toList⟩

-- Segments that touch, a word without value, and a backslash at the end between double quotes.
example : words "a\"\\$\\n\"'\\ '\\\" '' b" = .ok ["a$\\n\\ \"", "b"] := by decide

example : words "a 'b' \"c\\" = .error .unclosedDouble := by decide

end PipeShell.Command
