import Mathlib.Tactic.Common
import PipeShell.Command.Basic

/-!
# The quoting grammar of a line

A line is a row of words with gaps between them. A word is made of segments: plain characters,
escaped characters and quoted runs. Where the line breaks off inside of a segment, that segment is
unfinished and nothing stands behind it. Every line can be laid out in this way, and in one way
only.

The layout of a line is found one character at a time, as a list of pieces. A piece is a separator
or a segment; how pieces make up words and gaps is a matter of lists.
-/

namespace PipeShell.Quoting

def separators : List Char := [' ', '\t', '\n', '\r']

-- Between double quotes.
inductive Item
  | plain (c : Char) (h : c ∉ ['"', '\\'])
  | escaped (c : Char)

@[simp] def Item.text : Item → List Char
  | .plain c _ => [c]
  | .escaped c => ['\\', c]

/-- The backslash goes only where the character behind it needed one. -/
def Item.value : Item → List Char
  | .plain c _ => [c]
  | .escaped c => if c ∈ ['$', '\x60', '"', '\\'] then [c] else ['\\', c]

inductive Segment
  | plain (c : Char) (h : c ∉ '\\' :: '"' :: '\x27' :: separators)
  | escaped (c : Char)
  | single (cs : List Char) (h : '\x27' ∉ cs)
  | double (items : List Item)

@[simp] def Segment.text : Segment → List Char
  | .plain c _ => [c]
  | .escaped c => ['\\', c]
  | .single cs _ => '\x27' :: (cs ++ ['\x27'])
  | .double items => '"' :: (items.flatMap Item.text ++ ['"'])

@[simp] def Segment.value : Segment → List Char
  | .plain c _ => [c]
  | .escaped c => [c]
  | .single cs _ => cs
  | .double items => items.flatMap Item.value

/-- A segment in which the line ends. Between double quotes a backslash may stand last. -/
inductive Unfinished
  | escape
  | single (cs : List Char) (h : '\x27' ∉ cs)
  | double (items : List Item) (backslash : Bool)

@[simp] def Unfinished.text : Unfinished → List Char
  | .escape => ['\\']
  | .single cs _ => '\x27' :: cs
  | .double items backslash => '"' :: (items.flatMap Item.text ++ if backslash then ['\\'] else [])

def Unfinished.error : Unfinished → SyntaxError
  | .escape => .trailingEscape
  | .single _ _ => .unclosedSingle
  | .double _ _ => .unclosedDouble

abbrev Separator := { c : Char // c ∈ separators }

structure Word where
  first : Segment
  rest : List Segment

def Word.segments (w : Word) : List Segment := w.first :: w.rest

def Word.text (w : Word) : List Char := w.segments.flatMap Segment.text

def Word.value (w : Word) : List Char := w.segments.flatMap Segment.value

structure Gap where
  first : Separator
  rest : List Separator

def Gap.separators (g : Gap) : List Separator := g.first :: g.rest

def Gap.text (g : Gap) : List Char := g.separators.map Subtype.val

/-- Words with gaps between them. Separators may stand at both ends. -/
structure Phrase where
  lead : List Separator
  parts : List (Word × Gap)
  last : Option Word

namespace Phrase

def text (p : Phrase) : List Char :=
  p.lead.map Subtype.val ++ ((p.parts.flatMap fun part => part.1.text ++ part.2.text) ++
    p.last.toList.flatMap Word.text)

def words (p : Phrase) : List Word := p.parts.map Prod.fst ++ p.last.toList

def values (p : Phrase) : List (List Char) := (p.words.map Word.value).filter (· ≠ [])

end Phrase

inductive Piece
  | separator (c : Separator)
  | segment (s : Segment)

@[simp] def Piece.text : Piece → List Char
  | .separator c => [c.val]
  | .segment s => s.text

def Word.pieces (w : Word) : List Piece := w.segments.map .segment

def Gap.pieces (g : Gap) : List Piece := g.separators.map .separator

theorem flatMap_separator (cs : List Separator) :
    (cs.map Piece.separator).flatMap Piece.text = cs.map Subtype.val := by
  induction cs with
  | nil => rfl
  | cons c cs ih => rw [List.map_cons, List.flatMap_cons, ih, List.map_cons, Piece.text,
      List.singleton_append]

theorem Word.flatMap_pieces (w : Word) : w.pieces.flatMap Piece.text = w.text := by
  rw [Word.pieces, List.flatMap_map]
  rfl

namespace Phrase

def pieces (p : Phrase) : List Piece :=
  p.lead.map .separator ++ ((p.parts.flatMap fun part => part.1.pieces ++ part.2.pieces) ++
    p.last.toList.flatMap Word.pieces)

theorem flatMap_pieces (p : Phrase) : p.pieces.flatMap Piece.text = p.text := by
  have hgap : ∀ g : Gap, g.pieces.flatMap Piece.text = g.text := fun g => flatMap_separator _
  simp only [pieces, text, List.flatMap_append, List.flatMap_assoc, flatMap_separator,
    Word.flatMap_pieces, hgap]

def addSegment (s : Segment) : Phrase → Phrase
  | ⟨c :: cs, parts, last⟩ => ⟨[], (⟨s, []⟩, ⟨c, cs⟩) :: parts, last⟩
  | ⟨[], (w, g) :: parts, last⟩ => ⟨[], (⟨s, w.segments⟩, g) :: parts, last⟩
  | ⟨[], [], some w⟩ => ⟨[], [], some ⟨s, w.segments⟩⟩
  | ⟨[], [], none⟩ => ⟨[], [], some ⟨s, []⟩⟩

def ofPieces : List Piece → Phrase
  | [] => ⟨[], [], none⟩
  | .separator c :: ps => { ofPieces ps with lead := c :: (ofPieces ps).lead }
  | .segment s :: ps => (ofPieces ps).addSegment s

theorem pieces_addSegment (s : Segment) (p : Phrase) :
    (p.addSegment s).pieces = .segment s :: p.pieces := by
  obtain ⟨lead, parts, last⟩ := p
  cases lead with
  | cons c cs => simp [addSegment, pieces, Word.pieces, Word.segments, Gap.pieces, Gap.separators]
  | nil =>
    cases parts with
    | cons part parts => simp [addSegment, pieces, Word.pieces, Word.segments]
    | nil => cases last <;> simp [addSegment, pieces, Word.pieces, Word.segments]

theorem pieces_ofPieces (ps : List Piece) : (ofPieces ps).pieces = ps := by
  induction ps with
  | nil => rfl
  | cons piece ps ih =>
    cases piece with
    | separator c =>
      have hc : (ofPieces (.separator c :: ps)).pieces = .separator c :: (ofPieces ps).pieces := rfl
      rw [hc, ih]
    | segment s => rw [ofPieces, pieces_addSegment, ih]

theorem ofPieces_separators (cs : List Separator) (ps : List Piece) :
    ofPieces (cs.map .separator ++ ps) =
      { ofPieces ps with lead := cs ++ (ofPieces ps).lead } := by
  induction cs with
  | nil => rfl
  | cons c cs ih => rw [List.map_cons, List.cons_append, ofPieces, ih, List.cons_append]

theorem ofPieces_part (w : Word) {ps : List Piece} {c : Separator} {cs : List Separator}
    {parts : List (Word × Gap)} {last : Option Word} (h : ofPieces ps = ⟨c :: cs, parts, last⟩) :
    ofPieces (w.pieces ++ ps) = ⟨[], (w, ⟨c, cs⟩) :: parts, last⟩ := by
  obtain ⟨first, rest⟩ := w
  induction rest generalizing first with
  | nil =>
    change addSegment first (ofPieces ps) = _
    rw [h]
    rfl
  | cons next rest ih =>
    change addSegment first (ofPieces (Word.pieces ⟨next, rest⟩ ++ ps)) = _
    rw [ih next]
    rfl

theorem ofPieces_last (w : Word) : ofPieces w.pieces = ⟨[], [], some w⟩ := by
  obtain ⟨first, rest⟩ := w
  induction rest generalizing first with
  | nil => rfl
  | cons next rest ih =>
    change addSegment first (ofPieces (Word.pieces ⟨next, rest⟩)) = _
    rw [ih next]
    rfl

theorem ofPieces_pieces (p : Phrase) : ofPieces p.pieces = p := by
  obtain ⟨lead, parts, last⟩ := p
  have hparts : ofPieces ((parts.flatMap fun part => part.1.pieces ++ part.2.pieces) ++
      last.toList.flatMap Word.pieces) = ⟨[], parts, last⟩ := by
    induction parts with
    | nil =>
      cases last with
      | none => rfl
      | some w => simpa using ofPieces_last w
    | cons part parts ih =>
      obtain ⟨w, g⟩ := part
      have hg := ofPieces_separators g.separators
        ((parts.flatMap fun part => part.1.pieces ++ part.2.pieces) ++
          last.toList.flatMap Word.pieces)
      rw [ih, List.append_nil] at hg
      rw [List.flatMap_cons, List.append_assoc, List.append_assoc]
      exact ofPieces_part w hg
  rw [pieces, ofPieces_separators, hparts, List.append_nil]

end Phrase

/-- The pieces of a line, and the segment in which it ends unfinished. -/
structure Layout where
  pieces : List Piece := []
  tail : Option Unfinished := none

namespace Layout

def text (l : Layout) : List Char :=
  l.pieces.flatMap Piece.text ++ l.tail.toList.flatMap Unfinished.text

theorem notMem_append {c d : Char} {cs : List Char} (h : d ∉ cs) (hc : c ≠ d) : d ∉ cs ++ [c] := by
  simpa [h] using hc.symm

def extend (l : Layout) (c : Char) : Layout :=
  match l.tail with
  | none =>
    if hb : c = '\\' then { l with tail := some .escape }
    else if hd : c = '"' then { l with tail := some (.double [] false) }
    else if hq : c = '\x27' then { l with tail := some (.single [] List.not_mem_nil) }
    else if hs : c ∈ separators then ⟨l.pieces ++ [.separator ⟨c, hs⟩], none⟩
    else ⟨l.pieces ++ [.segment (.plain c (by simp [hb, hd, hq, hs]))], none⟩
  | some .escape => ⟨l.pieces ++ [.segment (.escaped c)], none⟩
  | some (.single cs h) =>
    if hq : c = '\x27' then ⟨l.pieces ++ [.segment (.single cs h)], none⟩
    else { l with tail := some (.single (cs ++ [c]) (notMem_append h hq)) }
  | some (.double items false) =>
    if hb : c = '\\' then { l with tail := some (.double items true) }
    else if hd : c = '"' then ⟨l.pieces ++ [.segment (.double items)], none⟩
    else { l with tail := some (.double (items ++ [.plain c (by simp [hb, hd])]) false) }
  | some (.double items true) => { l with tail := some (.double (items ++ [.escaped c]) false) }

def extendAll (l : Layout) (line : List Char) : Layout := line.foldl extend l

theorem text_extend (l : Layout) (c : Char) : (l.extend c).text = l.text ++ [c] := by
  obtain ⟨ps, tail⟩ := l
  rcases tail with _ | (_ | ⟨cs, h⟩ | ⟨items, _ | _⟩)
  · simp only [extend]
    split_ifs with hb hd hq hs
    · simp [text, hb]
    · simp [text, hd]
    · simp [text, hq]
    · simp [text]
    · simp [text]
  · simp [extend, text]
  · simp only [extend]
    split_ifs with hq
    · simp [text, hq]
    · simp [text]
  · simp only [extend]
    split_ifs with hb hd
    · simp [text, hb]
    · simp [text, hd]
    · simp [text]
  · simp [extend, text]

theorem text_extendAll (l : Layout) (line : List Char) :
    (l.extendAll line).text = l.text ++ line := by
  induction line generalizing l with
  | nil => simp [extendAll]
  | cons c line ih =>
    have hc := ih (l.extend c)
    rw [text_extend, List.append_assoc, List.singleton_append] at hc
    exact hc

theorem extendAll_append (l : Layout) (s t : List Char) :
    l.extendAll (s ++ t) = (l.extendAll s).extendAll t := List.foldl_append

theorem extendAll_cons (l : Layout) (c : Char) (s : List Char) :
    l.extendAll (c :: s) = (l.extend c).extendAll s := rfl

section Read

variable (ps : List Piece)

theorem extendAll_item (items : List Item) (i : Item) :
    extendAll ⟨ps, some (.double items false)⟩ i.text =
      ⟨ps, some (.double (items ++ [i]) false)⟩ := by
  cases i with
  | escaped c => rfl
  | plain c h =>
    have hc : c ≠ '\\' ∧ c ≠ '"' := by
      simp only [List.mem_cons, List.not_mem_nil, or_false, not_or] at h
      exact h.symm
    simp [extendAll, Item.text, extend, hc]

theorem extendAll_items (items more : List Item) :
    extendAll ⟨ps, some (.double items false)⟩ (more.flatMap Item.text) =
      ⟨ps, some (.double (items ++ more) false)⟩ := by
  induction more generalizing items with
  | nil => simp [extendAll]
  | cons i more ih =>
    rw [List.flatMap_cons, extendAll_append, extendAll_item, ih, List.append_assoc,
      List.singleton_append]

theorem extendAll_single (cs more : List Char) (hcs : '\x27' ∉ cs) (hmore : '\x27' ∉ cs ++ more) :
    extendAll ⟨ps, some (.single cs hcs)⟩ more = ⟨ps, some (.single (cs ++ more) hmore)⟩ := by
  induction more generalizing cs with
  | nil => simp [extendAll]
  | cons c more ih =>
    have hc : c ≠ '\x27' := by
      rintro rfl
      simp at hmore
    have hnext : '\x27' ∉ (cs ++ [c]) ++ more := by simpa using hmore
    have hstep : extend ⟨ps, some (.single cs hcs)⟩ c =
        ⟨ps, some (.single (cs ++ [c]) (notMem_append hcs hc))⟩ := by simp [extend, hc]
    rw [extendAll_cons, hstep, ih (cs ++ [c]) _ hnext]
    simp

theorem extendAll_unfinished (u : Unfinished) : extendAll ⟨ps, none⟩ u.text = ⟨ps, some u⟩ := by
  cases u with
  | escape => rfl
  | single cs h =>
    have hq : extend ⟨ps, none⟩ '\x27' = ⟨ps, some (.single [] List.not_mem_nil)⟩ := rfl
    rw [Unfinished.text, extendAll_cons, hq]
    exact extendAll_single ps [] cs List.not_mem_nil h
  | double items backslash =>
    have hq : extend ⟨ps, none⟩ '"' = ⟨ps, some (.double [] false)⟩ := rfl
    rw [Unfinished.text, extendAll_cons, hq, extendAll_append, extendAll_items, List.nil_append]
    cases backslash <;> rfl

theorem extendAll_segment (s : Segment) :
    extendAll ⟨ps, none⟩ s.text = ⟨ps ++ [.segment s], none⟩ := by
  cases s with
  | plain c h =>
    simp only [List.mem_cons, not_or] at h
    simp [extendAll, Segment.text, extend, h]
  | escaped c => rfl
  | single cs h =>
    have hu := extendAll_unfinished ps (.single cs h)
    rw [Unfinished.text] at hu
    rw [Segment.text, ← List.cons_append, extendAll_append, hu]
    rfl
  | double items =>
    have hu := extendAll_unfinished ps (.double items false)
    simp only [Unfinished.text, Bool.false_eq_true, if_false, List.append_nil] at hu
    rw [Segment.text, ← List.cons_append, extendAll_append, hu]
    rfl

theorem extendAll_piece (piece : Piece) :
    extendAll ⟨ps, none⟩ piece.text = ⟨ps ++ [piece], none⟩ := by
  cases piece with
  | segment s => exact extendAll_segment ps s
  | separator c =>
    obtain ⟨c, hc⟩ := c
    have hq : c ≠ '\\' ∧ c ≠ '"' ∧ c ≠ '\x27' := by
      refine ⟨?_, ?_, ?_⟩ <;> rintro rfl <;> exact absurd hc (by decide)
    simp [extendAll, Piece.text, extend, hq, hc]

theorem extendAll_pieces (more : List Piece) :
    extendAll ⟨ps, none⟩ (more.flatMap Piece.text) = ⟨ps ++ more, none⟩ := by
  induction more generalizing ps with
  | nil => simp [extendAll]
  | cons piece more ih =>
    rw [List.flatMap_cons, extendAll_append, extendAll_piece, ih, List.append_assoc,
      List.singleton_append]

end Read

theorem extendAll_text (l : Layout) : extendAll {} l.text = l := by
  obtain ⟨ps, tail⟩ := l
  rw [text, extendAll_append, extendAll_pieces, List.nil_append]
  cases tail with
  | none => rfl
  | some u => simpa using extendAll_unfinished ps u

theorem text_injective {l m : Layout} (h : l.text = m.text) : l = m := by
  rw [← extendAll_text l, h, extendAll_text]

def ofPhrase (p : Phrase) (tail : Option Unfinished) : Layout := ⟨p.pieces, tail⟩

theorem text_ofPhrase (p : Phrase) (tail : Option Unfinished) :
    (ofPhrase p tail).text = p.text ++ tail.toList.flatMap Unfinished.text := by
  rw [text, ofPhrase, Phrase.flatMap_pieces]

theorem ofPhrase_injective {p q : Phrase} {t u : Option Unfinished}
    (h : ofPhrase p t = ofPhrase q u) : p = q ∧ t = u := by
  obtain ⟨hp, ht⟩ := Layout.mk.inj h
  refine ⟨?_, ht⟩
  rw [← Phrase.ofPieces_pieces p, hp, Phrase.ofPieces_pieces]

theorem exists_ofPhrase (line : List Char) : ∃ p tail, (ofPhrase p tail).text = line := by
  have hl := text_extendAll {} line
  refine ⟨Phrase.ofPieces (extendAll {} line).pieces, (extendAll {} line).tail, ?_⟩
  rw [ofPhrase, Phrase.pieces_ofPieces]
  exact hl

/-- A line is words and gaps, or it is that with an unfinished segment behind, each in one way. -/
theorem existsUnique_text (line : List Char) :
    (∃! p : Phrase, p.text = line) ∨
      ∃! broken : Phrase × Unfinished, broken.1.text ++ broken.2.text = line := by
  obtain ⟨p, tail, hp⟩ := exists_ofPhrase line
  have hsame : ∀ q t, (ofPhrase q t).text = line → q = p ∧ t = tail := by
    intro q t hq
    exact ofPhrase_injective (text_injective (hq.trans hp.symm))
  cases tail with
  | none =>
    refine Or.inl ⟨p, by simpa [text_ofPhrase] using hp, ?_⟩
    intro q hq
    exact (hsame q none (by simpa [text_ofPhrase] using hq)).1
  | some u =>
    refine Or.inr ⟨(p, u), by simpa [text_ofPhrase] using hp, ?_⟩
    rintro ⟨q, v⟩ hq
    obtain ⟨rfl, hv⟩ := hsame q (some v) (by simpa [text_ofPhrase] using hq)
    rw [Option.some.inj hv]

end Layout

end PipeShell.Quoting
