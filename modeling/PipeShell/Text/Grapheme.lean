import PipeShell.Text.GraphemeData

/-!
# Grapheme clusters

What a reader takes for one character may be several: a letter with its accents, a pair of regional
letters, pictographs tied by joiners. A text is cut into such clusters from left to right, and
whether two neighbours part depends on their classes and on a little memory of the cluster so far.
-/

namespace PipeShell.Text.Grapheme

inductive Kind
  | feed
  | ret
  | control
  | extend
  | joiner
  | regional
  | prepended
  | spacing
  | leading
  | vowel
  | trailing
  | syllable
  | closedSyllable
  | pictograph
  | other
  deriving DecidableEq, Repr

def kind (c : Char) : Kind :=
  let n := c.toNat
  if n == 0x0A then .feed
  else if n == 0x0D then .ret
  else if 0x20 ≤ n && n < 0x7F then .other
  else if n == 0x200D then .joiner
  else if inRanges controlBounds n then .control
  else if inRanges extendBounds n then .extend
  else if 0x1F1E6 ≤ n && n ≤ 0x1F1FF then .regional
  else if inRanges prependBounds n then .prepended
  else if inRanges spacingBounds n then .spacing
  else if (0x1100 ≤ n && n ≤ 0x115F) || (0xA960 ≤ n && n ≤ 0xA97C) then .leading
  else if inRanges vowelBounds n then .vowel
  else if (0x11A8 ≤ n && n ≤ 0x11FF) || (0xD7CB ≤ n && n ≤ 0xD7FB) then .trailing
  else if 0xAC00 ≤ n && n ≤ 0xD7A3 then
    if (n - 0xAC00) % 28 == 0 then .syllable else .closedSyllable
  else if inRanges pictographBounds n then .pictograph
  else .other

inductive Conjunct
  | none
  | consonant
  | linked
  deriving DecidableEq, Repr

/-- What the cluster so far says about the next character. `tied` holds after a pictograph, its
extensions and a joiner; `oddRegional` after an odd number of regional letters. -/
structure Memory where
  last : Kind
  pictograph : Bool
  tied : Bool
  oddRegional : Bool
  conjunct : Conjunct
  deriving DecidableEq, Repr

def isConsonant (c : Char) : Bool := inRanges consonantBounds c.toNat

def isLinker (c : Char) : Bool := linkers.contains c.toNat

def nextConjunct (old : Conjunct) (k : Kind) (c : Char) : Conjunct :=
  if isConsonant c then .consonant
  else if old = .none then .none
  else if isLinker c then .linked
  else if (k = .extend && c.toNat != 0x200C) || k = .joiner then old
  else .none

def Memory.first (c : Char) : Memory :=
  let k := kind c
  ⟨k, k = .pictograph, false, k = .regional, if isConsonant c then .consonant else .none⟩

def Memory.next (m : Memory) (c : Char) : Memory :=
  let k := kind c
  { last := k
    pictograph := k = .pictograph || (m.pictograph && k = .extend)
    tied := m.pictograph && k = .joiner
    oddRegional := k = .regional && !m.oddRegional
    conjunct := nextConjunct m.conjunct k c }

def composes (last next : Kind) : Bool :=
  match last, next with
  | .leading, .leading | .leading, .vowel | .leading, .syllable | .leading, .closedSyllable => true
  | .syllable, .vowel | .syllable, .trailing | .vowel, .vowel | .vowel, .trailing => true
  | .closedSyllable, .trailing | .trailing, .trailing => true
  | _, _ => false

def Memory.keeps (m : Memory) (c : Char) : Bool :=
  let k := kind c
  let alone := fun k : Kind => k = .feed || k = .ret || k = .control
  if m.last = .ret && k = .feed then true
  else if alone m.last || alone k then false
  else
    composes m.last k || k = .extend || k = .joiner || k = .spacing || m.last = .prepended ||
      (m.conjunct = .linked && isConsonant c) || (m.tied && k = .pictograph) ||
      (m.oddRegional && k = .regional)

def clustersAux (m : Memory) (piece : List Char) (found : List (List Char)) :
    List Char → List (List Char)
  | [] => (piece.reverse :: found).reverse
  | c :: cs =>
    if m.keeps c then clustersAux (m.next c) (c :: piece) found cs
    else clustersAux (Memory.first c) [c] (piece.reverse :: found) cs

def clusters : List Char → List (List Char)
  | [] => []
  | c :: cs => clustersAux (Memory.first c) [c] [] cs

end PipeShell.Text.Grapheme
