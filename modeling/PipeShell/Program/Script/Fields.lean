import PipeShell.Program.Script.State

/-!
# Fields and patterns

What becomes of a word once its parts are expanded: unquoted text that came from a parameter or a
command is parted into fields, and a field with unquoted pattern characters is replaced by the
names that fit it.
-/

namespace PipeShell.Script

inductive Segment
  | solid (s : String) (quoted : Bool)
  | loose (s : String)
  | several (ss : List String) (quoted : Bool)

abbrev Glyph := Char × Bool

def glyphs (s : String) (quoted : Bool) : List Glyph := s.toList.map (·, quoted)

/-- Fields being built: the finished ones, newest first, and the open one. `parted` holds after a
separator that is not blank, and only until something follows. -/
structure Fields where
  done : List (List Glyph) := []
  current : Option (List Glyph) := none

def Fields.close (f : Fields) : Fields :=
  match f.current with
  | some s => { done := s :: f.done, current := none }
  | none => f

def Fields.part (f : Fields) : Fields := { done := f.current.getD [] :: f.done, current := none }

def Fields.glue (f : Fields) (s : List Glyph) : Fields :=
  { f with current := some (f.current.getD [] ++ s) }

def isBlankSeparator (c : Char) : Bool := c == ' ' || c == '\t' || c == '\n'

/-- Parts a text at separators. Blank ones around another one belong to it, which `blank` and
`pending` keep track of: whether blanks have closed a field that a separator may still claim. -/
def Fields.split (separators : List Char) (f : Fields) (text : List Char) : Fields :=
  let step := fun (state : Fields × Bool) (c : Char) =>
    let (f, claim) := state
    if separators.contains c then
      if isBlankSeparator c then
        match f.current with
        | some _ => (f.close, true)
        | none => (f, claim)
      else if claim then (f, false)
      else (f.part, false)
    else (f.glue [(c, false)], false)
  (text.foldl step (f, false)).1

def Fields.add (separators : List Char) (f : Fields) : Segment → Fields
  | .solid s quoted => if s.isEmpty && !quoted then f else f.glue (glyphs s quoted)
  | .loose s => f.split separators s.toList
  | .several ss quoted =>
    let put := fun (f : Fields) (s : String) =>
      if quoted then f.glue (glyphs s true) else f.split separators s.toList
    match ss with
    | [] => f
    | first :: rest => rest.foldl (fun f s => put f.close s) (put f first)

def fieldsOf (separators : List Char) (segments : List Segment) : List (List Glyph) :=
  (segments.foldl (Fields.add separators) {}).close.done.reverse

def textOf (field : List Glyph) : String := String.ofList (field.map Prod.fst)

def bracketSet : Nat → List Glyph → List Char → Option (List Char × List Glyph)
  | 0, _, _ => none
  | _, [], _ => none
  | n + 1, (c, quoted) :: rest, found =>
    if c == ']' && !quoted && !found.isEmpty then some (found.reverse, rest)
    else
      match rest with
      | ('-', false) :: (d, q) :: more =>
        if d == ']' && !q then bracketSet n rest (c :: found)
        else
          let range := (List.range (d.toNat + 1 - c.toNat)).map fun k => Char.ofNat (c.toNat + k)
          bracketSet n more (range.reverse ++ found)
      | _ => bracketSet n rest (c :: found)

/-- A text fits a pattern. Quoted characters of the pattern stand for themselves. The first
argument bounds the number of steps. -/
def fits : Nat → List Glyph → List Char → Bool
  | 0, _, _ => false
  | _, [], cs => cs.isEmpty
  | n + 1, ('*', false) :: ps, cs =>
    fits n ps cs || (match cs with
      | _ :: cs => fits n (('*', false) :: ps) cs
      | [] => false)
  | n + 1, ('?', false) :: ps, cs =>
    match cs with
    | _ :: cs => fits n ps cs
    | [] => false
  | n + 1, (p, quoted) :: ps, cs =>
    let (negated, inner) := match ps with
      | ('!', false) :: inner => (true, inner)
      | inner => (false, inner)
    match (if p == '[' && !quoted then bracketSet (inner.length + 1) inner [] else none), cs with
    | some (set, ps), c :: cs => (set.contains c != negated) && fits n ps cs
    | some _, [] => false
    | none, c :: cs => p == c && fits n ps cs
    | none, [] => false

def fitsAll (pattern : List Glyph) (text : List Char) : Bool :=
  fits ((pattern.length + 1) * (text.length + 2)) pattern text

def hasPattern (field : List Glyph) : Bool :=
  field.any fun (c, quoted) => !quoted && (c == '*' || c == '?' || c == '[')

def matching (files : Files) (dir : String) (pattern : List Glyph) : List String :=
  match files.list (if dir.isEmpty then "." else dir) with
  | .error _ => []
  | .ok names =>
    Text.sortNames (names.filter fun name =>
      let cs := name.toList
      (cs.head? != some '.' || (pattern.head?.map Prod.fst) == some '.') && fitsAll pattern cs)

def pathsFor (files : Files) (field : List Glyph) : List String :=
  let pieces := Text.splitAux ('/', false) [] [] (field.map fun (c, q) =>
    if c == '/' then ('/', false) else (c, q))
  let step := fun (found : List String) (piece : List Glyph × Bool) =>
    let (pattern, final) := piece
    let slash := if final then "" else "/"
    found.flatMap fun above =>
      if pattern.isEmpty then [above ++ slash]
      else if hasPattern pattern then
        (matching files above pattern).filterMap fun name =>
          if final || files.isDirectory (above ++ name) then some (above ++ name ++ slash) else none
      else
        let path := above ++ textOf pattern
        if (files.findEntry path).isOk then [path ++ slash] else []
  let last := pieces.length - 1
  (pieces.zipIdx.map fun (piece, k) => (piece, k == last)).foldl step [""]

def namesFor (files : Files) (globbing : Bool) (field : List Glyph) : List String :=
  let found := if globbing && hasPattern field then pathsFor files field else []
  if found.isEmpty then [textOf field] else found

def dropStart (longest : Bool) (pattern : List Glyph) (text : List Char) : List Char :=
  let cuts := List.range (text.length + 1)
  let cuts := if longest then cuts.reverse else cuts
  match cuts.find? (fun k => fitsAll pattern (text.take k)) with
  | some k => text.drop k
  | none => text

def dropEnd (longest : Bool) (pattern : List Glyph) (text : List Char) : List Char :=
  let cuts := List.range (text.length + 1)
  let cuts := if longest then cuts else cuts.reverse
  match cuts.find? (fun k => fitsAll pattern (text.drop k)) with
  | some k => text.take k
  | none => text

end PipeShell.Script
