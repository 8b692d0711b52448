import PipeShell.Environment
import PipeShell.Files.Basic
import PipeShell.Text.Order

/-!
# Completing file names

The path to complete is what stands behind an open quote, or else behind the last character that
breaks words and is not escaped. Every entry of its directory that goes on from its last component
is offered, escaped the way the place needs it.
-/

namespace PipeShell.Completion

structure Candidate where
  display : String
  replacement : String
  deriving DecidableEq, Repr

inductive Quote
  | none
  | single
  | double
  deriving DecidableEq, Repr

def isBreak (c : Char) : Bool :=
  [' ', '\t', '\n', '"', '\\', '\x27', Char.ofNat 0x60, '@', '$', '>', '<', '=', ';', '|', '&',
    '\x7b', '(', Char.ofNat 0].contains c

def isDoubleSpecial (c : Char) : Bool := ['"', '$', '\\', Char.ofNat 0x60].contains c

/-- Looks for a quote that is not closed. The answer is the text behind it. The first
argument is the quote that is open here and the text behind it. -/
def unclosedFrom : Option (Quote × List Char) → List Char → Option (Quote × List Char)
  | found, [] => found
  | some (.double, behind), c :: cs =>
    if c == '"' then unclosedFrom none cs
    else if c == '\\' then
      match cs with
      | [] => some (.double, behind)
      | _ :: cs => unclosedFrom (some (.double, behind)) cs
    else unclosedFrom (some (.double, behind)) cs
  | some (quote, behind), c :: cs =>
    if c == '\x27' then unclosedFrom none cs else unclosedFrom (some (quote, behind)) cs
  | none, c :: cs =>
    if c == '"' then unclosedFrom (some (.double, cs)) cs
    else if c == '\x27' then unclosedFrom (some (.single, cs)) cs
    else if c == '\\' then
      match cs with
      | [] => none
      | _ :: cs => unclosedFrom none cs
    else unclosedFrom none cs

/-- Goes back from the end of a text, given in reverse, to the last break character that is not
escaped. `word` is what was passed, and `broken` the text behind a break character that may still
turn out to be escaped. -/
def wordBack (word : List Char) : Option (List Char) → List Char → List Char
  | broken, [] => broken.getD word
  | some behind, c :: cs => if c == '\\' then wordBack (c :: word) none cs else behind
  | none, c :: cs => wordBack (c :: word) (if isBreak c then some word else none) cs

def lastWord (before : List Char) : List Char := wordBack [] none before.reverse

def unescape : List Char → List Char
  | '\\' :: c :: cs => c :: unescape cs
  | ['\\'] => []
  | c :: cs => c :: unescape cs
  | [] => []

def escape (quote : Quote) (path : List Char) : List Char :=
  match quote with
  | .single => path
  | .double => path.flatMap fun c => if isDoubleSpecial c then ['\\', c] else [c]
  | .none => path.flatMap fun c => if isBreak c then ['\\', c] else [c]

structure Partial where
  quote : Quote
  typed : List Char
  path : List Char
  deriving DecidableEq, Repr

def Partial.ofBefore (before : List Char) : Partial :=
  match unclosedFrom none before with
  | some (.double, typed) => ⟨.double, typed, unescape typed⟩
  | some (quote, typed) => ⟨quote, typed, typed⟩
  | none =>
    let typed := lastWord before
    ⟨.none, typed, unescape typed⟩

def splitDirectory (path : List Char) : List Char × List Char :=
  ((path.reverse.dropWhile (· ≠ '/')).reverse, (path.reverse.takeWhile (· ≠ '/')).reverse)

def lookIn (files : Files) (env : Environment) (dir : String) : String :=
  match Path.pieces dir with
  | "~" :: rest =>
    if Path.isAbsolute dir then dir else Path.join env.home ("/".intercalate rest)
  | _ =>
    if Path.isAbsolute dir then dir
    else
      match files.workingPath with
      | .ok cwd => Path.join cwd dir
      | .error _ => dir

def entryCandidate? (files : Files) (quote : Quote) (dir typedDir name : String) :
    Option Candidate :=
  match files.stat (Path.join dir name) with
  | .error _ => none
  | .ok node =>
    let slash := match node with
      | .dir .. => "/"
      | _ => ""
    some ⟨name, String.ofList (escape quote (typedDir ++ name ++ slash).toList)⟩

def fileNames (files : Files) (env : Environment) (before : List Char) : Nat × List Candidate :=
  let wanted := Partial.ofBefore before
  let (dirChars, name) := splitDirectory wanted.path
  let typedDir := String.ofList dirChars
  let dir := lookIn files env typedDir
  let names := match files.list dir with
    | .ok names => names.filter (Text.startsWith (String.ofList name))
    | .error _ => []
  (Text.size before - Text.size wanted.typed,
    (Text.sortNames names).filterMap (entryCandidate? files wanted.quote dir typedDir))

end PipeShell.Completion
