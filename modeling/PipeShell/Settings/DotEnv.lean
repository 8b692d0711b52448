import PipeShell.Environment
import PipeShell.Fault
import PipeShell.Files.Basic
import PipeShell.Text.Alphanumeric
import PipeShell.Text.Blank

/-!
# Variables from a file

A file of variables has one assignment a line. Variables that are already set are kept, and the
first line that cannot be read ends the loading. A value may be quoted, and variables in it are
replaced by what they are worth. No variable can be set to a value with a NUL character.
-/

namespace PipeShell.DotEnv

abbrev Given := List (String × Option String)

def worth (env : Environment) (given : Given) (name : List Char) : List Char :=
  let name := String.ofList name
  match env.find? name with
  | some value => value.toList
  | none => (((given.lookup name).getD none).getD "").toList

inductive Mode
  | plain
  | strong
  | weak
  deriving DecidableEq

inductive Naming
  | none
  | bare
  | braced
  deriving DecidableEq

/-- The state of the reader of values. `output` and `name` are kept newest first. -/
structure ValueReader where
  mode : Mode := .plain
  escaped : Bool := false
  ending : Bool := false
  naming : Naming := .none
  name : List Char := []
  output : List Char := []

namespace ValueReader

def push (r : ValueReader) (c : Char) : ValueReader := { r with output := c :: r.output }

def substitute (env : Environment) (given : Given) (r : ValueReader) : ValueReader :=
  { r with name := [], output := (worth env given r.name.reverse).reverse ++ r.output }

inductive Step
  | next (r : ValueReader)
  | stop (r : ValueReader)
  | malformed

def stepEscaped (r : ValueReader) (c : Char) : Step :=
  if c == '\\' || c == '\x27' || c == '"' || c == '$' || c == ' ' then
    .next { r.push c with escaped := false }
  else if c == 'n' then .next { r.push '\n' with escaped := false }
  else .malformed

def stepVariable (env : Environment) (given : Given) (r : ValueReader) (c : Char) : ValueReader :=
  if Text.isAlphanumeric c then { r with name := c :: r.name }
  else if r.naming = .braced then
    if c == '\x7d' then { r.substitute env given with naming := .none }
    else { r with name := c :: r.name }
  else if c == '\x7b' && r.name.isEmpty then { r with naming := .braced }
  else
    let r := r.substitute env given
    if c == '$' then { r with naming := .bare } else { r.push c with naming := .none }

def stepPlain (r : ValueReader) (c : Char) : ValueReader :=
  if c == '\x27' then { r with mode := .strong }
  else if c == '"' then { r with mode := .weak }
  else if c == '\\' then { r with escaped := true }
  else if c == ' ' || c == '\t' then { r with ending := true }
  else r.push c

def step (env : Environment) (given : Given) (r : ValueReader) (c : Char) : Step :=
  if r.ending then
    if c == ' ' || c == '\t' then .next r else if c == '#' then .stop r else .malformed
  else if r.escaped then r.stepEscaped c
  else if r.mode = .strong then .next (if c == '\x27' then { r with mode := .plain } else r.push c)
  else if r.naming ≠ .none then .next (r.stepVariable env given c)
  else if c == '$' then .next { r with naming := .bare }
  else if r.mode = .weak then
    .next (if c == '"' then { r with mode := .plain }
      else if c == '\\' then { r with escaped := true } else r.push c)
  else .next (r.stepPlain c)

def finish (env : Environment) (given : Given) (r : ValueReader) : Option String :=
  if r.naming = .braced || r.mode ≠ .plain then none
  else some (String.ofList (r.substitute env given).output.reverse)

def run (env : Environment) (given : Given) : ValueReader → List Char → Option String
  | r, [] => r.finish env given
  | r, c :: cs =>
    match r.step env given c with
    | .next r => run env given r cs
    | .stop r => r.finish env given
    | .malformed => none

end ValueReader

def isKeyStart (c : Char) : Bool := c.isAlpha || c == '_'

def isKeyChar (c : Char) : Bool := c.isAlphanum || c == '_' || c == '.'

def key? (cs : List Char) : Option (String × List Char) :=
  match cs with
  | c :: _ =>
    if isKeyStart c then
      some (String.ofList (cs.takeWhile isKeyChar), Text.trimLeft (cs.dropWhile isKeyChar))
    else none
  | [] => none

def keyAndRest? (cs : List Char) : Option (String × List Char) :=
  match key? cs with
  | none => none
  | some (key, '=' :: rest) => some (key, Text.trimLeft rest)
  | some ("export", rest) =>
    match key? rest with
    | some (key, '=' :: rest) => some (key, Text.trimLeft rest)
    | _ => none
  | some _ => none

inductive Line
  | skipped
  | assigned (key : String) (value : Option String)
  | malformed

def readLine (env : Environment) (given : Given) (line : List Char) : Line :=
  match Text.trimLeft (Text.trimRight line) with
  | [] => .skipped
  | '#' :: _ => .skipped
  | cs =>
    match keyAndRest? cs with
    | none => .malformed
    | some (key, []) => .assigned key none
    | some (key, '#' :: _) => .assigned key none
    | some (key, rest) =>
      match ValueReader.run env given {} rest with
      | none => .malformed
      | some value => .assigned key (some value)

def assign (env : Environment) (key value : String) : Except Fault Environment :=
  if (env.get? key).isSome then .ok env
  else if value.contains (Char.ofNat 0) then .error (.badVariable key value)
  else .ok (env.set key value)

/-- Loads lines of bytes. A line that is no text ends the loading like one that cannot be read. -/
def loadLines (env : Environment) (given : Given) : List Bytes → Except Fault Environment
  | [] => .ok env
  | line :: rest =>
    match Text.decode? line with
    | none => .ok env
    | some text =>
      match readLine env given (Text.dropReturn text.toList) with
      | .malformed => .ok env
      | .skipped => loadLines env given rest
      | .assigned key value =>
        match assign env key (value.getD "") with
        | .error fault => .error fault
        | .ok env => loadLines env ((key, value) :: given) rest

/-- The first regular file of the name in a directory or above it. A file that cannot be looked at
for another reason than that it is not there ends the search. The first argument bounds the
climb. -/
def locate? (files : Files) (name : String) : Nat → String → Option String
  | 0, _ => none
  | steps + 1, dir =>
    let path := Path.join dir name
    let above := (Path.parent? dir).bind (locate? files name steps)
    match files.stat path with
    | .ok (.file ..) => some path
    | .ok _ => above
    | .error .noEntry => above
    | .error _ => none

def load (files : Files) (name : String) (env : Environment) : Except Fault Environment :=
  match files.workingPath with
  | .error _ => .ok env
  | .ok dir =>
    match locate? files name (dir.length + 2) dir with
    | none => .ok env
    | some path =>
      match files.read path with
      | .error _ => .ok env
      | .ok content => loadLines env [] (Text.rawLines 0x0A content)

end PipeShell.DotEnv
