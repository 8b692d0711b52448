import PipeShell.Files.Basic
import PipeShell.Text.Order

/-!
# Finding programs

A program name without a slash is looked for in the directories of the search path, in their order.
The first regular file of that name that may be executed is the program.
-/

namespace PipeShell.Search

def directories (searchPath : String) : List String := Text.parts ':' searchPath

def candidate? (files : Files) (name dir : String) : Option String :=
  let path := Path.join dir name
  if files.isExecutable path then some path else none

/-- The first program of that name on the search path. Empty directories do not count. -/
def find? (files : Files) (searchPath name : String) : Option String :=
  ((directories searchPath).filter (· ≠ "")).findSome? (candidate? files name)

def direct? (files : Files) (name : String) : Option String :=
  if files.isExecutable name then some name else none

def hasSlash (name : String) : Bool := name.toList.contains '/'

def executablesIn (files : Files) (start dir : String) : List String :=
  match files.list dir with
  | .ok names => names.filter fun name =>
      Text.startsWith start name && files.isExecutable (Path.join dir name)
  | .error _ => []

def executables (files : Files) (searchPath start : String) : List String :=
  Text.distinctSorted ((directories searchPath).flatMap (executablesIn files start))

end PipeShell.Search
