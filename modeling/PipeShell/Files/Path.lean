/-!
# Path texts

A path is a text whose components are parted by slashes. The functions here work on the text alone
and look at no file.
-/

def PipeShell.Text.parts (c : Char) (text : String) : List String :=
  (text.toList.splitOn c).map String.ofList

namespace PipeShell.Path

def isAbsolute (path : String) : Bool := path.toList.head? == some '/'

def endsInSlash (path : String) : Bool := path.toList.getLast? == some '/'

def pieces (path : String) : List String := (Text.parts '/' path).filter (· ≠ "")

/-- The components to walk through. A slash at the end asks for a directory, which an empty name
expresses. -/
def components (path : String) : List String :=
  pieces path ++ (if endsInSlash path then [""] else [])

def join (left right : String) : String :=
  if isAbsolute right || left.isEmpty then right
  else if endsInSlash left then left ++ right
  else left ++ "/" ++ right

/-- Drops slashes and single dots that end a path, but not the slash or dot that begins it. Takes
and gives the characters in reverse. -/
def trimEnd : List Char → List Char
  | ['/'] => ['/']
  | '/' :: rest => trimEnd rest
  | '.' :: '/' :: rest => trimEnd ('/' :: rest)
  | cs => cs

def parent? (path : String) : Option String :=
  match trimEnd path.toList.reverse with
  | [] => none
  | ['/'] => none
  | cs => some (String.ofList (trimEnd (cs.dropWhile (· ≠ '/'))).reverse)

def baseName (path : String) : String := (pieces path).getLast?.getD path

def hasNul (path : String) : Bool := path.toList.contains (Char.ofNat 0)

end PipeShell.Path
