/-!
# Environment variables

The variables of the process, each with at most one value. Setting a variable that is there keeps
its place.
-/

namespace PipeShell

abbrev Environment := List (String × String)

namespace Environment

def get? (env : Environment) (name : String) : Option String := env.lookup name

/-- What the table of the process holds for a name. It is a list of texts made of a name, an equals
sign and a value, so that a name with an equals sign in it can find the end of a longer value. -/
def find? (env : Environment) (name : String) : Option String :=
  let start := (name ++ "=").toList
  if name.isEmpty then none
  else env.findSome? fun e =>
    let entry := (e.1 ++ "=" ++ e.2).toList
    if start.isPrefixOf entry then some (String.ofList (entry.drop start.length)) else none

def set (env : Environment) (name value : String) : Environment :=
  if (env.lookup name).isSome then env.map fun e => if e.1 = name then (name, value) else e
  else env ++ [(name, value)]

def unset (env : Environment) (name : String) : Environment := env.filter (·.1 ≠ name)

def home (env : Environment) : String :=
  match env.get? "HOME" with
  | some home => if home.isEmpty then "/root" else home
  | none => "/root"

def expandTilde (env : Environment) (text : String) : String :=
  match text.toList with
  | ['~'] => env.home
  | '~' :: '/' :: rest => env.home ++ String.ofList ('/' :: rest)
  | _ => text

def searchPath (env : Environment) : String := (env.get? "PATH").getD ""

end Environment

end PipeShell
