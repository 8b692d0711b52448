import PipeShell.Search.Basic

/-!
# Remembered searches

The cache remembers what was found on one search path, and also what was not found. Another search
path makes it forget everything. Empty names and names with a slash pass it by.
-/

namespace PipeShell.Search

structure Cache where
  searchPath : String := ""
  entries : List (String × Option String) := []
  deriving Repr, DecidableEq

inductive Event
  | forgot
  | searched (name : String) (found : Option String)
  deriving Repr, DecidableEq

namespace Cache

def forPath (c : Cache) (searchPath : String) : Cache :=
  if searchPath = c.searchPath then c else ⟨searchPath, []⟩

theorem searchPath_forPath (c : Cache) (path : String) : (c.forPath path).searchPath = path := by
  unfold forPath
  split
  case isTrue h => exact h.symm
  case isFalse => rfl

def lookup (c : Cache) (files : Files) (searchPath name : String) : Option String × Cache :=
  if name.isEmpty then (none, c)
  else if hasSlash name then (direct? files name, c)
  else
    let c := c.forPath searchPath
    match c.entries.lookup name with
    | some found => (found, c)
    | none =>
      let found := find? files searchPath name
      (found, { c with entries := (name, found) :: c.entries })

def events (c : Cache) (files : Files) (searchPath name : String) : List Event :=
  if name.isEmpty || hasSlash name then []
  else
    (if searchPath = c.searchPath then [] else [.forgot]) ++
      (match (c.forPath searchPath).entries.lookup name with
        | some _ => []
        | none => [.searched name (find? files searchPath name)])

end Cache

end PipeShell.Search
