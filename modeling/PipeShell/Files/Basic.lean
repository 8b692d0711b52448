import PipeShell.OsError
import PipeShell.Text.Bytes
import PipeShell.Files.Path

/-!
# The file tree

Files, directories, symbolic links and devices are nodes of one table, and a directory maps names
to numbers of nodes. A directory also knows its parent, so that it stays usable as a working
directory after it was removed. Walking along a path follows at most forty links.

Everything belongs to the user who runs the shell, so the owner's permissions decide what can be
read, written, executed or, with a directory, walked through.
-/

namespace PipeShell

abbrev Inode := Nat

inductive Node
  | dir (parent : Inode) (entries : List (String × Inode)) (removed : Bool) (mode : Nat)
  | file (content : Bytes) (mode : Nat)
  | link (target : String)
  /-- A device keeps nothing. It takes every byte, or only as many as it has room for. -/
  | device (room : Option Nat)
  deriving Repr, DecidableEq

inductive Access
  | read
  | write
  | execute
  deriving Repr, DecidableEq

def Access.bit : Access → Nat
  | .read => 0o400
  | .write => 0o200
  | .execute => 0o100

def Node.mode : Node → Nat
  | .dir _ _ _ mode => mode
  | .file _ mode => mode
  | .link _ => 0o777
  | .device _ => 0o666

def Node.allows (n : Node) (a : Access) : Bool := n.mode &&& a.bit != 0

structure Files where
  nodes : Array Node
  cwd : Inode
  deriving Repr, DecidableEq

/-- Where a walk ends: at a node, or at a name that a directory does not have. -/
inductive Place
  | found (node : Inode)
  | vacant (dir : Inode) (name : String)
  deriving Repr, DecidableEq

inductive Walk
  | ended (place : Place)
  | failed (e : OsError)
  | link (dir : Inode) (target : String) (rest : List String)
  deriving Repr, DecidableEq

def Place.node : Place → Except OsError Inode
  | .found i => .ok i
  | .vacant .. => .error .noEntry

namespace Files

def root : Inode := 0

def empty : Files := ⟨#[.dir root [] false 0o755], root⟩

def node? (f : Files) (i : Inode) : Option Node := f.nodes[i]?

def put (f : Files) (i : Inode) (n : Node) : Files := { f with nodes := f.nodes.setIfInBounds i n }

def addNode (f : Files) (n : Node) : Inode × Files :=
  (f.nodes.size, { f with nodes := f.nodes.push n })

def nameLimit : Nat := 255

def pathLimit : Nat := 4095

def linkLimit : Nat := 40

/-- Walks along components. A link at the end is followed only if `follow` holds. The empty name
stays in a directory without looking into it. -/
def walk (f : Files) (follow : Bool) : Inode → List String → Walk
  | here, [] => .ended (.found here)
  | here, name :: rest =>
    match f.node? here with
    | some (.dir parent entries removed mode) =>
      if name = "" then walk f follow here rest
      else if !(Node.dir parent entries removed mode).allows .execute then .failed .denied
      else if name = "." then walk f follow here rest
      else if name = ".." then walk f follow parent rest
      else if nameLimit < name.utf8ByteSize then .failed .nameTooLong
      else
        match entries.lookup name with
        | none => if rest.isEmpty then .ended (.vacant here name) else .failed .noEntry
        | some i =>
          match f.node? i with
          | some (.link target) =>
            if follow || !rest.isEmpty then .link here target rest else .ended (.found i)
          | _ => walk f follow i rest
    | _ => .failed .notDirectory

def origin (dir : Inode) (path : String) : Inode := if Path.isAbsolute path then root else dir

def resolveFrom (f : Files) (follow : Bool) : Nat → Inode → List String → Except OsError Place
  | links, here, names =>
    match f.walk follow here names with
    | .ended place => .ok place
    | .failed e => .error e
    | .link dir target rest =>
      match links with
      | 0 => .error .tooManyLinks
      | links + 1 =>
        resolveFrom f follow links (origin dir target) (Path.components target ++ rest)

def resolve (f : Files) (follow : Bool) (path : String) : Except OsError Place :=
  if path.isEmpty then .error .noEntry
  else if pathLimit < path.utf8ByteSize then .error .nameTooLong
  else f.resolveFrom follow linkLimit (origin f.cwd path) (Path.components path)

def find (f : Files) (path : String) : Except OsError Inode :=
  match f.resolve true path with
  | .error e => .error e
  | .ok place => place.node

def findEntry (f : Files) (path : String) : Except OsError Inode :=
  match f.resolve false path with
  | .error e => .error e
  | .ok place => place.node

def stat (f : Files) (path : String) : Except OsError Node :=
  if Path.hasNul path then .error .nulInPath
  else
    match f.find path with
    | .error e => .error e
    | .ok i => ((f.node? i).map Except.ok).getD (.error .noEntry)

def isDirectory (f : Files) (path : String) : Bool :=
  match f.stat path with
  | .ok (.dir ..) => true
  | _ => false

def isExecutable (f : Files) (path : String) : Bool :=
  match f.stat path with
  | .ok (.file _ mode) => mode &&& 0o111 != 0
  | _ => false

def openForReading (f : Files) (path : String) : Except OsError Node :=
  match f.stat path with
  | .error e => .error e
  | .ok n => if n.allows .read then .ok n else .error .denied

def list (f : Files) (path : String) : Except OsError (List String) :=
  match f.openForReading path with
  | .error e => .error e
  | .ok (.dir _ entries ..) => .ok (entries.map Prod.fst)
  | .ok _ => .error .notDirectory

def read (f : Files) (path : String) : Except OsError Bytes :=
  match f.openForReading path with
  | .error e => .error e
  | .ok (.dir ..) => .error .isDirectory
  | .ok (.file content _) => .ok content
  | .ok (.link _) => .error .noEntry
  | .ok (.device _) => .ok []

def readText (f : Files) (path : String) : Except OsError String :=
  match f.read path with
  | .error e => .error e
  | .ok content => ((Text.decode? content).map Except.ok).getD (.error .invalidText)

/-- The names that lead from the root to a directory. A removed directory has none. The first
argument bounds the number of steps. -/
def namesTo (f : Files) : Nat → Inode → List String → Option (List String)
  | 0, _, _ => none
  | steps + 1, i, below =>
    if i = root then some below
    else
      match f.node? i with
      | some (.dir parent _ false _) =>
        match f.node? parent with
        | some (.dir _ entries ..) =>
          match entries.find? (·.2 == i) with
          | some (name, _) => namesTo f steps parent (name :: below)
          | none => none
        | _ => none
      | _ => none

def workingPath (f : Files) : Except OsError String :=
  match f.namesTo (f.nodes.size + 1) f.cwd [] with
  | some names => .ok ("/" ++ "/".intercalate names)
  | none => .error .noEntry

def changeDirectory (f : Files) (path : String) : Except OsError Files :=
  if Path.hasNul path then .error .nulInPath
  else
    match f.find path with
    | .error e => .error e
    | .ok i =>
      match f.node? i with
      | some (.dir parent entries removed mode) =>
        if (Node.dir parent entries removed mode).allows .execute then .ok { f with cwd := i }
        else .error .denied
      | _ => .error .notDirectory

end Files

end PipeShell
