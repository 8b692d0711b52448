import PipeShell.Files.Basic

/-!
# Changes of the file tree

Making, opening, writing and removing. Every change returns the new tree beside its outcome, so
that what was done before a failure stays done.
-/

namespace PipeShell.Files

def defaultMode : Nat := 0o644

def directoryMode : Nat := 0o755

def enterName (f : Files) (dir : Inode) (name : String) (i : Inode) : Files :=
  match f.node? dir with
  | some (.dir parent entries removed mode) =>
    f.put dir (.dir parent (entries ++ [(name, i)]) removed mode)
  | _ => f

def dropName (f : Files) (dir : Inode) (name : String) : Files :=
  match f.node? dir with
  | some (.dir parent entries removed mode) =>
    f.put dir (.dir parent (entries.filter (·.1 ≠ name)) removed mode)
  | _ => f

def mayChange (f : Files) (dir : Inode) : Bool :=
  match f.node? dir with
  | some n => n.allows .write && n.allows .execute
  | none => false

def make (f : Files) (dir : Inode) (name : String) (n : Node) : Except OsError (Inode × Files) :=
  match f.node? dir with
  | some (.dir _ _ false _) =>
    if f.mayChange dir then
      let (i, f) := f.addNode n
      .ok (i, f.enterName dir name i)
    else .error .denied
  | _ => .error .noEntry

def parentFrom (f : Files) (links : Nat) (here : Inode) (names : List String) :
    Except OsError Inode :=
  match f.resolveFrom true links here (names.dropLast ++ ["."]) with
  | .error e => .error e
  | .ok place => place.node

def parentOf (f : Files) (path : String) : Except OsError Inode :=
  f.parentFrom linkLimit (origin f.cwd path) (Path.pieces path)

/-- Walks to the place of a file that is to be written. It cannot be a directory, so a slash at the
end is refused: at the end of the path as well as at the end of a link that the path ends in. -/
def resolveTarget (f : Files) : Nat → Inode → List String → Bool → Except OsError Place
  | links, here, names, slash =>
    if slash then
      match f.parentFrom links here names with
      | .error e => .error e
      | .ok _ => .error .isDirectory
    else
      match f.walk true here names with
      | .ended place => .ok place
      | .failed e => .error e
      | .link dir target rest =>
        match links with
        | 0 => .error .tooManyLinks
        | links + 1 =>
          if rest.isEmpty then
            resolveTarget f links (origin dir target) (Path.pieces target) (Path.endsInSlash target)
          else
            resolveTarget f links (origin dir target) (Path.components target ++ rest) false

/-- Opens a file for writing and makes it if it is not there. Unless `append` holds it is
emptied. -/
def openForWriting (f : Files) (path : String) (append : Bool) : Except OsError (Inode × Files) :=
  if Path.hasNul path then .error .nulInPath
  else if path.isEmpty then .error .noEntry
  else if pathLimit < path.utf8ByteSize then .error .nameTooLong
  else
    match f.resolveTarget linkLimit (origin f.cwd path) (Path.pieces path)
        (Path.endsInSlash path) with
    | .error e => .error e
    | .ok (.vacant dir name) => f.make dir name (.file [] defaultMode)
    | .ok (.found i) =>
      match f.node? i with
      | some (.file content mode) =>
        if !(Node.file content mode).allows .write then .error .denied
        else .ok (i, if append then f.put i (.file content mode) else f.put i (.file [] mode))
      | some (.device _) => .ok (i, f)
      | some (.dir ..) => .error .isDirectory
      | _ => .error .noEntry

def splice (content : Bytes) (offset : Nat) (data : Bytes) : Bytes :=
  if offset = content.length then content ++ data
  else
    content.take offset ++ List.replicate (offset - content.length) 0 ++ data ++
      content.drop (offset + data.length)

/-- Writes at an offset, or at the end if none is given. The answer is the offset after the bytes
written. -/
def writeAt (f : Files) (i : Inode) (offset : Option Nat) (data : Bytes) :
    Except OsError Nat × Files :=
  match f.node? i with
  | some (.file content mode) =>
    let start := offset.getD content.length
    (.ok (start + data.length), f.put i (.file (splice content start data) mode))
  | some (.device none) => (.ok 0, f)
  | some (.device (some room)) =>
    if data.length ≤ room then (.ok 0, f.put i (.device (some (room - data.length))))
    else (.error .noSpace, f.put i (.device (some 0)))
  | _ => (.error .isDirectory, f)

def write (f : Files) (path : String) (data : Bytes) : Except OsError Unit × Files :=
  match f.openForWriting path false with
  | .error e => (.error e, f)
  | .ok (i, f) =>
    match f.writeAt i (some 0) data with
    | (.ok _, f) => (.ok (), f)
    | (.error e, f) => (.error e, f)

/-- Makes a directory. Slashes at the end of the path do not count, but dots do: they name a
directory that is there already. -/
def makeDirectory (f : Files) (path : String) : Except OsError Files :=
  if Path.hasNul path then .error .nulInPath
  else if path.isEmpty then .error .noEntry
  else if pathLimit < path.utf8ByteSize then .error .nameTooLong
  else
    match f.resolveFrom false linkLimit (origin f.cwd path) (Path.pieces path) with
    | .error e => .error e
    | .ok (.found _) => .error .fileExists
    | .ok (.vacant dir name) =>
      match f.make dir name (.dir dir [] false directoryMode) with
      | .error e => .error e
      | .ok (_, f) => .ok f

def makeDirectories (f : Files) : Nat → String → Except OsError Unit × Files
  | 0, _ => (.error .wholeTree, f)
  | steps + 1, path =>
    if path.isEmpty then (.ok (), f)
    else
      match f.makeDirectory path with
      | .ok f => (.ok (), f)
      | .error .noEntry =>
        match Path.parent? path with
        | none => (.error .wholeTree, f)
        | some above =>
          match makeDirectories f steps above with
          | (.error e, f) => (.error e, f)
          | (.ok (), f) =>
            match f.makeDirectory path with
            | .ok f => (.ok (), f)
            | .error e => if f.isDirectory path then (.ok (), f) else (.error e, f)
      | .error e => if f.isDirectory path then (.ok (), f) else (.error e, f)

def ensureDirectory (f : Files) (path : String) : Except OsError Unit × Files :=
  f.makeDirectories (path.length + 2) path

def unlink (f : Files) (path : String) : Except OsError Files :=
  if Path.hasNul path then .error .nulInPath
  else
    match f.findEntry path with
    | .error e => .error e
    | .ok i =>
      match f.node? i with
      | some (.dir ..) => .error .isDirectory
      | _ =>
        match f.parentOf path with
        | .error e => .error e
        | .ok dir =>
          if f.mayChange dir then .ok (f.dropName dir (Path.baseName path)) else .error .denied

def markRemoved (f : Files) (i : Inode) : Files :=
  match f.node? i with
  | some (.dir parent _ _ mode) => f.put i (.dir parent [] true mode)
  | _ => f

def removeDirectory (f : Files) (path : String) : Except OsError Files :=
  match f.findEntry path with
  | .error e => .error e
  | .ok i =>
    if (Path.pieces path).getLast? = some "." then .error .invalidArgument
    else
      match f.node? i with
      | some (.dir parent entries ..) =>
        if !f.mayChange parent then .error .denied
        else if !entries.isEmpty then .error .notEmpty
        else if i = root then .error .denied
        else
          match f.node? parent with
          | some (.dir _ siblings ..) =>
            let names := (siblings.filter (·.2 == i)).map Prod.fst
            .ok ((names.foldl (fun f name => f.dropName parent name) f).markRemoved i)
          | _ => .error .noEntry
      | _ => .error .notDirectory

def directoriesBelow (f : Files) : Nat → Inode → List Inode
  | 0, _ => []
  | depth + 1, i =>
    match f.node? i with
    | some (.dir _ entries ..) => i :: entries.flatMap fun e => directoriesBelow f depth e.2
    | _ => []

def removeTree (f : Files) (path : String) : Except OsError Files :=
  match f.findEntry path with
  | .error e => .error e
  | .ok i =>
    match f.parentOf path with
    | .error e => .error e
    | .ok dir =>
      if !f.mayChange dir then .error .denied
      else
        let removed := f.directoriesBelow (f.nodes.size + 1) i
        .ok ((removed.foldl markRemoved f).dropName dir (Path.baseName path))

def setMode (f : Files) (path : String) (change : Nat → Nat) : Except OsError Files :=
  match f.find path with
  | .error e => .error e
  | .ok i =>
    match f.node? i with
    | some (.file content mode) => .ok (f.put i (.file content (change mode)))
    | some (.dir parent entries removed mode) =>
      .ok (f.put i (.dir parent entries removed (change mode)))
    | _ => .ok f

def makeLink (f : Files) (path target : String) : Except OsError Files :=
  match f.resolve false path with
  | .error e => .error e
  | .ok (.found _) => .error .fileExists
  | .ok (.vacant dir name) =>
    match f.make dir name (.link target) with
    | .error e => .error e
    | .ok (_, f) => .ok f

def namesBelow (f : Files) : Nat → String → Inode → List (String × Node)
  | 0, _, _ => []
  | depth + 1, above, i =>
    match f.node? i with
    | some (.dir parent entries removed mode) =>
      let here := Node.dir parent entries removed mode
      if here.allows .read && here.allows .execute then
        entries.flatMap fun (name, j) =>
          match f.node? j with
          | some n => (above ++ name, n) :: namesBelow f depth (above ++ name ++ "/") j
          | none => []
      else []
    | _ => []

def tree (f : Files) (path : String) : List (String × Node) :=
  match f.find path with
  | .ok i => f.namesBelow (f.nodes.size + 1) "" i
  | .error _ => []

end PipeShell.Files
