import PipeShell.Host.Basic
import PipeShell.Program.Image

/-!
# A host to start from

The file tree of a host on which nothing has happened yet: the programs, the two devices that keep
nothing, and a directory for temporary files.
-/

namespace PipeShell.Host

def programs : List String :=
  ["cat", "chmod", "dash", "echo", "false", "head", "printf", "pwd", "rm", "rmdir", "seq", "sleep",
    "sort", "tail", "test", "tr", "true", "uniq", "wc", "yes"]

def changed (f : Files) (change : Files → Except OsError Files) : Files :=
  match change f with
  | .ok f => f
  | .error _ => f

def placeFile (f : Files) (path : String) (content : Bytes) (mode : Nat) : Files :=
  let above := (Path.parent? path).getD ""
  let f := (f.ensureDirectory above).2
  let f := (f.write path content).2
  changed f (·.setMode path fun _ => mode)

def placeLink (f : Files) (path target : String) : Files :=
  let f := (f.ensureDirectory ((Path.parent? path).getD "")).2
  changed f (·.makeLink path target)

def placeDirectory (f : Files) (path : String) : Files := (f.ensureDirectory path).2

def placeDevice (f : Files) (path : String) (room : Option Nat) : Files :=
  match f.resolve false path with
  | .ok (.vacant dir name) => changed f fun f => (f.make dir name (.device room)).map Prod.snd
  | _ => f

def standardFiles : Files :=
  let f := Files.empty
  let f := placeDirectory f "/dev"
  let f := placeDevice f "/dev/null" none
  let f := placeDevice f "/dev/full" (some 0)
  let f := placeDirectory f "/tmp"
  let f := placeDirectory f "/root"
  let f := programs.foldl
    (fun f name => placeFile f ("/usr/bin/" ++ name) (Image.content name) 0o755) f
  let f := placeLink f "/usr/bin/sh" "dash"
  placeLink f "/bin" "usr/bin"

def standard : Host := { files := standardFiles }

end PipeShell.Host
