import PipeShell.Failure
import PipeShell.Host.Basic

/-!
# Opening the targets of redirections

The target of the standard output is opened first. If the errors go to a path with the same text,
both share one open file, so that neither overwrites the other.
-/

namespace PipeShell.Host

def openTarget (h : Host) (target : Target) : Except Failure Sink × Host :=
  match h.openFile target with
  | (.error e, h) => (.error (.redirect target.path e), h)
  | (.ok sink, h) => (.ok sink, h)

def openOptional (h : Host) : Option Target → Except Failure (Option Sink) × Host
  | none => (.ok none, h)
  | some target =>
    match h.openTarget target with
    | (.error f, h) => (.error f, h)
    | (.ok sink, h) => (.ok (some sink), h)

def samePath (r : Redirects) : Bool :=
  match r.stdout, r.stderr with
  | some out, some err => out.path == err.path
  | _, _ => false

def showTarget (name : String) (t : Option Target) : String :=
  name ++ ": " ++ Text.escaped? (t.map Target.path) ++ ", append_" ++ name ++ ": " ++
    (if (t.map Target.append).getD false then "true" else "false")

def redirectEntry (r : Redirects) : Log.Entry :=
  Log.debug ("打开重定向: Redirects \x7b " ++ showTarget "stdout" r.stdout ++ ", " ++
    showTarget "stderr" r.stderr ++ " \x7d")

def openTargets (h : Host) (r : Redirects) : Except Failure Replacement × Host :=
  match h.openOptional r.stdout with
  | (.error f, h) => (.error f, h)
  | (.ok out, h) =>
    match (if samePath r then (.ok out, h) else h.openOptional r.stderr) with
    | (.error f, h) => (.error f, h)
    | (.ok err, h) =>
      (.ok { out := out, err := err }, if r.hasAny then h.note (redirectEntry r) else h)

end PipeShell.Host
