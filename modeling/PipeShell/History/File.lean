import PipeShell.History.Basic
import PipeShell.Files.Change
import PipeShell.Log.Entry

/-!
# Histories in files

A history is read from a file and written to one, one entry a line. `load` and `save` use the file
that the history was given and put what goes wrong into the log.
-/

namespace PipeShell.History

def readFrom (h : History) (files : Files) (path : String) : Except OsError Nat × History :=
  match files.readText path with
  | .error e => (.error e, h)
  | .ok text =>
    let read := h.addAll ((Text.feedLines text.toList).map String.ofList)
    (.ok (read.entries.length - h.entries.length), read)

def writeTo (h : History) (files : Files) (path : String) :
    Except OsError Unit × History × Files :=
  match files.write path (Text.encode h.render) with
  | (.error e, files) => (.error e, h, files)
  | (.ok (), files) => (.ok (), h.markAppended, files)

def appendLines (files : Files) (i : Inode) : List String → Except OsError Unit × Files
  | [] => (.ok (), files)
  | line :: rest =>
    match files.writeAt i none (Text.encode (line ++ "\n")) with
    | (.error e, files) => (.error e, files)
    | (.ok _, files) => appendLines files i rest

def appendTo (h : History) (files : Files) (path : String) :
    Except OsError Nat × History × Files :=
  match files.openForWriting path true with
  | .error e => (.error e, h, files)
  | .ok (i, files) =>
    match appendLines files i h.fresh with
    | (.error e, files) => (.error e, h, files)
    | (.ok (), files) => (.ok h.fresh.length, h.markAppended, files)

/-- Reads the file of the history, whose entries are then known to be in it. -/
def load (h : History) (files : Files) : History × List Log.Entry :=
  match h.file with
  | none => (h, [])
  | some file =>
    match h.readFrom files file with
    | (.ok count, h) => (h.markAppended, [Log.debug s!"历史记录加载成功: {count} 条"])
    | (.error .noEntry, h) => (h, [Log.debug s!"历史记录文件不存在: {file}"])
    | (.error e, h) => (h, [Log.warn s!"无法加载历史记录: {file} {e.message}"])

def prepareDirectory (files : Files) (file : String) : Files × List Log.Entry :=
  match Path.parent? file with
  | none => (files, [])
  | some above =>
    match files.ensureDirectory above with
    | (.ok (), files) => (files, [])
    | (.error e, files) => (files, [Log.warn s!"无法创建历史记录目录: {above} {e.message}"])

def save (h : History) (files : Files) : History × Files × List Log.Entry :=
  match h.file with
  | none => (h, files, [])
  | some file =>
    let (files, prepared) := prepareDirectory files file
    match h.writeTo files file with
    | (.ok (), h, files) => (h, files, prepared ++ [Log.debug "历史记录保存成功"])
    | (.error e, h, files) =>
      (h, files, prepared ++ [Log.warn s!"保存历史记录失败: {file} {e.message}"])

end PipeShell.History
