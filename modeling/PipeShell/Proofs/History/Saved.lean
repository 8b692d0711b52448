import PipeShell.History.File
import PipeShell.Proofs.Files.Contents
import PipeShell.Proofs.Text.Bytes

/-!
# Histories in regular files

A file is written as lines, each ended by a line feed. Once a regular file is open, writing a history
to it or appending to it cannot fail any more, and the file holds the lines afterwards.
-/

namespace PipeShell

namespace History

def written (lines : List String) : Bytes := lines.flatMap fun line => Text.encode (line ++ "\n")

@[simp] theorem written_nil : written [] = [] := rfl

theorem written_cons (line : String) (lines : List String) :
    written (line :: lines) = Text.encode (line ++ "\n") ++ written lines := rfl

theorem written_append (lines more : List String) :
    written (lines ++ more) = written lines ++ written more := List.flatMap_append

theorem encode_lines (lines : List String) :
    Text.encode (String.join (lines.map (· ++ "\n"))) = written lines := by
  induction lines with
  | nil => rfl
  | cons line lines ih => rw [List.map_cons, String.join_cons, Text.encode_append, ih, written_cons]

variable {f : Files} {path : String} {content : Bytes}

theorem fileAt_appendLines {i : Inode} (h : f.FileAt path i content) (lines : List String) :
    (appendLines f i lines).1 = .ok () ∧
      (appendLines f i lines).2.FileAt path i (content ++ written lines) := by
  induction lines generalizing f content with
  | nil => simpa [appendLines] using h
  | cons line lines ih =>
    obtain ⟨⟨offset, hok⟩, hfile⟩ := h.append (Text.encode (line ++ "\n"))
    unfold appendLines
    cases hw : f.writeAt i none (Text.encode (line ++ "\n")) with
    | mk result g =>
      rw [hw] at hok hfile
      obtain rfl : result = _ := hok
      rw [written_cons, ← List.append_assoc]
      exact ih hfile

theorem appendTo_of_isOk {h : History} (hc : f.content? path = some content)
    (ho : (h.appendTo f path).1.isOk = true) :
    (h.appendTo f path).1 = .ok h.fresh.length ∧ (h.appendTo f path).2.1 = h.markAppended ∧
      (h.appendTo f path).2.2.Holds path (content ++ written h.fresh) := by
  unfold appendTo at ho ⊢
  cases hopen : f.openForWriting path true with
  | error e => simp [hopen, Except.isOk, Except.toBool] at ho
  | ok opened =>
    obtain ⟨i, g⟩ := opened
    have hg : g.FileAt path i content := Files.fileAt_openForWriting hopen hc
    obtain ⟨hok, hfile⟩ := fileAt_appendLines hg h.fresh
    simp only
    cases hw : appendLines g i h.fresh with
    | mk result k =>
      rw [hw] at hok hfile
      obtain rfl : result = _ := hok
      exact ⟨rfl, rfl, hfile.holds⟩

theorem fileAt_writeTo (h : History) {opened : Inode × Files}
    (ho : f.openForWriting path false = .ok opened) (hc : f.content? path = some content) :
    (h.writeTo f path).1 = .ok () ∧ (h.writeTo f path).2.1 = h.markAppended ∧
      (h.writeTo f path).2.2.FileAt path opened.1 (written h.entries) := by
  obtain ⟨hok, hfile⟩ := Files.fileAt_write ho hc (Text.encode h.render)
  have hr : Text.encode h.render = written h.entries := encode_lines h.entries
  unfold writeTo
  cases hw : f.write path (Text.encode h.render) with
  | mk result g =>
    rw [hw] at hok hfile
    obtain rfl : result = _ := hok
    rw [hr] at hfile
    exact ⟨rfl, rfl, hfile⟩

theorem openForWriting_of_writeTo {h : History} (hw : (h.writeTo f path).1 = .ok ()) :
    ∃ opened, f.openForWriting path false = .ok opened := by
  refine Files.openForWriting_of_write (Text.encode h.render) ?_
  unfold writeTo at hw
  cases hr : f.write path (Text.encode h.render) with
  | mk result g =>
    rw [hr] at hw
    cases result with
    | ok u => rfl
    | error e => cases hw

theorem files_save {h : History} {file : String} (hf : h.file = some file) (files : Files) :
    (h.save files).2.1 = (h.writeTo (prepareDirectory files file).1 file).2.2 := by
  unfold save
  simp only [hf]
  rcases h.writeTo (prepareDirectory files file).1 file with ⟨e | u, kept, g⟩ <;> rfl

end History

end PipeShell
