import PipeShell.Proofs.History.Runs
import PipeShell.Proofs.History.Saved

/-!
# Reading a written history

A file that a history was written to has one line for every line feed. Entries have neither line
ends at their end nor anything else that reading would take away, so they come back unchanged unless
one of them has a line feed inside: then it is read as several lines.
-/

namespace PipeShell

namespace Files

def mayRead (f : Files) (path : String) : Bool :=
  match f.stat path with
  | .ok n => n.allows .read
  | .error _ => false

variable {f : Files} {path : String}

theorem Holds.readText {text : String} (h : f.Holds path (Text.encode text))
    (hr : f.mayRead path = true) : f.readText path = .ok text := by
  obtain ⟨mode, hs⟩ := h
  simp only [mayRead, hs] at hr
  simp [Files.readText, Files.read, openForReading, hs, hr, Text.decode?_encode]

theorem Holds.readText_denied {content : Bytes} (h : f.Holds path content)
    (hr : f.mayRead path = false) : f.readText path = .error .denied := by
  obtain ⟨mode, hs⟩ := h
  simp only [mayRead, hs] at hr
  simp [Files.readText, Files.read, openForReading, hs, hr]

end Files

namespace History

theorem stripEnd_stripEnd (line : String) : stripEnd (stripEnd line) = stripEnd line := by
  unfold stripEnd
  rw [String.toList_ofList]
  exact congrArg String.ofList (List.rdropWhile_idempotent _ line.toList)

theorem notMem_stripEnd {line : String} {c : Char} (hc : c ∉ line.toList) :
    c ∉ (stripEnd line).toList := by
  rw [stripEnd, String.toList_ofList]
  exact fun hm => hc ((List.rdropWhile_prefix _ _).subset hm)

theorem exists_of_mem_kept {lines : List String} {entry : String} (h : entry ∈ kept lines) :
    ∃ line ∈ lines, entry = stripEnd line := by
  rw [kept_eq] at h
  have hm := (List.mem_filter.1 ((List.destutter_sublist _ _).subset h)).1
  obtain ⟨line, hline, rfl⟩ := List.mem_map.1 hm
  exact ⟨line, hline, rfl⟩

theorem kept_of_suffix {lines entries : List String} (h : entries <:+ kept lines) :
    kept entries = entries := by
  have hstrip : entries.map stripEnd = entries.map id := by
    refine List.map_congr_left ?_
    intro entry hentry
    obtain ⟨line, -, hline⟩ := exists_of_mem_kept (h.subset hentry)
    rw [hline, stripEnd_stripEnd, id]
  have hblank : entries.filter (fun line => !isBlankLine line) = entries := by
    refine List.filter_eq_self.2 ?_
    intro entry hentry
    rw [(isBlankLine_eq_false_iff entry).2 (not_blank_of_mem_kept (h.subset hentry))]
    rfl
  rw [kept_eq, hstrip, List.map_id, hblank]
  exact List.destutter_of_isChain _ _ ((List.isChain_destutter _ _).suffix h)

def OneLineEach (h : History) : Prop := ∀ entry ∈ h.entries, '\n' ∉ entry.toList

instance (h : History) : Decidable h.OneLineEach :=
  inferInstanceAs (Decidable (∀ entry ∈ h.entries, '\n' ∉ entry.toList))

theorem linesAt_of_oneLineEach {f : Files} {path : String} {h : History}
    (hf : f.Holds path (written h.entries)) (hr : f.mayRead path = true) (hl : h.OneLineEach) :
    linesAt f path = h.entries := by
  have hlines : ∀ line ∈ h.entries.map String.toList, '\n' ∉ line := by
    intro line hline
    obtain ⟨entry, hentry, rfl⟩ := List.mem_map.1 hline
    exact hl entry hentry
  have htext : (String.join (h.entries.map (· ++ "\n"))).toList =
      (h.entries.map String.toList).flatMap (· ++ ['\n']) := by
    rw [String.toList_join]
    simp [List.flatMap_map]
  rw [← encode_lines] at hf
  simp only [linesAt, hf.readText hr]
  rw [htext, Text.closed_splitOn_lines hlines, List.map_map]
  simp [Function.comp_def]

theorem notMem_linesAt {f : Files} {path line : String} (h : line ∈ linesAt f path) :
    '\n' ∉ line.toList := by
  unfold linesAt at h
  cases ht : f.readText path with
  | error e => simp [ht] at h
  | ok text =>
    simp only [ht] at h
    obtain ⟨cs, hcs, rfl⟩ := List.mem_map.1 h
    rw [String.toList_ofList]
    exact Text.notMem_of_mem_closed hcs

theorem readFrom_of_mayRead (g : History) {f : Files} {path : String} {entries : List String}
    (hf : f.Holds path (written entries)) (hr : f.mayRead path = true) :
    ∃ n, (g.readFrom f path).1 = .ok n := by
  rw [← encode_lines] at hf
  exact ⟨_, by rw [readFrom, hf.readText hr]⟩

theorem readFrom_of_denied (g : History) {f : Files} {path : String} {content : Bytes}
    (hf : f.Holds path content) (hr : f.mayRead path = false) :
    g.readFrom f path = (.error .denied, g) := by
  rw [readFrom, hf.readText_denied hr]

/-- A history that was written to a regular file is read back by a new one, as far as the new one
may keep entries, if no entry has a line feed inside. If the new one may keep as many entries, that
is also the only case in which it gets the same ones. Reading fails only where the file may not be
read. -/
theorem readFrom_writeTo_iff (limit : Nat) (file : Option String) (files : Files)
    (ops : List Operation) (f : Files) (path : String) (m : Nat) (hm : 1 ≤ m)
    (other : Option String) :
    let h := ((Account.start limit file files).run ops).history
    let saved := (h.writeTo f path).2.2
    let r := (start m other).readFrom saved path
    (f.content? path).isSome = true → (h.writeTo f path).1 = .ok () →
      (saved.mayRead path = false → r = (.error .denied, start m other)) ∧
      (saved.mayRead path = true →
        (∃ n, r.1 = .ok n) ∧
        (h.OneLineEach → r.2.entries = h.entries.rtake m) ∧
        (h.entries.length ≤ m → (r.2.entries = h.entries ↔ h.OneLineEach))) := by
  intro h saved r hc hw
  obtain ⟨old, hc⟩ := Option.isSome_iff_exists.1 hc
  obtain ⟨opened, ho⟩ := openForWriting_of_writeTo hw
  have hf : saved.Holds path (written h.entries) := (fileAt_writeTo h ho hc).2.2.holds
  have ht : Tail h ((Account.start limit file files).run ops).offered :=
    Tail.run (Tail.start limit file) ops
  have hlimit : (start m other).limit = m := Nat.max_eq_left hm
  -- what the new history gets out of the lines of the file
  have hr : r.2.entries = (kept (linesAt saved path)).rtake m := by
    have hread := (Tail.start m other).addAll (linesAt saved path)
    have hentries := hread.entries
    rw [(sameSettings_addAll _ _).1, hlimit, ← readFrom_eq, List.nil_append] at hentries
    exact hentries
  have hlossless (hread : saved.mayRead path = true) (hl : h.OneLineEach) :
      r.2.entries = h.entries.rtake m := by
    rw [hr, linesAt_of_oneLineEach hf hread hl, kept_of_suffix ht.suffix]
  refine ⟨readFrom_of_denied _ hf, ?_⟩
  intro hread
  refine ⟨readFrom_of_mayRead _ hf hread, hlossless hread, ?_⟩
  intro hlen
  constructor
  · -- every entry of the new history comes from a line of the file
    intro he entry hentry
    rw [← he, hr] at hentry
    obtain ⟨line, hline, rfl⟩ := exists_of_mem_kept ((List.drop_suffix _ _).subset hentry)
    exact notMem_stripEnd (notMem_linesAt hline)
  · intro hl
    rw [hlossless hread hl, rtake_of_length_le hlen]

/-- A carriage return inside an entry is kept, a line feed makes two entries of one. -/
theorem readFrom_writeTo_iff_inner :
    let readBack (line : String) (m : Nat) :=
      let h := ((Account.start 3 none Files.empty).run [.add "x", .add line]).history
      ((start m none).readFrom (h.writeTo Files.empty "/h").2.2 "/h").2.entries
    readBack "y\rz" 1 = ["y\rz"] ∧ readBack "y\nz" 2 ≠ ["x", "y\nz"] := by
  have hreturn := readFrom_writeTo_iff 3 none Files.empty [.add "x", .add "y\rz"] Files.empty "/h" 1
    (by decide) none (by decide +kernel) (by decide +kernel)
  have hfeed := readFrom_writeTo_iff 3 none Files.empty [.add "x", .add "y\nz"] Files.empty "/h" 2
    (by decide) none (by decide +kernel) (by decide +kernel)
  constructor
  · calc _ = _ := (hreturn.2 (by decide +kernel)).2.1 (by decide +kernel)
      _ = _ := by decide +kernel
  · intro he
    refine absurd (((hfeed.2 (by decide +kernel)).2.2 (by decide +kernel)).1 (he.trans ?_)) ?_
    · decide +kernel
    · decide +kernel

end History

end PipeShell
