import PipeShell.Proofs.Completion.Cursors
import PipeShell.Proofs.Files.Entries

/-!
# What command completion offers

Completion lists the directories of the search path, while a search asks for one path in each of
them. Both come to the same programs as long as every directory can be listed: a file that can be
executed under the path of a name is an entry of the directory, and a name that is listed has no
slash and does not come from an empty directory text.
-/

namespace PipeShell

namespace Search

variable {files : Files} {searchPath name : String}

def listable (files : Files) (searchPath : String) : Bool :=
  (directories searchPath).all fun dir => !files.isDirectory dir || (files.list dir).isOk

theorem isSome_find?_iff :
    (find? files searchPath name).isSome ↔
      ∃ dir ∈ directories searchPath, dir ≠ "" ∧
        files.isExecutable (Path.join dir name) = true := by
  rw [find?, List.findSome?_isSome_iff]
  constructor
  · rintro ⟨dir, hdir, hsome⟩
    obtain ⟨hmem, hne⟩ := List.mem_filter.1 hdir
    refine ⟨dir, hmem, by simpa using hne, ?_⟩
    by_contra he
    simp [candidate?, he] at hsome
  · rintro ⟨dir, hmem, hne, he⟩
    exact ⟨dir, List.mem_filter.2 ⟨hmem, by simpa using hne⟩, by simp [candidate?, he]⟩

theorem mem_executablesIn_iff {start dir : String} :
    name ∈ executablesIn files start dir ↔
      (∃ names, files.list dir = .ok names ∧ name ∈ names) ∧ start.toList <+: name.toList ∧
        files.isExecutable (Path.join dir name) = true := by
  rw [executablesIn]
  cases files.list dir with
  | error e => simp
  | ok names => simp [Text.startsWith_iff]

/-- Listing the search path and searching it find the same programs. -/
theorem mem_executables_iff (hf : files.wellFormed = true)
    (hl : listable files searchPath = true) {start : String} :
    name ∈ executables files searchPath start ↔
      start.toList <+: name.toList ∧ '/' ∉ name.toList ∧ (find? files searchPath name).isSome := by
  rw [executables, Text.mem_distinctSorted, List.mem_flatMap, isSome_find?_iff]
  constructor
  · rintro ⟨dir, hdir, hmem⟩
    obtain ⟨⟨names, hlist, hname⟩, hstart, he⟩ := mem_executablesIn_iff.1 hmem
    have hne : dir ≠ "" := by
      rintro rfl
      rw [Files.list_empty] at hlist
      cases hlist
    exact ⟨hstart, Files.notMem_of_list hf hlist hname, dir, hdir, hne, he⟩
  · rintro ⟨hstart, hslash, dir, hdir, hne, he⟩
    obtain ⟨parent, entries, removed, mode, hs, hmem⟩ :=
      Files.stat_of_isExecutable_join hf hne hslash he
    have hlisted : (files.list dir).isOk = true := by
      have hall := List.all_eq_true.1 hl dir hdir
      simpa [Files.isDirectory, hs] using hall
    refine ⟨dir, hdir, mem_executablesIn_iff.2 ⟨⟨_, ?_, hmem⟩, hstart, he⟩⟩
    exact Files.list_of_stat hs hlisted

end Search

namespace Completion

theorem Cursor.ofBefore_append {head word : List Char} (hh : Text.allBlank head = true)
    (hw : ∀ c ∈ word, Text.isBlank c = false) : Cursor.ofBefore (head ++ word) = ⟨head, word⟩ := by
  refine Cursor.ofBefore_eq (fun c hc => ?_) hw
  exact List.all_eq_true.1 hh c (List.mem_of_getLast? hc)

theorem display_commands (files : Files) (searchPath : String) (builtins : List String)
    (start : String) :
    (commands files searchPath builtins start).map Candidate.display =
      commandNames files searchPath builtins start := by
  rw [commands, List.map_map]
  exact List.map_id _

/-- The first word of a line is completed to exactly the commands that can be run: the builtins and
the programs that a search finds. They are offered in the order of their bytes, each once. -/
theorem completes_what_can_be_run (c : Completer) (files : Files) (env : Environment)
    (head word rest : List Char) (he : c.enabled = true) (hh : Text.allBlank head = true)
    (hw : ∀ x ∈ word, Text.isBlank x = false) (hs : '/' ∉ word) (hf : files.wellFormed = true)
    (hl : Search.listable files env.searchPath = true) :
    ∃ candidates,
      c.complete? files env (head ++ word ++ rest) (Text.size (head ++ word)) =
        some (Text.size head, candidates) ∧
      (candidates.map fun x => Text.encode x.display).Pairwise (· < ·) ∧
      ∀ name, name ∈ candidates.map Candidate.display ↔
        word <+: name.toList ∧ (name ∈ c.builtins ∨
          '/' ∉ name.toList ∧ (Search.find? files env.searchPath name).isSome) := by
  refine ⟨commands files env.searchPath c.builtins (String.ofList word), ?_, ?_, ?_⟩
  · rw [Completer.complete?, Text.takeBytes?_size]
    simp [he, Cursor.ofBefore_append hh hw, Cursor.isFirst, Cursor.start, hh, hs]
  · have hdisplay := display_commands files env.searchPath c.builtins (String.ofList word)
    have hmap : (commands files env.searchPath c.builtins (String.ofList word)).map
        (fun x => Text.encode x.display) =
        (commandNames files env.searchPath c.builtins (String.ofList word)).map Text.encode := by
      rw [← hdisplay, List.map_map]
      rfl
    rw [hmap]
    exact List.Pairwise.map _ (fun _ _ => Text.encode_lt) (Text.pairwise_distinctSorted _)
  · intro name
    rw [display_commands, commandNames, Text.mem_distinctSorted, List.mem_append, List.mem_filter,
      Text.startsWith_iff, Search.mem_executables_iff hf hl, String.toList_ofList]
    tauto

/-- A file that may not be executed, a directory and a link to nothing in the first directory hide
nothing in the second one. -/
theorem completes_what_can_be_run_shadowed :
    let tree : Files := ⟨#[.dir 0 [("a", 1), ("b", 2)] false 0o755,
      .dir 0 [("la", 3), ("lb", 4), ("ls", 5)] false 0o755,
      .dir 0 [("lb", 6), ("ls", 7), ("la", 8), ("lé", 9)] false 0o755,
      .file [] 0o644, .dir 1 [] false 0o755, .link "nowhere",
      .file [] 0o755, .file [] 0o100, .file [] 0o755, .link "/b/ls"], 0⟩
    let c : Completer := ⟨["ls", "log", "type"], true⟩
    let env : Environment := [("PATH", "/a::/none:b:/a")]
    ∃ candidates, c.complete? tree env "\tl -a".toList 2 = some (1, candidates) ∧
      (candidates.map fun x => Text.encode x.display).Pairwise (· < ·) ∧
      (∀ name ∈ ["la", "lb", "log", "ls", "lé"], name ∈ candidates.map Candidate.display) ∧
      "type" ∉ candidates.map Candidate.display := by
  intro tree c env
  have hword : ∀ x ∈ ['l'], Text.isBlank x = false := by
    intro x hx
    obtain rfl := List.mem_singleton.1 hx
    decide
  obtain ⟨candidates, hcomplete, hascending, hoffered⟩ :=
    completes_what_can_be_run c tree env ['\t'] ['l'] [' ', '-', 'a'] rfl (by decide) hword
      (by decide) (by decide +kernel) (by decide +kernel)
  have hruns : ∀ name ∈ ["la", "lb", "log", "ls", "lé"], ['l'] <+: name.toList ∧
      (name ∈ c.builtins ∨
        '/' ∉ name.toList ∧ (Search.find? tree env.searchPath name).isSome) := by
    decide +kernel
  refine ⟨candidates, hcomplete, hascending, fun name hn => (hoffered name).2 (hruns name hn), ?_⟩
  intro hn
  exact absurd ((hoffered "type").1 hn).1 (by decide)

end Completion

end PipeShell
