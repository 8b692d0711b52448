import PipeShell.Proofs.Host.Follow
import PipeShell.Proofs.Search.Memory
import PipeShell.Session

/-!
# Searches from other directories

The directories of a search path can be relative. Then it depends on the working directory what a
search finds, but the cache does not look at the working directory: what it remembers was found from
the directory in which the name was first looked up. As long as the file tree stays as it is, this
is the only way in which a cached answer can differ from a search of the moment, and it needs a
relative directory and a change of the working directory.
-/

namespace PipeShell

namespace Files

def seenFrom (f : Files) (dir : Inode) : Files := { f with cwd := dir }

section SeenFrom

variable (f : Files) (dir : Inode)

@[simp] theorem seenFrom_cwd : f.seenFrom f.cwd = f := rfl

@[simp] theorem seenFrom_seenFrom (dir' : Inode) :
    (f.seenFrom dir).seenFrom dir' = f.seenFrom dir' := rfl

theorem node?_seenFrom (i : Inode) : (f.seenFrom dir).node? i = f.node? i := rfl

theorem walk_seenFrom (follow : Bool) (here : Inode) (names : List String) :
    (f.seenFrom dir).walk follow here names = f.walk follow here names := by
  induction names generalizing here with
  | nil => rfl
  | cons name rest ih =>
    unfold walk
    simp only [ih, node?_seenFrom]

theorem resolveFrom_seenFrom (follow : Bool) (links : Nat) (here : Inode) (names : List String) :
    (f.seenFrom dir).resolveFrom follow links here names =
      f.resolveFrom follow links here names := by
  induction links generalizing here names with
  | zero =>
    unfold resolveFrom
    simp only [walk_seenFrom]
  | succ links ih =>
    unfold resolveFrom
    simp only [walk_seenFrom, ih]

theorem isExecutable_seenFrom {path : String} (hp : Path.isAbsolute path = true) :
    (f.seenFrom dir).isExecutable path = f.isExecutable path := by
  have hr : (f.seenFrom dir).resolve true path = f.resolve true path := by
    unfold resolve
    rw [resolveFrom_seenFrom, origin, origin, if_pos hp, if_pos hp]
  simp only [isExecutable, stat, find, hr, node?_seenFrom]

theorem writeAt_seenFrom (i : Inode) (offset : Option Nat) (data : Bytes) :
    ((f.seenFrom dir).writeAt i offset data).2 = (f.writeAt i offset data).2.seenFrom dir := by
  rw [writeAt_eq, writeAt_eq]
  refine ext_node? (cwd_alter _ _ _) ?_
  intro j
  simp only [node?_seenFrom, node?_alter]

end SeenFrom

end Files

namespace Path

theorem isAbsolute_join {dir : String} (hd : isAbsolute dir = true) (name : String) :
    isAbsolute (join dir name) = true := by
  obtain ⟨rest, hrest⟩ : ∃ rest, dir.toList = '/' :: rest := by
    unfold isAbsolute at hd
    cases hl : dir.toList with
    | nil => simp [hl] at hd
    | cons c rest =>
      obtain rfl : c = '/' := by simpa [hl] using hd
      exact ⟨rest, rfl⟩
  unfold join
  split_ifs with hname hslash
  · rcases Bool.or_eq_true_iff.1 hname with h | h
    · exact h
    · rw [String.isEmpty_iff.1 h] at hrest
      simp at hrest
  · simp [isAbsolute, hrest]
  · simp [isAbsolute, hrest]

end Path

namespace Search

theorem find?_congr {f g : Files} {path name : String}
    (h : ∀ dir ∈ directories path, dir ≠ "" →
      g.isExecutable (Path.join dir name) = f.isExecutable (Path.join dir name)) :
    find? g path name = find? f path name := by
  unfold find?
  generalize directories path = dirs at h ⊢
  induction dirs with
  | nil => rw [List.filter_nil, List.findSome?_nil, List.findSome?_nil]
  | cons dir dirs ih =>
    have hrest := ih fun other hother => h other (List.mem_cons_of_mem _ hother)
    by_cases hd : dir = ""
    · rw [List.filter_cons_of_neg (by simpa using hd), hrest]
    · have hc : candidate? g name dir = candidate? f name dir := by
        simp only [candidate?, h dir List.mem_cons_self hd]
      rw [List.filter_cons_of_pos (by simpa using hd), List.findSome?_cons, List.findSome?_cons,
        hc, hrest]

namespace Query

def uncached (q : Query) : Option String := ({} : Cache).answer q

def seenFrom (q : Query) (dir : Inode) : Query := { q with files := q.files.seenFrom dir }

theorem uncached_of_searches {q : Query} (hq : q.searches = true) : q.uncached = q.found :=
  Cache.Remembers.empty.answer_eq hq

theorem firstAsked_of_not_searches {q : Query} (hq : q.searches = false) (past : List Query) :
    firstAsked past q = q := by
  have hnone : (spell q.searchPath past).find? (·.name = q.name) = none := by
    refine List.find?_eq_none.2 ?_
    intro x hx hname
    have hmem := List.mem_filter.1 ((List.rtakeWhile_suffix _ _).mem hx)
    have hsearches : x.searches = q.searches := by simp [searches, of_decide_eq_true hname]
    rw [hsearches, hq] at hmem
    exact Bool.noConfusion hmem.2
  rw [firstAsked, hnone, Option.getD_none]

/-- The first look-up is the last one itself, or it was made before with the same search path for
the same name. -/
theorem firstAsked_cases (past : List Query) (q : Query) :
    firstAsked past q = q ∨ firstAsked past q ∈ past ∧
      (firstAsked past q).searchPath = q.searchPath ∧ (firstAsked past q).name = q.name := by
  unfold firstAsked
  cases hf : (spell q.searchPath past).find? (·.name = q.name) with
  | none => exact Or.inl rfl
  | some first =>
    have hmem : first ∈ spell q.searchPath past := List.mem_of_find?_eq_some hf
    have hpast := List.mem_filter.1 ((List.rtakeWhile_suffix _ _).mem hmem)
    exact Or.inr ⟨hpast.1, by simpa using List.mem_rtakeWhile_imp hmem,
      by simpa using List.find?_some hf⟩

end Query

end Search

namespace Shell

open Search (Query Cache directories firstAsked)
open Host (Logged)

def query (s : Shell) (name : String) : Query :=
  ⟨s.host.files, s.host.environment.searchPath, name⟩

/-- The shell looks for programs, `cd` changes the working directory, and someone changes the
environment. The list holds the look-ups that were made. Nothing else happens to the files. -/
inductive Roams (s : Shell) : List Query → Shell → Prop
  | stay : Roams s [] s
  | find {qs : List Query} {t : Shell} (hr : Roams s qs t) (name : String) :
      Roams s (qs ++ [t.query name]) (t.findProgram name).2
  | cd {qs : List Query} {t : Shell} {files : Files} (hr : Roams s qs t) (arguments : List String)
      (hd : t.host.files.changeDirectory
        (t.host.environment.expandTilde (arguments.head?.getD "~")) = .ok files) :
      Roams s qs (Builtin.cd.run arguments t).2
  | environment {qs : List Query} {t : Shell} (hr : Roams s qs t) (env : Environment) :
      Roams s qs { t with host := { t.host with environment := env } }

/-- The cache remembers the look-ups, and each of them saw the tree of now but for the log, from
the working directory of its time. -/
structure Recollects (log : Option LogFile) (qs : List Query) (t : Shell) : Prop where
  remembers : t.host.cache.Remembers qs
  logFile : t.host.logFile = log
  trees : ∀ q ∈ qs,
    q.files.Alike (log.map LogFile.node) (t.host.files.seenFrom q.files.cwd)

theorem logged_seenFrom {log : Option LogFile} {f g : Files} (hg : Logged log f g) (dir : Inode) :
    Logged log (f.seenFrom dir) (g.seenFrom dir) := by
  induction hg with
  | same f => exact .same _
  | line hl text _ ih =>
    rw [← Files.writeAt_seenFrom] at ih
    exact .line hl text ih

namespace Recollects

variable {log : Option LogFile} {qs : List Query} {t : Shell}

theorem alike_logged (hr : Recollects log qs t) {files : Files}
    (hg : Logged log t.host.files files) {q : Query} (hq : q ∈ qs) :
    q.files.Alike (log.map LogFile.node) (files.seenFrom q.files.cwd) :=
  Host.Mirrors.alike_logged (hr.trees q hq) rfl (logged_seenFrom hg q.files.cwd)

theorem find (hr : Recollects log qs t) (name : String) :
    Recollects log (qs ++ [t.query name]) (t.findProgram name).2 := by
  have hn := t.host.noted_findProgram name
  have hg : Logged log t.host.files (t.findProgram name).2.host.files := hr.logFile ▸ hn.files
  have hcache : (t.findProgram name).2.host.cache = t.host.cache.after (t.query name) :=
    Host.cache_noteAll _ _
  refine ⟨?_, hn.logFile.trans hr.logFile, ?_⟩
  · rw [hcache]
    exact hr.remembers.after _
  · intro q hq
    rcases List.mem_append.1 hq with hq | hq
    · exact hr.alike_logged hg hq
    · rw [List.mem_singleton.1 hq]
      exact Host.Mirrors.alike_logged (Files.Alike.refl _ _) rfl
        (logged_seenFrom hg t.host.files.cwd)

theorem cd (hr : Recollects log qs t) {arguments : List String} {files : Files}
    (hd : t.host.files.changeDirectory
      (t.host.environment.expandTilde (arguments.head?.getD "~")) = .ok files) :
    Recollects log qs (Builtin.cd.run arguments t).2 := by
  have hfiles : files = t.host.files.seenFrom files.cwd := by
    unfold Files.changeDirectory at hd
    split_ifs at hd
    split at hd
    · cases hd
    · split at hd
      · split_ifs at hd
        cases hd
        rfl
      · cases hd
  -- the file tree is the old one, seen from another directory
  have hmoved : Recollects log qs { t with host := { t.host with files := files } } := by
    refine ⟨hr.remembers, hr.logFile, ?_⟩
    intro q hq
    rw [hfiles]
    exact hr.trees q hq
  have hrun : ∃ e, (Builtin.cd.run arguments t).2 =
      note { t with host := { t.host with files := files } } e := by
    simp only [Builtin.run, Builtin.runCd, hd]
    exact ⟨_, rfl⟩
  obtain ⟨e, hrun⟩ := hrun
  have hn := Host.noted_note { t.host with files := files } e
  rw [hrun]
  refine ⟨?_, hn.logFile.trans hr.logFile, fun q hq => hmoved.alike_logged ?_ hq⟩
  · change (Host.note { t.host with files := files } e).cache.Remembers qs
    rw [Host.cache_note]
    exact hr.remembers
  · exact hr.logFile ▸ hn.files

theorem of_roams {s : Shell} (hs : s.host.cache = {}) (hr : Roams s qs t) :
    Recollects s.host.logFile qs t := by
  induction hr with
  | stay => exact ⟨hs ▸ Cache.Remembers.empty, rfl, by simp⟩
  | find _ name ih => exact ih.find name
  | cd _ arguments hd ih => exact ih.cd hd
  | environment _ env ih => exact ⟨ih.remembers, ih.logFile, ih.trees⟩

theorem findProgram_eq (hr : Recollects log qs t) (name : String) :
    (t.findProgram name).1 =
      ((t.query name).seenFrom (firstAsked qs (t.query name)).files.cwd).uncached := by
  change t.host.cache.answer (t.query name) = _
  cases hq : (t.query name).searches with
  | false =>
    rw [Query.firstAsked_of_not_searches hq]
    exact ((t.host.cache.lookup_of_not_searches hq).2).trans
      (((({} : Cache)).lookup_of_not_searches hq).2).symm
  | true =>
    have hsearches : ((t.query name).seenFrom (firstAsked qs (t.query name)).files.cwd).searches =
        true := hq
    rw [hr.remembers.answer_eq hq, Query.uncached_of_searches hsearches]
    rcases Query.firstAsked_cases qs (t.query name) with hself | ⟨hmem, hpath, hname⟩
    · rw [hself]
      rfl
    · have hsame := (hr.trees _ hmem).grown
      unfold Query.found
      rw [hpath, hname]
      refine (Search.find?_congr ?_).symm
      exact fun dir _ _ => Files.isExecutable_eq hsame _

end Recollects

/-- While the file tree stays as it is, the shell finds a program as from the working directory in
which the name was first looked up since the search path is what it is. This is what a search of the
moment finds if the working directory is the same again, or if the search path has no relative
directory. -/
theorem finds_from_first_directory {s t : Shell} {qs : List Query} (hs : s.host.cache = {})
    (hr : Roams s qs t) (name : String) :
    (t.findProgram name).1 =
        ((t.query name).seenFrom (firstAsked qs (t.query name)).files.cwd).uncached ∧
      ((firstAsked qs (t.query name)).files.cwd = t.host.files.cwd ∨
          (∀ dir ∈ directories t.host.environment.searchPath,
            dir ≠ "" → Path.isAbsolute dir = true) →
        (t.findProgram name).1 = (t.query name).uncached) := by
  have hfound := (Recollects.of_roams hs hr).findProgram_eq name
  refine ⟨hfound, ?_⟩
  rintro (hcwd | habsolute)
  · rw [hfound, hcwd]
    rfl
  · rw [hfound]
    cases hq : (t.query name).searches with
    | false =>
      rw [Query.firstAsked_of_not_searches hq]
      rfl
    | true =>
      have hsearches : ((t.query name).seenFrom
          (firstAsked qs (t.query name)).files.cwd).searches = true := hq
      rw [Query.uncached_of_searches hsearches, Query.uncached_of_searches hq]
      refine Search.find?_congr ?_
      intro dir hdir hne
      exact Files.isExecutable_seenFrom _ _ (Path.isAbsolute_join (habsolute dir hdir hne) name)

/-- A program in an absolute directory is found after the working directory was changed as well. -/
theorem finds_from_first_directory_absolute :
    let tree : Files := ⟨#[.dir 0 [("p", 1), ("b", 3)] false 0o755, .dir 0 [("t", 2)] false 0o755,
      .file [] 0o755, .dir 0 [] false 0o755], 0⟩
    let s := Session.start (Settings.ofEnvironment []) false
      { files := tree, environment := [("PATH", "/p")] }
    let t := (Builtin.cd.run ["b"] (s.findProgram "t").2).2
    s.host.cache = {} ∧ Roams s [s.query "t"] t ∧ t.host.files.cwd = 3 ∧
      (t.findProgram "t").1 = (t.query "t").uncached ∧ (t.query "t").uncached = some "/p/t" := by
  intro tree s t
  have hs : s.host.cache = {} := rfl
  have hd : (s.findProgram "t").2.host.files.changeDirectory
      ((s.findProgram "t").2.host.environment.expandTilde "b") = .ok (tree.seenFrom 3) := by decide
  have hr : Roams s [s.query "t"] t := .cd (.find .stay "t") ["b"] hd
  have hpath : ∀ dir ∈ directories t.host.environment.searchPath,
      dir ≠ "" → Path.isAbsolute dir = true := by decide
  exact ⟨hs, hr, by decide, (finds_from_first_directory hs hr "t").2 (Or.inr hpath), by decide⟩

/-- A program that was found in a relative directory is still found from a directory from which the
search path does not lead to it. -/
theorem found_after_leaving :
    let tree : Files := ⟨#[.dir 0 [("p", 1), ("b", 3)] false 0o755, .dir 0 [("t", 2)] false 0o755,
      .file [] 0o755, .dir 0 [] false 0o755], 0⟩
    let s := Session.start (Settings.ofEnvironment []) false
      { files := tree, environment := [("PATH", "p")] }
    let t := (Builtin.cd.run ["b"] (s.findProgram "t").2).2
    s.host.cache = {} ∧ Roams s [s.query "t"] t ∧ (t.findProgram "t").1 = some "p/t" ∧
      (t.query "t").uncached = none := by
  intro tree s t
  have hd : (s.findProgram "t").2.host.files.changeDirectory
      ((s.findProgram "t").2.host.environment.expandTilde "b") = .ok (tree.seenFrom 3) := by decide
  have hr : Roams s [s.query "t"] t := .cd (.find .stay "t") ["b"] hd
  exact ⟨rfl, hr, by decide, by decide⟩

end Shell

end PipeShell
