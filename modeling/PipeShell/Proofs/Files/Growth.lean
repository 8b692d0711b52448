import Mathlib.Tactic.Common
import PipeShell.Files.Change
import PipeShell.Program.Image

/-!
# Growing file trees

A tree grows when files are made under vacant names and when the contents of files change. Paths
lead where they led before, except that a vacant name may have become one of the new files. Which
files may be executed does not change, and programs whose own files are not changed stay the same.
-/

namespace PipeShell

/-- A node keeps its kind and its permissions. The content of a file may differ if it is changed,
and a directory may have more names. -/
inductive Node.Grows (changed : Prop) (made : String → Prop) (new : Inode → Prop) :
    Node → Node → Prop
  | dir {parent : Inode} {entries more : List (String × Inode)} {removed : Bool} {mode : Nat}
      (hm : ∀ e ∈ more, made e.1 ∧ new e.2) :
      Grows changed made new (.dir parent entries removed mode)
        (.dir parent (entries ++ more) removed mode)
  | file {content content' : Bytes} {mode : Nat} (hc : ¬ changed → content' = content) :
      Grows changed made new (.file content mode) (.file content' mode)
  | link {target : String} : Grows changed made new (.link target) (.link target)
  | device {room room' : Option Nat} : Grows changed made new (.device room) (.device room')

namespace Node.Grows

variable {changed changed' : Prop} {made made' : String → Prop} {new new' new'' : Inode → Prop}

theorem refl (n : Node) : n.Grows changed made new n := by
  cases n with
  | dir parent entries removed mode =>
    have hd : (Node.dir parent entries removed mode).Grows changed made new
        (.dir parent (entries ++ []) removed mode) := .dir (by simp)
    rwa [List.append_nil] at hd
  | file content mode => exact .file fun _ => rfl
  | link target => exact .link
  | device room => exact .device

theorem trans {a b c : Node} (hb : a.Grows changed made new b) (hc : b.Grows changed' made' new' c)
    (hchanged : changed' → changed) (hmade : ∀ name, made' name → made name)
    (hnew : ∀ i, new i → new'' i) (hnew' : ∀ i, new' i → new'' i) :
    a.Grows changed made new'' c := by
  cases hb with
  | dir hm =>
    cases hc with
    | dir hm' =>
      rw [List.append_assoc]
      refine .dir ?_
      intro e he
      rcases List.mem_append.1 he with he | he
      · exact ⟨(hm e he).1, hnew _ (hm e he).2⟩
      · exact ⟨hmade _ (hm' e he).1, hnew' _ (hm' e he).2⟩
  | file hs =>
    cases hc with
    | file hs' => exact .file fun h => (hs' fun h' => h (hchanged h')).trans (hs h)
  | link => cases hc with | link => exact .link
  | device => cases hc with | device => exact .device

end Node.Grows

inductive Place.Leads (made : Inode → String → Prop) (new : Inode → Prop) : Place → Place → Prop
  | same (p : Place) : Leads made new p p
  | fills {dir i : Inode} {name : String} (hm : made dir name) (hi : new i) :
      Leads made new (.vacant dir name) (.found i)

inductive Walk.Leads (made : Inode → String → Prop) (new : Inode → Prop) : Walk → Walk → Prop
  | ended {p q : Place} (h : p.Leads made new q) : Leads made new (.ended p) (.ended q)
  | failed (e e' : OsError) : Leads made new (.failed e) (.failed e')
  | link (dir : Inode) (target : String) (rest : List String) :
      Leads made new (.link dir target rest) (.link dir target rest)

inductive Place.LeadsOr (made : Inode → String → Prop) (new : Inode → Prop) :
    Except OsError Place → Except OsError Place → Prop
  | ok {p q : Place} (h : p.Leads made new q) : LeadsOr made new (.ok p) (.ok q)
  | error (e e' : OsError) : LeadsOr made new (.error e) (.error e')

namespace Files

theorem node?_eq_none {f : Files} {i : Inode} : f.node? i = none ↔ f.nodes.size ≤ i := by
  unfold node?
  exact Array.getElem?_eq_none_iff

theorem lt_size_of_node? {f : Files} {i : Inode} {n : Node} (h : f.node? i = some n) :
    i < f.nodes.size := by
  by_contra hi
  rw [node?_eq_none.2 (Nat.le_of_not_lt hi)] at h
  cases h

/-- Every node of a tree is there and may have grown, and new nodes are plain files. -/
structure Grown (changed : Inode → Prop) (made : Inode → String → Prop) (f g : Files) : Prop where
  cwd : g.cwd = f.cwd
  size : f.nodes.size ≤ g.nodes.size
  node : ∀ {i n}, f.node? i = some n → ∃ n', g.node? i = some n' ∧
    n.Grows (changed i) (made i) (fun j => f.nodes.size ≤ j ∧ j < g.nodes.size) n'
  fresh : ∀ {i}, f.nodes.size ≤ i → i < g.nodes.size →
    ∃ content, g.node? i = some (.file content defaultMode)

namespace Grown

variable {changed : Inode → Prop} {made : Inode → String → Prop} {f g : Files}

theorem refl (changed : Inode → Prop) (made : Inode → String → Prop) (f : Files) :
    Grown changed made f f where
  cwd := rfl
  size := Nat.le_refl _
  node h := ⟨_, h, Node.Grows.refl _⟩
  fresh hi hj := absurd hj (Nat.not_lt.2 hi)

theorem trans {changed' : Inode → Prop} {made' : Inode → String → Prop} {k : Files}
    (hg : Grown changed made f g) (hk : Grown changed' made' g k)
    (hc : ∀ i, i < f.nodes.size → changed' i → changed i)
    (hm : ∀ i name, made' i name → made i name) : Grown changed made f k where
  cwd := hk.cwd.trans hg.cwd
  size := Nat.le_trans hg.size hk.size
  node {i n} h := by
    obtain ⟨n', hn', hgrows⟩ := hg.node h
    obtain ⟨n'', hn'', hgrows'⟩ := hk.node hn'
    refine ⟨n'', hn'', hgrows.trans hgrows' (hc i (lt_size_of_node? h)) (hm i) ?_ ?_⟩
    · exact fun j hj => ⟨hj.1, Nat.lt_of_lt_of_le hj.2 hk.size⟩
    · exact fun j hj => ⟨Nat.le_trans hg.size hj.1, hj.2⟩
  fresh {i} hi hj := by
    by_cases hg' : i < g.nodes.size
    · obtain ⟨content, hn⟩ := hg.fresh hi hg'
      obtain ⟨n', hn', hgrows⟩ := hk.node hn
      cases hgrows with
      | file => exact ⟨_, hn'⟩
    · exact hk.fresh (Nat.le_of_not_lt hg') hj

theorem mono {changed' : Inode → Prop} {made' : Inode → String → Prop}
    (hg : Grown changed made f g) (hc : ∀ i, changed i → changed' i)
    (hm : ∀ i name, made i name → made' i name) : Grown changed' made' f g :=
  (refl changed' made' f).trans hg (fun i _ => hc i) hm

theorem back (hg : Grown changed made f g) {i : Inode} {n' : Node} (h : g.node? i = some n') :
    (∃ n, f.node? i = some n ∧
        n.Grows (changed i) (made i) (fun j => f.nodes.size ≤ j ∧ j < g.nodes.size) n') ∨
      (f.node? i = none ∧ ∃ content, n' = .file content defaultMode) := by
  cases hn : f.node? i with
  | none =>
    obtain ⟨content, hc⟩ := hg.fresh (node?_eq_none.1 hn) (lt_size_of_node? h)
    rw [hc] at h
    cases h
    exact Or.inr ⟨rfl, content, rfl⟩
  | some n =>
    obtain ⟨n'', hn'', hgrows⟩ := hg.node hn
    rw [hn''] at h
    cases h
    exact Or.inl ⟨n, rfl, hgrows⟩

theorem not_dir (hg : Grown changed made f g) {i : Inode}
    (h : ∀ parent entries removed mode, f.node? i ≠ some (.dir parent entries removed mode))
    (parent : Inode) (entries : List (String × Inode)) (removed : Bool) (mode : Nat) :
    g.node? i ≠ some (.dir parent entries removed mode) := by
  intro hd
  rcases hg.back hd with ⟨n, hn, hgrows⟩ | ⟨-, content, hc⟩
  · cases hgrows with
    | dir => exact h _ _ _ _ hn
  · cases hc

theorem not_link (hg : Grown changed made f g) {i : Inode}
    (h : ∀ target, f.node? i ≠ some (.link target)) (target : String) :
    g.node? i ≠ some (.link target) := by
  intro hl
  rcases hg.back hl with ⟨n, hn, hgrows⟩ | ⟨-, content, hc⟩
  · cases hgrows with
    | link => exact h _ hn
  · cases hc

end Grown

section Paths

variable {changed : Inode → Prop} {made : Inode → String → Prop} {f g : Files}

theorem walk_nil (f : Files) (follow : Bool) (here : Inode) :
    f.walk follow here [] = .ended (.found here) := by
  rw [walk]

theorem walk_of_not_dir {here : Inode}
    (h : ∀ parent entries removed mode, f.node? here ≠ some (.dir parent entries removed mode))
    (follow : Bool) (name : String) (rest : List String) :
    f.walk follow here (name :: rest) = .failed .notDirectory := by
  rw [walk]
  split
  · next hd => exact absurd hd (h _ _ _ _)
  · rfl

def enter (f : Files) (follow : Bool) (here : Inode) (name : String) (rest : List String) :
    Option Inode → Walk
  | none => if rest.isEmpty then .ended (.vacant here name) else .failed .noEntry
  | some i =>
    match f.node? i with
    | some (.link target) =>
      if follow || !rest.isEmpty then .link here target rest else .ended (.found i)
    | _ => f.walk follow i rest

theorem walk_of_dir {here parent : Inode} {entries : List (String × Inode)} {removed : Bool}
    {mode : Nat} (h : f.node? here = some (.dir parent entries removed mode)) (follow : Bool)
    (name : String) (rest : List String) :
    f.walk follow here (name :: rest) =
      if name = "" then f.walk follow here rest
      else if !(Node.dir parent entries removed mode).allows .execute then .failed .denied
      else if name = "." then f.walk follow here rest
      else if name = ".." then f.walk follow parent rest
      else if nameLimit < name.utf8ByteSize then .failed .nameTooLong
      else f.enter follow here name rest (entries.lookup name) := by
  rw [walk]
  simp only [h]
  rfl

theorem enter_of_not_link {i : Inode} (h : ∀ target, f.node? i ≠ some (.link target))
    (follow : Bool) (here : Inode) (name : String) (rest : List String) :
    f.enter follow here name rest (some i) = f.walk follow i rest := by
  rw [enter]
  split
  · next hl => exact absurd hl (h _)
  · rfl

theorem enter_of_link {i : Inode} {target : String} (h : f.node? i = some (.link target))
    (follow : Bool) (here : Inode) (name : String) (rest : List String) :
    f.enter follow here name rest (some i) =
      if follow || !rest.isEmpty then .link here target rest else .ended (.found i) := by
  rw [enter]
  simp only [h]

theorem not_link_of_file {i : Inode} {content : Bytes} {mode : Nat}
    (h : f.node? i = some (.file content mode)) (target : String) :
    f.node? i ≠ some (.link target) := by
  rw [h]
  exact fun hl => by cases hl

theorem walk_file {i : Inode} {content : Bytes} {mode : Nat}
    (h : f.node? i = some (.file content mode)) (follow : Bool) (name : String)
    (rest : List String) : f.walk follow i (name :: rest) = .failed .notDirectory := by
  refine walk_of_not_dir ?_ follow name rest
  rw [h]
  intro parent entries removed mode hd
  cases hd

theorem walk_leads (hg : Grown changed made f g) (follow : Bool) (here : Inode)
    (names : List String) :
    (f.walk follow here names).Leads made (fun i => f.nodes.size ≤ i ∧ i < g.nodes.size)
      (g.walk follow here names) := by
  induction names generalizing here with
  | nil =>
    rw [walk_nil, walk_nil]
    exact .ended (.same _)
  | cons name rest ih =>
    by_cases hd : ∀ parent entries removed mode,
        f.node? here ≠ some (.dir parent entries removed mode)
    · rw [walk_of_not_dir hd, walk_of_not_dir (hg.not_dir hd)]
      exact .failed _ _
    · push Not at hd
      obtain ⟨parent, entries, removed, mode, hd⟩ := hd
      obtain ⟨n', hn', hgrows⟩ := hg.node hd
      cases hgrows with
      | @dir _ _ more _ _ hm =>
        have hallows : (Node.dir parent (entries ++ more) removed mode).allows .execute =
            (Node.dir parent entries removed mode).allows .execute := rfl
        have henter : (f.enter follow here name rest (entries.lookup name)).Leads made
            (fun i => f.nodes.size ≤ i ∧ i < g.nodes.size)
            (g.enter follow here name rest ((entries ++ more).lookup name)) := by
          rw [List.lookup_append]
          cases hl : entries.lookup name with
          | some i =>
            rw [Option.some_or]
            by_cases hi : ∀ target, f.node? i ≠ some (.link target)
            · rw [enter_of_not_link hi, enter_of_not_link (hg.not_link hi)]
              exact ih i
            · push Not at hi
              obtain ⟨target, hi⟩ := hi
              obtain ⟨n'', hn'', hlink⟩ := hg.node hi
              cases hlink with
              | link =>
                rw [enter_of_link hi, enter_of_link hn'']
                split_ifs
                · exact .link _ _ _
                · exact .ended (.same _)
          | none =>
            rw [Option.none_or]
            cases hj : more.lookup name with
            | none =>
              rw [enter, enter]
              split_ifs
              · exact .ended (.same _)
              · exact .failed _ _
            | some j =>
              -- the name was vacant and is now that of a new file, where a walk can only end
              obtain ⟨before, after, rfl, -⟩ := List.lookup_eq_some_iff.1 hj
              obtain ⟨hmade, hj⟩ := hm (name, j) (by simp)
              obtain ⟨content, hc⟩ := hg.fresh hj.1 hj.2
              rw [enter_of_not_link (not_link_of_file hc), enter]
              cases rest with
              | nil =>
                rw [walk_nil]
                exact .ended (.fills hmade hj)
              | cons next rest =>
                rw [walk_file hc]
                exact .failed _ _
        rw [walk_of_dir hd, walk_of_dir hn', hallows]
        split_ifs
        · exact ih here
        · exact .failed _ _
        · exact ih here
        · exact ih parent
        · exact .failed _ _
        · exact henter

theorem resolveFrom_leads (hg : Grown changed made f g) (follow : Bool) (links : Nat) (here : Inode)
    (names : List String) :
    Place.LeadsOr made (fun i => f.nodes.size ≤ i ∧ i < g.nodes.size)
      (f.resolveFrom follow links here names) (g.resolveFrom follow links here names) := by
  induction links generalizing here names with
  | zero =>
    have hw := walk_leads hg follow here names
    rw [resolveFrom, resolveFrom]
    generalize f.walk follow here names = a at hw ⊢
    generalize g.walk follow here names = b at hw ⊢
    cases hw with
    | ended h => exact .ok h
    | failed e e' => exact .error e e'
    | link dir target rest => exact .error _ _
  | succ links ih =>
    have hw := walk_leads hg follow here names
    rw [resolveFrom, resolveFrom]
    generalize f.walk follow here names = a at hw ⊢
    generalize g.walk follow here names = b at hw ⊢
    cases hw with
    | ended h => exact .ok h
    | failed e e' => exact .error e e'
    | link dir target rest => exact ih _ _

theorem resolve_leads (hg : Grown changed made f g) (follow : Bool) (path : String) :
    Place.LeadsOr made (fun i => f.nodes.size ≤ i ∧ i < g.nodes.size)
      (f.resolve follow path) (g.resolve follow path) := by
  unfold resolve
  rw [hg.cwd]
  split_ifs
  · exact .error _ _
  · exact .error _ _
  · exact resolveFrom_leads hg follow _ _ _

def place (f : Files) (path : String) : Except OsError Place :=
  if Path.hasNul path then .error .nulInPath
  else if path.isEmpty then .error .noEntry
  else if pathLimit < path.utf8ByteSize then .error .nameTooLong
  else f.resolveTarget linkLimit (origin f.cwd path) (Path.pieces path) (Path.endsInSlash path)

theorem resolveTarget_slash (f : Files) (links : Nat) (here : Inode) (names : List String) :
    ∃ e, f.resolveTarget links here names true = .error e := by
  rw [resolveTarget.eq_def]
  simp only [if_true]
  cases f.parentFrom links here names with
  | error e => exact ⟨e, rfl⟩
  | ok i => exact ⟨.isDirectory, rfl⟩

theorem resolveTarget_leads (hg : Grown changed made f g) (links : Nat) (here : Inode)
    (names : List String) (slash : Bool) :
    Place.LeadsOr made (fun i => f.nodes.size ≤ i ∧ i < g.nodes.size)
      (f.resolveTarget links here names slash) (g.resolveTarget links here names slash) := by
  induction links generalizing here names slash with
  | zero =>
    cases slash with
    | true =>
      obtain ⟨e, he⟩ := resolveTarget_slash f 0 here names
      obtain ⟨e', he'⟩ := resolveTarget_slash g 0 here names
      rw [he, he']
      exact .error e e'
    | false =>
      have hw := walk_leads hg true here names
      rw [resolveTarget, resolveTarget]
      generalize f.walk true here names = a at hw ⊢
      generalize g.walk true here names = b at hw ⊢
      cases hw with
      | ended h => exact .ok h
      | failed e e' => exact .error e e'
      | link dir target rest => exact .error _ _
  | succ links ih =>
    cases slash with
    | true =>
      obtain ⟨e, he⟩ := resolveTarget_slash f (links + 1) here names
      obtain ⟨e', he'⟩ := resolveTarget_slash g (links + 1) here names
      rw [he, he']
      exact .error e e'
    | false =>
      have hw := walk_leads hg true here names
      rw [resolveTarget, resolveTarget]
      generalize f.walk true here names = a at hw ⊢
      generalize g.walk true here names = b at hw ⊢
      cases hw with
      | ended h => exact .ok h
      | failed e e' => exact .error e e'
      | link dir target rest =>
        simp only [Bool.false_eq_true, if_false]
        split_ifs
        · exact ih _ _ _
        · exact ih _ _ _

theorem place_leads (hg : Grown changed made f g) (path : String) :
    Place.LeadsOr made (fun i => f.nodes.size ≤ i ∧ i < g.nodes.size)
      (f.place path) (g.place path) := by
  unfold place
  rw [hg.cwd]
  split_ifs
  · exact .error _ _
  · exact .error _ _
  · exact .error _ _
  · exact resolveTarget_leads hg _ _ _ _

theorem place_of_found (hg : Grown changed made f g) {path : String} {i : Inode}
    (h : f.place path = .ok (.found i)) : g.place path = .ok (.found i) := by
  have hl := place_leads hg path
  rw [h] at hl
  generalize g.place path = q at hl ⊢
  cases hl with
  | ok hp => cases hp with | same => rfl

theorem place_of_vacant (hg : Grown changed made f g) {path : String} {dir : Inode} {name : String}
    (h : f.place path = .ok (.vacant dir name)) (hm : ¬ made dir name) :
    g.place path = .ok (.vacant dir name) := by
  have hl := place_leads hg path
  rw [h] at hl
  generalize g.place path = q at hl ⊢
  cases hl with
  | ok hp =>
    cases hp with
    | same => rfl
    | fills hmade => exact absurd hmade hm

theorem find_of_ok (hg : Grown changed made f g) {path : String} {i : Inode}
    (h : f.find path = .ok i) : g.find path = .ok i := by
  have hl := resolve_leads hg true path
  unfold find at h ⊢
  generalize f.resolve true path = p at h hl
  generalize g.resolve true path = q at hl ⊢
  cases hl with
  | error e e' => cases h
  | ok hp =>
    cases hp with
    | same => exact h
    | fills => cases h

def runs (f : Files) (i : Inode) : Bool :=
  match f.node? i with
  | some (.file _ mode) => mode &&& 0o111 != 0
  | _ => false

theorem isExecutable_of_found {path : String} {i : Inode} (hp : Path.hasNul path = false)
    (h : f.resolve true path = .ok (.found i)) : f.isExecutable path = f.runs i := by
  simp only [isExecutable, stat, hp, find, h, Place.node, runs, Bool.false_eq_true, if_false]
  cases f.node? i with
  | none => rfl
  | some n => cases n <;> rfl

theorem isExecutable_of_not_found {path : String}
    (h : ∀ i, f.resolve true path ≠ .ok (.found i)) : f.isExecutable path = false := by
  simp only [isExecutable, stat, find]
  split_ifs
  · rfl
  · cases hr : f.resolve true path with
    | error e => rfl
    | ok p =>
      cases p with
      | vacant => rfl
      | found i => exact absurd hr (h i)

theorem runs_eq (hg : Grown changed made f g) (i : Inode) : g.runs i = f.runs i := by
  unfold runs
  cases hn : g.node? i with
  | none =>
    have hf : f.node? i = none :=
      node?_eq_none.2 (Nat.le_trans hg.size (node?_eq_none.1 hn))
    rw [hf]
  | some n =>
    rcases hg.back hn with ⟨m, hm, hgrows⟩ | ⟨hnone, content, rfl⟩
    · rw [hm]
      cases hgrows <;> rfl
    · rw [hnone]
      rfl

theorem isExecutable_eq (hg : Grown changed made f g) (path : String) :
    g.isExecutable path = f.isExecutable path := by
  cases hp : Path.hasNul path with
  | true => simp [isExecutable, stat, hp]
  | false =>
    have hl := resolve_leads hg true path
    cases hf : f.resolve true path with
    | error e =>
      rw [hf] at hl
      have hg' : ∀ i, g.resolve true path ≠ .ok (.found i) := by
        intro i hi
        rw [hi] at hl
        cases hl
      rw [isExecutable_of_not_found hg', isExecutable_of_not_found (by rw [hf]; simp)]
    | ok p =>
      rw [hf] at hl
      cases p with
      | found i =>
        have hg' : g.resolve true path = .ok (.found i) := by
          generalize g.resolve true path = q at hl ⊢
          cases hl with
          | ok h => cases h with | same => rfl
        rw [isExecutable_of_found hp hg', isExecutable_of_found hp hf, runs_eq hg]
      | vacant dir name =>
        rw [isExecutable_of_not_found (f := f) (by rw [hf]; simp)]
        cases hg' : g.resolve true path with
        | error e => exact isExecutable_of_not_found (by rw [hg']; simp)
        | ok q =>
          rw [hg'] at hl
          cases hl with
          | ok h =>
            cases h with
            | same => exact isExecutable_of_not_found (by rw [hg']; simp)
            | fills hmade hi =>
              obtain ⟨content, hc⟩ := hg.fresh hi.1 hi.2
              rw [isExecutable_of_found hp hg', runs, hc]
              rfl

end Paths

end Files

namespace Image

open Files (Grown)

def sources (files : Files) : Nat → String → List Inode
  | depth, path =>
    match files.find (if path.isEmpty then "." else path), executable files path, depth with
    | .ok i, .ok content, depth + 1 =>
      i :: match program? content, interpreter? content with
        | none, some (name, _) => sources files depth (Text.decodeLossy name)
        | _, _ => []
    | _, _, _ => []

variable {changed : Inode → Prop} {made : Inode → String → Prop} {f g : Files}

theorem stat_of_file {path : String} {content : Bytes} {mode : Nat}
    (h : f.stat path = .ok (.file content mode)) :
    Path.hasNul path = false ∧ ∃ i, f.find path = .ok i ∧ f.node? i = some (.file content mode) := by
  unfold Files.stat at h
  cases hp : Path.hasNul path with
  | true => simp [hp] at h
  | false =>
    simp only [hp, Bool.false_eq_true, if_false] at h
    cases hf : f.find path with
    | error e => simp [hf] at h
    | ok i =>
      simp only [hf] at h
      cases hn : f.node? i with
      | none => simp [hn] at h
      | some n =>
        simp only [hn, Option.map_some, Option.getD_some, Except.ok.injEq] at h
        exact ⟨rfl, i, rfl, by rw [hn, h]⟩

theorem executable_ok {path : String} {content : Bytes} (h : executable f path = .ok content) :
    ∃ i mode, f.find (if path.isEmpty then "." else path) = .ok i ∧
      f.node? i = some (.file content mode) ∧
      Path.hasNul (if path.isEmpty then "." else path) = false ∧
      (Node.file content mode).allows .execute = true := by
  unfold executable at h
  generalize (if path.isEmpty then "." else path) = named at h ⊢
  cases hs : f.stat named with
  | error e => simp [hs] at h
  | ok n =>
    cases n with
    | file content' mode =>
      simp only [hs] at h
      split_ifs at h with ha
      cases h
      obtain ⟨hp, i, hi, hn⟩ := stat_of_file hs
      exact ⟨i, mode, hi, hn, hp, ha⟩
    | dir => simp [hs] at h
    | link => simp [hs] at h
    | device => simp [hs] at h

theorem sources_lt {depth : Nat} {path : String} {i : Inode} (hi : i ∈ sources f depth path) :
    i < f.nodes.size := by
  induction depth generalizing path with
  | zero =>
    rw [sources.eq_def] at hi
    cases he : executable f path <;> simp [he] at hi
  | succ depth ih =>
    rw [sources.eq_def] at hi
    cases he : executable f path with
    | error e => simp [he] at hi
    | ok content =>
      obtain ⟨j, mode, hj, hn, -⟩ := executable_ok he
      simp only [hj, he, List.mem_cons] at hi
      rcases hi with rfl | hi
      · exact Files.lt_size_of_node? hn
      · split at hi
        · exact ih hi
        · cases hi

theorem executable_grown (hg : Grown changed made f g) {path : String} {content : Bytes} {i : Inode}
    (h : executable f path = .ok content)
    (hi : f.find (if path.isEmpty then "." else path) = .ok i) (hc : ¬ changed i) :
    executable g path = .ok content := by
  obtain ⟨j, mode, hj, hn, hp, ha⟩ := executable_ok h
  rw [hi] at hj
  cases hj
  obtain ⟨n', hn', hgrows⟩ := hg.node hn
  cases hgrows with
  | @file _ content' _ hsame =>
    obtain rfl := hsame hc
    simp only [executable, Files.stat, hp, Bool.false_eq_true, if_false, Files.find_of_ok hg hi, hn',
      Option.map_some, Option.getD_some, ha, if_true]

/-- A program stays the same as long as none of its own files is changed. -/
theorem load_grown (hg : Grown changed made f g) {depth : Nat} {path : String} {argv : List String}
    {image : Image} (hs : ∀ i ∈ sources f depth path, ¬ changed i)
    (h : load f depth path argv = .ok image) : load g depth path argv = .ok image := by
  induction depth generalizing path argv with
  | zero =>
    rw [load.eq_def] at h
    cases he : executable f path <;> simp [he] at h
  | succ depth ih =>
    rw [load.eq_def] at h ⊢
    cases he : executable f path with
    | error e => simp [he] at h
    | ok content =>
      obtain ⟨i, mode, hi, -⟩ := executable_ok he
      rw [sources.eq_def] at hs
      simp only [hi, he] at hs
      have hkeep := executable_grown hg he hi (hs i List.mem_cons_self)
      simp only [he, hkeep] at h ⊢
      cases hp : program? content with
      | some program =>
        simp only [hp] at h ⊢
        exact h
      | none =>
        cases hint : interpreter? content with
        | none => simp [hp, hint] at h
        | some found =>
          simp only [hp, hint] at h hs ⊢
          exact ih (fun j hj => hs j (List.mem_cons_of_mem _ hj)) h

end Image

end PipeShell
