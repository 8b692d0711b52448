import PipeShell.Proofs.Files.Targets

/-!
# What files hold

A path that was opened for writing leads to the file that was opened, also if the file was only made
then. A write to it is found again under the path, and writes to other files leave it as it is.
-/

namespace PipeShell.Files

def Holds (f : Files) (path : String) (content : Bytes) : Prop :=
  ∃ mode, f.stat path = .ok (.file content mode)

/-- What a regular file holds. A file that is not there yet holds nothing. -/
def content? (f : Files) (path : String) : Option Bytes :=
  match f.stat path with
  | .ok (.file content _) => some content
  | .error .noEntry => some []
  | _ => none

/-- The path leads to the node for reading as well as for writing, and the node is a regular file
with the content. -/
structure FileAt (f : Files) (path : String) (i : Inode) (content : Bytes) : Prop where
  place : f.place path = .ok (.found i)
  node : ∃ mode, f.node? i = some (.file content mode)

section Vacant

variable {f : Files} {dir : Inode} {name : String}

def Lacks (f : Files) (dir : Inode) (name : String) : Prop :=
  ∃ parent entries removed mode,
    f.node? dir = some (.dir parent entries removed mode) ∧ entries.lookup name = none

theorem lacks_of_walk {follow : Bool} {here : Inode} {names : List String}
    (h : f.walk follow here names = .ended (.vacant dir name)) : f.Lacks dir name := by
  induction names generalizing here with
  | nil =>
    rw [walk_nil] at h
    cases h
  | cons next rest ih =>
    by_cases hd : ∀ parent entries removed mode,
        f.node? here ≠ some (.dir parent entries removed mode)
    · rw [walk_of_not_dir hd] at h
      cases h
    · push Not at hd
      obtain ⟨parent, entries, removed, mode, hd⟩ := hd
      rw [walk_of_dir hd] at h
      split_ifs at h
      · exact ih h
      · exact ih h
      · exact ih h
      · cases hl : entries.lookup next with
        | none =>
          rw [hl, enter] at h
          split_ifs at h
          cases h
          exact ⟨parent, entries, removed, mode, hd, hl⟩
        | some i =>
          rw [hl] at h
          by_cases hi : ∀ target, f.node? i ≠ some (.link target)
          · rw [enter_of_not_link hi] at h
            exact ih h
          · push Not at hi
            obtain ⟨target, hi⟩ := hi
            rw [enter_of_link hi] at h
            split_ifs at h
            cases h

theorem lacks_of_resolveFrom {follow : Bool} {links : Nat} {here : Inode} {names : List String}
    (h : f.resolveFrom follow links here names = .ok (.vacant dir name)) : f.Lacks dir name := by
  induction links generalizing here names with
  | zero =>
    rw [resolveFrom] at h
    cases hw : f.walk follow here names with
    | ended p =>
      simp only [hw, Except.ok.injEq] at h
      exact lacks_of_walk (h ▸ hw)
    | failed e => simp [hw] at h
    | link => simp [hw] at h
  | succ links ih =>
    rw [resolveFrom] at h
    cases hw : f.walk follow here names with
    | ended p =>
      simp only [hw, Except.ok.injEq] at h
      exact lacks_of_walk (h ▸ hw)
    | failed e => simp [hw] at h
    | link above target rest =>
      simp only [hw] at h
      exact ih h

theorem lacks_of_place {path : String} (h : f.place path = .ok (.vacant dir name)) :
    f.Lacks dir name := by
  obtain ⟨-, hr⟩ := resolve_of_place h
  unfold resolve at hr
  split_ifs at hr
  exact lacks_of_resolveFrom hr

end Vacant

section Opening

variable {f g : Files} {path : String} {i : Inode} {content : Bytes}

theorem stat_of_found (h : f.place path = .ok (.found i)) {n : Node} (hn : f.node? i = some n) :
    f.stat path = .ok n := by
  obtain ⟨hnul, hr⟩ := resolve_of_place h
  simp [stat, find, hnul, hr, Place.node, hn]

theorem stat_of_vacant {dir : Inode} {name : String} (h : f.place path = .ok (.vacant dir name)) :
    f.stat path = .error .noEntry := by
  obtain ⟨hnul, hr⟩ := resolve_of_place h
  simp [stat, find, hnul, hr, Place.node]

theorem FileAt.holds (h : f.FileAt path i content) : f.Holds path content := by
  obtain ⟨mode, hn⟩ := h.node
  exact ⟨mode, stat_of_found h.place hn⟩

theorem Holds.content? (h : f.Holds path content) : f.content? path = some content := by
  obtain ⟨mode, hs⟩ := h
  simp [Files.content?, hs]

theorem place_openedAt_self {p : Place} (hp : f.place path = .ok p) (ho : f.Openable p)
    (append : Bool) : (f.openedAt append p).place path = .ok (.found (f.nodeAt p)) := by
  cases p with
  | found i => exact place_of_found (grown_openedAt f append (.found i)) hp
  | vacant dir name =>
    obtain ⟨parent, entries, removed, mode, hd, -⟩ := lacks_of_place hp
    have hne : dir ≠ f.nodes.size := Nat.ne_of_lt (lt_size_of_node? hd)
    have hd' : (f.openedAt append (.vacant dir name)).node? dir =
        some (.dir parent (entries ++ [(name, f.nodes.size)]) removed mode) := by
      rw [openedAt, node?_alter_self, node?_addNode, if_neg hne, hd]
      rfl
    have hl := place_leads (grown_openedAt f append (.vacant dir name)) path
    rw [hp] at hl
    generalize hq : (f.openedAt append (.vacant dir name)).place path = q at hl ⊢
    cases hl with
    | ok hlead =>
      cases hlead with
      | same =>
        -- the name cannot be vacant any more, since the directory has it now
        obtain ⟨_, _, _, _, hd'', hnone⟩ := lacks_of_place hq
        rw [hd'] at hd''
        cases hd''
        simp [List.lookup_append] at hnone
      | @fills _ j _ _ hj =>
        have hsize : (f.openedAt append (.vacant dir name)).nodes.size = f.nodes.size + 1 := by
          simp [openedAt, addNode]
        obtain ⟨hle, hlt⟩ := hj
        rw [hsize] at hlt
        obtain rfl : j = f.nodes.size := Nat.le_antisymm (Nat.le_of_lt_succ hlt) hle
        rfl

theorem fileAt_openForWriting {append : Bool} (ho : f.openForWriting path append = .ok (i, g))
    (hc : f.content? path = some content) :
    g.FileAt path i (if append then content else []) := by
  obtain ⟨p, hp, hop⟩ := place_of_openForWriting ho
  rw [openForWriting_of_place hp hop append] at ho
  cases ho
  refine ⟨place_openedAt_self hp hop append, ?_⟩
  cases p with
  | found i =>
    rw [openedAt, nodeAt, node?_alter_self]
    cases hn : f.node? i with
    | none => simp [Openable, hn] at hop
    | some n =>
      rw [Files.content?, stat_of_found hp hn] at hc
      cases n with
      | file old mode =>
        cases hc
        exact ⟨mode, by cases append <;> rfl⟩
      | dir => cases hc
      | link => cases hc
      | device => cases hc
  | vacant dir name =>
    rw [Files.content?, stat_of_vacant hp] at hc
    cases hc
    obtain ⟨_, _, _, _, hd, -⟩ := lacks_of_place hp
    have hne : f.nodes.size ≠ dir := Nat.ne_of_gt (lt_size_of_node? hd)
    refine ⟨defaultMode, ?_⟩
    rw [openedAt, nodeAt, node?_alter_of_ne _ hne, node?_addNode, if_pos rfl]
    cases append <;> rfl

end Opening

section Writing

variable {f : Files} {path : String} {i : Inode} {content : Bytes}

theorem FileAt.writeAt (h : f.FileAt path i content) (offset : Option Nat) (data : Bytes) :
    (f.writeAt i offset data).1 = .ok (offset.getD content.length + data.length) ∧
      (f.writeAt i offset data).2.FileAt path i
        (splice content (offset.getD content.length) data) := by
  obtain ⟨mode, hn⟩ := h.node
  refine ⟨by simp [Files.writeAt, hn], place_writeAt h.place i offset data, mode, ?_⟩
  rw [writeAt_eq, node?_alter_self, hn]
  rfl

theorem FileAt.append (h : f.FileAt path i content) (data : Bytes) :
    (∃ offset, (f.writeAt i none data).1 = .ok offset) ∧
      (f.writeAt i none data).2.FileAt path i (content ++ data) := by
  obtain ⟨hok, hfile⟩ := h.writeAt none data
  refine ⟨⟨_, hok⟩, ?_⟩
  simpa [splice] using hfile

theorem FileAt.writeAt_of_ne (h : f.FileAt path i content) {j : Inode} (hne : i ≠ j)
    (offset : Option Nat) (data : Bytes) : (f.writeAt j offset data).2.FileAt path i content := by
  obtain ⟨mode, hn⟩ := h.node
  refine ⟨place_writeAt h.place j offset data, mode, ?_⟩
  rw [writeAt_eq, node?_alter_of_ne _ hne, hn]

theorem fileAt_write {old : Bytes} {opened : Inode × Files}
    (ho : f.openForWriting path false = .ok opened) (hc : f.content? path = some old)
    (data : Bytes) :
    (f.write path data).1 = .ok () ∧ (f.write path data).2.FileAt path opened.1 data := by
  obtain ⟨i, g⟩ := opened
  have hg : g.FileAt path i [] := fileAt_openForWriting ho hc
  obtain ⟨hok, hfile⟩ := hg.writeAt (some 0) data
  have hsplice : splice [] 0 data = data := by simp [splice]
  rw [Option.getD_some, hsplice] at hfile
  unfold write
  simp only [ho]
  cases hw : g.writeAt i (some 0) data with
  | mk result k =>
    rw [hw] at hok hfile
    obtain rfl : result = _ := hok
    exact ⟨rfl, hfile⟩

theorem openForWriting_of_write (data : Bytes) (h : (f.write path data).1 = .ok ()) :
    ∃ opened, f.openForWriting path false = .ok opened := by
  unfold write at h
  cases ho : f.openForWriting path false with
  | error e => simp [ho] at h
  | ok opened => exact ⟨opened, rfl⟩

end Writing

end PipeShell.Files
