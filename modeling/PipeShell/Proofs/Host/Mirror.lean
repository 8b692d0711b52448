import PipeShell.Proofs.Files.Targets
import PipeShell.Proofs.Host.Frame
import PipeShell.Proofs.Launch.Programs

/-!
# Hosts without a log

What a run does to files is compared here with what the same openings and writes do to a host that
keeps no log, its mirror. There opening targets and writing to other files can change places, so
that the order between different stages does not matter.
-/

namespace PipeShell

def OpenFile.position (file : OpenFile) : Option Nat :=
  if file.append then none else some file.offset

namespace Redirects

def targets (r : Redirects) : List Target :=
  r.stdout.toList ++ if Host.samePath r then [] else r.stderr.toList

def opened (r : Redirects) (handle : Nat) : Replacement where
  out := r.stdout.map fun _ => .file handle
  err := if Host.samePath r then some (.file handle)
    else r.stderr.map fun _ => .file (handle + r.stdout.toList.length)

theorem isNone_out_opened (r : Redirects) (handle : Nat) :
    (r.opened handle).out.isNone = r.keeps .stdout := by
  rw [opened, keeps, Option.isNone_map]

theorem isNone_err_opened (r : Redirects) (handle : Nat) :
    (r.opened handle).err.isNone = r.keeps .stderr := by
  obtain ⟨stdout, stderr⟩ := r
  unfold opened keeps
  by_cases hp : Host.samePath ⟨stdout, stderr⟩
  · cases stderr with
    | none => cases stdout <;> simp [Host.samePath] at hp
    | some t => simp [hp]
  · simp [hp]

end Redirects

namespace Files

/-- The targets can all be opened, are different files, and none of them is to be avoided. -/
structure Separate (avoid : Inode → Prop) (f : Files) (ts : List Target) : Prop where
  places : ∀ t ∈ ts, ∃ p, f.place t.path = .ok p ∧ f.Openable p ∧ ∀ i, avoid i → p ≠ .found i
  distinct : ts.Pairwise fun t u => f.place t.path ≠ f.place u.path
  bound : ∀ i, avoid i → i < f.nodes.size

namespace Separate

variable {avoid : Inode → Prop} {f : Files} {t : Target} {ts : List Target}

theorem place_tail (hs : Separate avoid f (t :: ts)) {p : Place} (hp : f.place t.path = .ok p)
    {u : Target} (hu : u ∈ ts) :
    ∃ q, f.place u.path = .ok q ∧ q ≠ p ∧ f.Openable q ∧ (∀ i, avoid i → q ≠ .found i) ∧
      (f.openedAt t.append p).place u.path = .ok q := by
  obtain ⟨q, hq, ho, ha⟩ := hs.places u (List.mem_cons_of_mem _ hu)
  have hne : q ≠ p := by
    rintro rfl
    exact (List.pairwise_cons.1 hs.distinct).1 u hu (hp.trans hq.symm)
  exact ⟨q, hq, hne, ho, ha, place_openedAt hq hne t.append⟩

theorem tail (hs : Separate avoid f (t :: ts)) {p : Place} (hp : f.place t.path = .ok p) :
    Separate avoid (f.openedAt t.append p) ts := by
  have hg := grown_openedAt f t.append p
  refine ⟨?_, ?_, fun i hi => Nat.lt_of_lt_of_le (hs.bound i hi) hg.size⟩
  · intro u hu
    obtain ⟨q, -, -, ho, ha, hq⟩ := hs.place_tail hp hu
    exact ⟨q, hq, ho.grown hg, ha⟩
  · refine (List.pairwise_cons.1 hs.distinct).2.imp_of_mem ?_
    intro u v hu hv huv
    obtain ⟨q, hq, -, -, -, hq'⟩ := hs.place_tail hp hu
    obtain ⟨r, hr, -, -, -, hr'⟩ := hs.place_tail hp hv
    rw [hq, hr] at huv
    rwa [hq', hr']

theorem writeAt (hs : Separate avoid f ts) (i : Inode) (offset : Option Nat) (data : Bytes) :
    Separate avoid (f.writeAt i offset data).2 ts := by
  have hg := grown_writeAt f i offset data
  refine ⟨?_, ?_, fun j hj => Nat.lt_of_lt_of_le (hs.bound j hj) hg.size⟩
  · intro u hu
    obtain ⟨q, hq, ho, ha⟩ := hs.places u hu
    exact ⟨q, place_writeAt hq i offset data, ho.grown hg, ha⟩
  · refine hs.distinct.imp_of_mem ?_
    intro u v hu hv huv
    obtain ⟨q, hq, -, -⟩ := hs.places u hu
    obtain ⟨r, hr, -, -⟩ := hs.places v hv
    rw [hq, hr] at huv
    rwa [place_writeAt hq, place_writeAt hr]

theorem left {us : List Target} (hs : Separate avoid f (ts ++ us)) : Separate avoid f ts :=
  ⟨fun t ht => hs.places t (List.mem_append_left _ ht), (List.pairwise_append.1 hs.distinct).1,
    hs.bound⟩

end Separate

end Files

namespace Host

def openAll (h : Host) (ts : List Target) : Host := ts.foldl (fun h t => (h.openFile t).2) h

def play (h : Host) (ws : List (Sink × Bytes)) : Host := ws.foldl (fun h w => (h.write w.1 w.2).2) h

theorem openFile_of_place {h : Host} {t : Target} {p : Place} (hp : h.files.place t.path = .ok p)
    (ho : h.files.Openable p) :
    h.openFile t = (.ok (.file h.opened.size),
      { h with
        files := h.files.openedAt t.append p
        opened := h.opened.push ⟨h.files.nodeAt p, 0, t.append⟩ }) := by
  rw [openFile, Files.openForWriting_of_place hp ho]

def advance (opened : Array OpenFile) (handle : Nat) (file : OpenFile) :
    Except OsError Nat → Array OpenFile
  | .ok offset => opened.setIfInBounds handle { file with offset := offset }
  | .error _ => opened

theorem write_file {h : Host} {handle : Nat} {file : OpenFile}
    (hf : h.opened[handle]? = some file) (data : Bytes) :
    (h.write (.file handle) data).2 =
      { h with
        files := (h.files.writeAt file.node file.position data).2
        opened := advance h.opened handle file (h.files.writeAt file.node file.position data).1 } := by
  rw [write, writeFile, hf]
  simp only [OpenFile.position]
  cases h.files.writeAt file.node (if file.append then none else some file.offset) data with
  | mk result files => cases result <;> rfl

/-- Nothing goes to a file that is to be avoided or that is still to be opened as a target. -/
def Clear (avoid : Inode → Prop) (h : Host) (ts : List Target) : Sink → Prop
  | .file handle => ∃ file, h.opened[handle]? = some file ∧ file.node < h.files.nodes.size ∧
      ¬ avoid file.node ∧ ∀ t ∈ ts, h.files.place t.path ≠ .ok (.found file.node)
  | _ => True

theorem Clear.left {avoid : Inode → Prop} {h : Host} {ts us : List Target} {sink : Sink}
    (hc : h.Clear avoid (ts ++ us) sink) : h.Clear avoid ts sink := by
  cases sink with
  | terminalOut => trivial
  | terminalErr => trivial
  | buffer n => trivial
  | file handle =>
    obtain ⟨file, hf, hsize, ha, hne⟩ := hc
    exact ⟨file, hf, hsize, ha, fun t ht => hne t (List.mem_append_left _ ht)⟩

section Commute

variable {avoid : Inode → Prop} {h : Host} {t : Target} {ts : List Target} {sink : Sink}

theorem push_advance {opened : Array OpenFile} {handle : Nat} (hk : handle < opened.size)
    (file new : OpenFile) (result : Except OsError Nat) :
    advance (opened.push new) handle file result = (advance opened handle file result).push new := by
  cases result with
  | error e => rfl
  | ok offset =>
    refine Array.ext_getElem? ?_
    intro i
    simp only [advance, Array.getElem?_setIfInBounds, Array.getElem?_push, Array.size_push,
      Array.size_setIfInBounds]
    split_ifs <;> simp_all
    omega

theorem openFile_write (hs : h.files.Separate avoid (t :: ts)) (hc : h.Clear avoid (t :: ts) sink)
    (data : Bytes) :
    ((h.write sink data).2.openFile t).2 = ((h.openFile t).2.write sink data).2 := by
  obtain ⟨p, hp, ho, -⟩ := hs.places t List.mem_cons_self
  rw [openFile_of_place hp ho]
  cases sink with
  | terminalOut =>
    have hw := write_terminalOut h data
    rw [openFile_of_place (h := (h.write .terminalOut data).2) (by rwa [hw]) (by rwa [hw]),
      write_terminalOut, write_terminalOut]
    rfl
  | terminalErr =>
    have hw := write_terminalErr h data
    rw [openFile_of_place (h := (h.write .terminalErr data).2) (by rwa [hw]) (by rwa [hw]),
      write_terminalErr, write_terminalErr]
    rfl
  | buffer n => rw [openFile_of_place (h := (h.write (.buffer n) data).2) hp ho]; rfl
  | file handle =>
    obtain ⟨file, hf, hsize, -, hne⟩ := hc
    have hother : p ≠ .found file.node := by
      rintro rfl
      exact hne t List.mem_cons_self hp
    obtain ⟨hlt, hval⟩ := Array.getElem?_eq_some_iff.1 hf
    have hf' : (h.opened.push ⟨h.files.nodeAt p, 0, t.append⟩)[handle]? = some file := by
      rw [Array.getElem?_push_lt hlt, hval]
    have hp' := Files.place_writeAt hp file.node file.position data
    have ho' := ho.grown (Files.grown_writeAt h.files file.node file.position data)
    rw [write_file hf, write_file (h := { h with
      files := h.files.openedAt t.append p
      opened := h.opened.push ⟨h.files.nodeAt p, 0, t.append⟩ }) hf',
      openFile_of_place (h := { h with
        files := (h.files.writeAt file.node file.position data).2
        opened := advance h.opened handle file
          (h.files.writeAt file.node file.position data).1 }) hp' ho']
    have hfiles : (h.files.writeAt file.node file.position data).2.openedAt t.append p =
        ((h.files.openedAt t.append p).writeAt file.node file.position data).2 := by
      rw [Files.writeAt_eq, Files.writeAt_eq, Files.openedAt_alter ho hsize hother]
    have hnode : (h.files.writeAt file.node file.position data).2.nodeAt p = h.files.nodeAt p := by
      cases p with
      | found i => rfl
      | vacant dir name => rw [Files.writeAt_eq, Files.nodeAt, Files.nodeAt, Files.size_alter]
    rw [hfiles, hnode, Files.writeAt_openedAt ho hsize hother, push_advance hlt]

theorem clear_openFile (hs : h.files.Separate avoid (t :: ts)) (hc : h.Clear avoid (t :: ts) sink) :
    (h.openFile t).2.Clear avoid ts sink := by
  obtain ⟨p, hp, ho, -⟩ := hs.places t List.mem_cons_self
  rw [openFile_of_place hp ho]
  cases sink with
  | terminalOut => trivial
  | terminalErr => trivial
  | buffer n => trivial
  | file handle =>
    obtain ⟨file, hf, hsize, ha, hne⟩ := hc
    obtain ⟨hlt, hval⟩ := Array.getElem?_eq_some_iff.1 hf
    refine ⟨file, by rw [Array.getElem?_push_lt hlt, hval], ?_, ha, ?_⟩
    · exact Nat.lt_of_lt_of_le hsize (Files.grown_openedAt h.files t.append p).size
    · intro u hu hu'
      obtain ⟨q, hq, -, -, -, hq'⟩ := hs.place_tail hp hu
      rw [hq'] at hu'
      exact hne u (List.mem_cons_of_mem _ hu) (hq.trans hu')

theorem clear_opened (hs : h.files.Separate avoid (t :: ts)) :
    (h.openFile t).2.Clear avoid ts (.file h.opened.size) := by
  obtain ⟨p, hp, ho, ha⟩ := hs.places t List.mem_cons_self
  rw [openFile_of_place hp ho]
  refine ⟨⟨h.files.nodeAt p, 0, t.append⟩, Array.getElem?_push_size, ?_, ?_, ?_⟩
  · cases p with
    | found i =>
      exact Nat.lt_of_lt_of_le ho.lt_size (Files.grown_openedAt h.files t.append _).size
    | vacant dir name => simp [Files.nodeAt, Files.openedAt, Files.addNode]
  · cases p with
    | found i => exact fun hi => ha i hi rfl
    | vacant dir name => exact fun hi => Nat.lt_irrefl _ (hs.bound _ hi)
  · intro u hu hu'
    obtain ⟨q, -, hne, hoq, -, hq'⟩ := hs.place_tail hp hu
    rw [hq'] at hu'
    cases hu'
    cases p with
    | found i => exact hne rfl
    | vacant dir name => exact Nat.lt_irrefl _ hoq.lt_size

theorem write_cases (h : Host) (sink : Sink) (data : Bytes) :
    ((h.write sink data).2.files = h.files ∧ (h.write sink data).2.opened = h.opened) ∨
      ∃ handle file, sink = .file handle ∧ h.opened[handle]? = some file ∧
        (h.write sink data).2.files = (h.files.writeAt file.node file.position data).2 ∧
        (h.write sink data).2.opened =
          advance h.opened handle file (h.files.writeAt file.node file.position data).1 := by
  cases sink with
  | terminalOut => exact Or.inl (by rw [write_terminalOut]; exact ⟨rfl, rfl⟩)
  | terminalErr => exact Or.inl (by rw [write_terminalErr]; exact ⟨rfl, rfl⟩)
  | buffer n => exact Or.inl ⟨rfl, rfl⟩
  | file handle =>
    cases hf : h.opened[handle]? with
    | none =>
      left
      rw [write, writeFile, hf]
      exact ⟨rfl, rfl⟩
    | some file =>
      right
      rw [write_file hf]
      exact ⟨handle, file, rfl, hf, rfl, rfl⟩

theorem node_advance {opened : Array OpenFile} {handle k : Nat} {file other : OpenFile}
    (hf : opened[handle]? = some file) (hk : opened[k]? = some other)
    (result : Except OsError Nat) :
    ∃ file', (advance opened handle file result)[k]? = some file' ∧ file'.node = other.node := by
  cases result with
  | error e => exact ⟨other, hk, rfl⟩
  | ok offset =>
    by_cases heq : handle = k
    · subst heq
      rw [hf] at hk
      cases hk
      obtain ⟨hlt, -⟩ := Array.getElem?_eq_some_iff.1 hf
      exact ⟨{ file with offset := offset }, by simp [advance, hlt], rfl⟩
    · exact ⟨other, by simp [advance, heq, hk], rfl⟩

theorem separate_write (hs : h.files.Separate avoid ts) (sink : Sink) (data : Bytes) :
    (h.write sink data).2.files.Separate avoid ts := by
  rcases write_cases h sink data with ⟨hf, -⟩ | ⟨handle, file, -, -, hf, -⟩
  · rw [hf]
    exact hs
  · rw [hf]
    exact hs.writeAt _ _ _

theorem clear_write (hs : h.files.Separate avoid ts) (hc : h.Clear avoid ts sink) (target : Sink)
    (data : Bytes) : (h.write target data).2.Clear avoid ts sink := by
  cases sink with
  | terminalOut => trivial
  | terminalErr => trivial
  | buffer n => trivial
  | file k =>
    obtain ⟨other, hk, hsize, ha, hne⟩ := hc
    rcases write_cases h target data with ⟨hf, ho⟩ | ⟨handle, file, -, hfile, hf, ho⟩
    · refine ⟨other, by rw [ho]; exact hk, ?_, ha, ?_⟩
      · rw [hf]
        exact hsize
      · rw [hf]
        exact hne
    · obtain ⟨file', hk', hnode⟩ := node_advance hfile hk
        (h.files.writeAt file.node file.position data).1
      refine ⟨file', by rw [ho]; exact hk', ?_, hnode ▸ ha, ?_⟩
      · rw [hf, hnode, Files.writeAt_eq, Files.size_alter]
        exact hsize
      · intro u hu hu'
        obtain ⟨q, hq, -⟩ := hs.places u hu
        rw [hf, Files.place_writeAt hq, hnode] at hu'
        exact hne u hu (hq.trans hu')

theorem openAll_write (hs : h.files.Separate avoid ts) (hc : h.Clear avoid ts sink)
    (data : Bytes) : (h.write sink data).2.openAll ts = ((h.openAll ts).write sink data).2 := by
  induction ts generalizing h with
  | nil => rfl
  | cons t ts ih =>
    obtain ⟨p, hp, ho, -⟩ := hs.places t List.mem_cons_self
    have htail : (h.openFile t).2.files.Separate avoid ts := by
      rw [openFile_of_place hp ho]
      exact hs.tail hp
    have hstep := ih htail (clear_openFile hs hc)
    unfold openAll at hstep ⊢
    rw [List.foldl_cons, List.foldl_cons, openFile_write hs hc data]
    exact hstep

/-- Writes and the opening of other files can be done in either order. -/
theorem openAll_play (hs : h.files.Separate avoid ts) {ws : List (Sink × Bytes)}
    (hc : ∀ w ∈ ws, h.Clear avoid ts w.1) : (h.play ws).openAll ts = (h.openAll ts).play ws := by
  induction ws generalizing h with
  | nil => rfl
  | cons w ws ih =>
    have hrest : ∀ v ∈ ws, (h.write w.1 w.2).2.Clear avoid ts v.1 :=
      fun v hv => clear_write hs (hc v (List.mem_cons_of_mem _ hv)) w.1 w.2
    have hstep := ih (separate_write hs w.1 w.2) hrest
    rw [openAll_write hs (hc w List.mem_cons_self)] at hstep
    exact hstep

end Commute

section Targets

variable {avoid : Inode → Prop} {h : Host} {ts : List Target}

theorem openOptional_of_separate {t : Target} (ts : List Target)
    (hs : h.files.Separate avoid (t :: ts)) :
    h.openOptional (some t) = (.ok (some (.file h.opened.size)), (h.openFile t).2) := by
  obtain ⟨p, hp, ho, -⟩ := hs.places t List.mem_cons_self
  rw [openOptional, openTarget, openFile_of_place hp ho]

theorem separate_openFile {t : Target} (hs : h.files.Separate avoid (t :: ts)) :
    (h.openFile t).2.files.Separate avoid ts := by
  obtain ⟨p, hp, ho, -⟩ := hs.places t List.mem_cons_self
  rw [openFile_of_place hp ho]
  exact hs.tail hp

theorem size_openFile {t : Target} (hs : h.files.Separate avoid (t :: ts)) :
    (h.openFile t).2.opened.size = h.opened.size + 1 := by
  obtain ⟨p, hp, ho, -⟩ := hs.places t List.mem_cons_self
  rw [openFile_of_place hp ho]
  exact Array.size_push _

theorem openTargets_of_separate (r : Redirects)
    (hs : h.files.Separate avoid (r.targets ++ ts)) :
    h.openTargets r = (.ok (r.opened h.opened.size),
      if r.hasAny then (h.openAll r.targets).note (redirectEntry r) else h.openAll r.targets) := by
  obtain ⟨stdout, stderr⟩ := r
  cases stdout with
  | none =>
    cases stderr with
    | none => rfl
    | some u =>
      have hu := openOptional_of_separate ts hs
      simp only [openTargets, openOptional, samePath, Bool.false_eq_true, if_false]
      simp only [openOptional] at hu
      rw [hu]
      rfl
  | some t =>
    have ht : h.files.Separate avoid (t :: ((if samePath ⟨some t, stderr⟩ then []
        else stderr.toList) ++ ts)) := hs
    have hopen := openOptional_of_separate _ ht
    unfold openTargets
    rw [hopen]
    by_cases hp : samePath ⟨some t, stderr⟩
    · simp only [hp, if_true, Redirects.opened, Redirects.targets]
      rfl
    · cases stderr with
      | none => simp [Redirects.opened, Redirects.targets, openOptional, openAll, samePath]
      | some u =>
        have hrest := separate_openFile ht
        simp only [hp, Bool.false_eq_true, if_false] at hrest
        have hopen' := openOptional_of_separate ts hrest
        simp only [hp, Bool.false_eq_true, if_false, hopen', size_openFile ht]
        simp [Redirects.opened, Redirects.targets, hp, openAll]

theorem separate_openAll {us : List Target} (hs : h.files.Separate avoid (ts ++ us)) :
    (h.openAll ts).files.Separate avoid us := by
  induction ts generalizing h with
  | nil => exact hs
  | cons t ts ih => exact ih (separate_openFile hs)

theorem size_openAll {us : List Target} (hs : h.files.Separate avoid (ts ++ us)) :
    (h.openAll ts).opened.size = h.opened.size + ts.length := by
  induction ts generalizing h with
  | nil => rfl
  | cons t ts ih =>
    have hstep := ih (separate_openFile hs)
    rw [size_openFile hs] at hstep
    change ((h.openFile t).2.openAll ts).opened.size = _
    rw [hstep, List.length_cons]
    omega

theorem clear_openAll {us : List Target} {sink : Sink} (hs : h.files.Separate avoid (ts ++ us))
    (hc : h.Clear avoid (ts ++ us) sink) : (h.openAll ts).Clear avoid us sink := by
  induction ts generalizing h with
  | nil => exact hc
  | cons t ts ih => exact ih (separate_openFile hs) (clear_openFile hs hc)

theorem clear_openAll_opened {us : List Target} (hs : h.files.Separate avoid (ts ++ us)) {k : Nat}
    (hk : k < ts.length) : (h.openAll ts).Clear avoid us (.file (h.opened.size + k)) := by
  induction ts generalizing h k with
  | nil => exact absurd hk (Nat.not_lt_zero k)
  | cons t ts ih =>
    have htail := separate_openFile hs
    cases k with
    | zero =>
      change ((h.openFile t).2.openAll ts).Clear avoid us (.file h.opened.size)
      exact clear_openAll htail (clear_opened hs)
    | succ k =>
      have hstep := ih htail (Nat.lt_of_succ_lt_succ hk)
      rw [size_openFile hs, Nat.add_assoc, Nat.add_comm 1 k] at hstep
      exact hstep

theorem handle_opened {r : Redirects} {handle : Nat} {sink : Sink}
    (hs : (r.opened handle).out = some sink ∨ (r.opened handle).err = some sink) :
    ∃ k, k < r.targets.length ∧ sink = .file (handle + k) := by
  obtain ⟨stdout, stderr⟩ := r
  unfold Redirects.opened at hs
  rcases hs with hs | hs
  · cases stdout with
    | none => cases hs
    | some t =>
      cases hs
      exact ⟨0, by simp [Redirects.targets], rfl⟩
  · by_cases hp : samePath ⟨stdout, stderr⟩
    · simp only [hp, if_true, Option.some.injEq] at hs
      subst hs
      cases stdout with
      | none => simp [samePath] at hp
      | some t => exact ⟨0, by simp [Redirects.targets], rfl⟩
    · simp only [hp, Bool.false_eq_true, if_false] at hs
      cases stderr with
      | none => cases hs
      | some u =>
        cases hs
        exact ⟨stdout.toList.length, by simp [Redirects.targets, hp], rfl⟩

theorem clear_replaced {r : Redirects} {us : List Target} {streams : Streams}
    (hs : h.files.Separate avoid (r.targets ++ us))
    (hc : ∀ channel, h.Clear avoid (r.targets ++ us) (streams.sink channel)) (channel : Channel) :
    (h.openAll r.targets).Clear avoid us ((streams.replace (r.opened h.opened.size)).sink channel) := by
  cases channel with
  | stdout =>
    cases ho : (r.opened h.opened.size).out with
    | none => simpa [Streams.replace, ho] using clear_openAll hs (hc .stdout)
    | some sink =>
      obtain ⟨k, hk, rfl⟩ := handle_opened (Or.inl ho)
      simpa [Streams.replace, ho] using clear_openAll_opened hs hk
  | stderr =>
    cases he : (r.opened h.opened.size).err with
    | none => simpa [Streams.replace, he] using clear_openAll hs (hc .stderr)
    | some sink =>
      obtain ⟨k, hk, rfl⟩ := handle_opened (Or.inr he)
      simpa [Streams.replace, he] using clear_openAll_opened hs hk

end Targets

/-- A host has the files and the open files of its mirror, the log apart. -/
structure Mirrors (log : Option Inode) (m h : Host) : Prop where
  muted : m.logFile = none
  logNode : h.logFile.map LogFile.node = log
  files : m.files.Alike log h.files
  opened : h.opened = m.opened

namespace Mirrors

variable {log : Option Inode} {m h k : Host} {avoid : Inode → Prop} {ts : List Target}

theorem of_eq (hm : Mirrors log m h) (hf : k.files = h.files) (ho : k.opened = h.opened)
    (hl : k.logFile = h.logFile) : Mirrors log m k where
  muted := hm.muted
  logNode := by rw [hl, hm.logNode]
  files := by rw [hf]; exact hm.files
  opened := ho.trans hm.opened

theorem alike_logged {f g g' : Files} {file : Option LogFile} (ha : f.Alike log g)
    (hl : file.map LogFile.node = log) (hg : Logged file g g') : f.Alike log g' := by
  induction hg with
  | same g => exact ha
  | @line l g g' hline text _ ih =>
    refine ih (ha.write_log ?_ none text)
    rw [← hl, hline]
    rfl

theorem of_noted (hm : Mirrors log m h) (hn : Noted h k) : Mirrors log m k where
  muted := hm.muted
  logNode := by rw [hn.logFile, hm.logNode]
  files := alike_logged hm.files hm.logNode hn.files
  opened := hn.opened.trans hm.opened

theorem separate (hm : Mirrors log m h) (hs : m.files.Separate avoid ts) :
    h.files.Separate avoid ts := by
  refine ⟨?_, ?_, fun i hi => hm.files.size ▸ hs.bound i hi⟩
  · intro t ht
    obtain ⟨p, hp, ho, ha⟩ := hs.places t ht
    exact ⟨p, hm.files.place hp, ho.grown hm.files.grown, ha⟩
  · refine hs.distinct.imp_of_mem ?_
    intro t u ht hu hne
    obtain ⟨p, hp, -⟩ := hs.places t ht
    obtain ⟨q, hq, -⟩ := hs.places u hu
    rw [hp, hq] at hne
    rwa [hm.files.place hp, hm.files.place hq]

theorem openFile (hm : Mirrors log m h) (hl : ∀ i, log = some i → avoid i) {t : Target}
    (hs : m.files.Separate avoid (t :: ts)) : Mirrors log (m.openFile t).2 (h.openFile t).2 := by
  obtain ⟨p, hp, ho, ha⟩ := hs.places t List.mem_cons_self
  rw [openFile_of_place hp ho,
    openFile_of_place (h := h) (hm.files.place hp) (ho.grown hm.files.grown)]
  refine ⟨hm.muted, hm.logNode, ?_, ?_⟩
  · exact hm.files.openedAt (fun i hi => hs.bound i (hl i hi)) (fun i hi => ha i (hl i hi)) t.append
  · simp only [hm.opened, hm.files.nodeAt]

theorem write (hm : Mirrors log m h) (hl : ∀ i, log = some i → avoid i) {sink : Sink}
    (hc : m.Clear avoid ts sink) (data : Bytes) :
    Mirrors log (m.write sink data).2 (h.write sink data).2 := by
  cases sink with
  | terminalOut =>
    rw [write_terminalOut, write_terminalOut]
    exact ⟨hm.muted, hm.logNode, hm.files, hm.opened⟩
  | terminalErr =>
    rw [write_terminalErr, write_terminalErr]
    exact ⟨hm.muted, hm.logNode, hm.files, hm.opened⟩
  | buffer n => exact ⟨hm.muted, hm.logNode, hm.files, hm.opened⟩
  | file handle =>
    obtain ⟨file, hf, -, ha, -⟩ := hc
    have hne : log ≠ some file.node := fun hlog => ha (hl _ hlog)
    have hf' : h.opened[handle]? = some file := by rw [hm.opened, hf]
    rw [write_file hf, write_file hf']
    refine ⟨hm.muted, hm.logNode, ?_, ?_⟩
    · simp only [Files.writeAt_eq]
      exact hm.files.alter hne _
    · simp only [hm.opened]
      rw [Files.writeAt_congr (hm.files.node _ hne)]

end Mirrors

/-- A run has come from the files `start` to a host, and these targets are still to be opened. -/
structure Tracks (avoid : Inode → Prop) (log : Option Inode) (start : Files) (ts : List Target)
    (m h : Host) : Prop extends Mirrors log m h where
  logged : ∀ i, log = some i → avoid i
  separate : m.files.Separate avoid ts
  grown : Files.Grown (fun i => ¬ avoid i) (fun _ _ => True) start m.files

namespace Tracks

variable {avoid : Inode → Prop} {log : Option Inode} {start : Files} {ts us : List Target}
  {m h k : Host}

theorem of_mirrors (ht : Tracks avoid log start ts m h) (hm : Mirrors log m k) :
    Tracks avoid log start ts m k := ⟨hm, ht.logged, ht.separate, ht.grown⟩

theorem of_noted (ht : Tracks avoid log start ts m h) (hn : Noted h k) :
    Tracks avoid log start ts m k := ht.of_mirrors (ht.toMirrors.of_noted hn)

theorem of_eq (ht : Tracks avoid log start ts m h) (hf : k.files = h.files)
    (ho : k.opened = h.opened) (hl : k.logFile = h.logFile) : Tracks avoid log start ts m k :=
  ht.of_mirrors (ht.toMirrors.of_eq hf ho hl)

theorem grown_files (ht : Tracks avoid log start ts m h) :
    Files.Grown (fun i => ¬ avoid i ∨ log = some i) (fun _ _ => True) start h.files :=
  (ht.grown.mono (fun _ hi => Or.inl hi) (fun _ _ => id)).trans ht.files.grown
    (fun _ _ hi => Or.inr hi) (fun _ _ => False.elim)

theorem openFile {t : Target} (ht : Tracks avoid log start (t :: ts) m h) :
    Tracks avoid log start ts (m.openFile t).2 (h.openFile t).2 := by
  refine ⟨ht.toMirrors.openFile ht.logged ht.separate, ht.logged, separate_openFile ht.separate, ?_⟩
  obtain ⟨p, hp, ho, ha⟩ := ht.separate.places t List.mem_cons_self
  rw [openFile_of_place hp ho]
  refine ht.grown.trans (Files.grown_openedAt m.files t.append p) ?_ (fun _ _ _ => trivial)
  rintro i - rfl hi
  exact ha i hi rfl

theorem openAll (ht : Tracks avoid log start (ts ++ us) m h) :
    Tracks avoid log start us (m.openAll ts) (h.openAll ts) := by
  induction ts generalizing m h with
  | nil => exact ht
  | cons t ts ih => exact ih ht.openFile

theorem write (ht : Tracks avoid log start ts m h) {sink : Sink} (hc : m.Clear avoid ts sink)
    (data : Bytes) : Tracks avoid log start ts (m.write sink data).2 (h.write sink data).2 := by
  refine ⟨ht.toMirrors.write ht.logged hc data, ht.logged, separate_write ht.separate sink data, ?_⟩
  rcases write_cases m sink data with ⟨hf, -⟩ | ⟨handle, file, rfl, hfile, hf, -⟩
  · rw [hf]
    exact ht.grown
  · obtain ⟨file', hf', -, ha, -⟩ := hc
    rw [hfile] at hf'
    cases hf'
    rw [hf]
    refine ht.grown.trans (Files.grown_writeAt m.files file.node file.position data) ?_
      (fun _ _ => False.elim)
    rintro i - rfl
    exact ha

theorem openTargets {r : Redirects} (ht : Tracks avoid log start (r.targets ++ ts) m h) :
    ∃ k, h.openTargets r = (.ok (r.opened m.opened.size), k) ∧
      Tracks avoid log start ts (m.openAll r.targets) k := by
  have hs := openTargets_of_separate r (ht.toMirrors.separate ht.separate)
  rw [ht.opened] at hs
  refine ⟨_, hs, ?_⟩
  split_ifs
  · exact ht.openAll.of_noted (noted_note _ _)
  · exact ht.openAll

end Tracks

end Host

end PipeShell
