import PipeShell.Proofs.Files.Contents
import PipeShell.Proofs.Host.Mirror

/-!
# Open files at their ends

A target is written through an open file that always stands at the end of what the file holds, no
matter whether it is appended to: only writes through it move its offset, and nothing else writes to
the file. Targets that are different files are opened one after the other without getting in each
other's way.
-/

namespace PipeShell

namespace Files

def kept (f : Files) (t : Target) : Bytes :=
  if t.append then (f.content? t.path).getD [] else []

section Frame

variable {changed : Inode → Prop} {made : Inode → String → Prop} {f g : Files} {path : String}
  {i : Inode} {content : Bytes}

theorem FileAt.lt_size (h : f.FileAt path i content) : i < f.nodes.size := by
  obtain ⟨mode, hn⟩ := h.node
  exact lt_size_of_node? hn

theorem FileAt.grown (h : f.FileAt path i content) (hg : Grown changed made f g)
    (hi : ¬ changed i) : g.FileAt path i content := by
  obtain ⟨mode, hn⟩ := h.node
  obtain ⟨n', hn', hgrows⟩ := hg.node hn
  cases hgrows with
  | file hc =>
    refine ⟨place_of_found hg h.place, mode, ?_⟩
    rw [hn', hc hi]

theorem Holds.grown (h : f.Holds path content) (hg : Grown changed made f g)
    (hi : ∀ i, f.find path = .ok i → ¬ changed i) : g.Holds path content := by
  obtain ⟨mode, hs⟩ := h
  obtain ⟨hnul, i, hf, hn⟩ := Image.stat_of_file hs
  obtain ⟨n', hn', hgrows⟩ := hg.node hn
  cases hgrows with
  | file hc =>
    refine ⟨mode, ?_⟩
    simp [stat, hnul, find_of_ok hg hf, hn', hc (hi i hf)]

theorem fileAt_of_content? (hp : f.place path = .ok (.found i)) (ho : f.Openable (.found i))
    (hc : f.content? path = some content) : f.FileAt path i content := by
  refine ⟨hp, ?_⟩
  cases hn : f.node? i with
  | none => simp [Openable, hn] at ho
  | some n =>
    rw [content?, stat_of_found hp hn] at hc
    cases n with
    | file old mode =>
      cases hc
      exact ⟨mode, rfl⟩
    | dir => cases hc
    | link => cases hc
    | device => cases hc

end Frame

namespace Separate

variable {avoid : Inode → Prop} {f : Files} {t : Target} {ts : List Target}

theorem content?_openedAt (hs : Separate avoid f (t :: ts)) {p : Place}
    (hp : f.place t.path = .ok p) {u : Target} (hu : u ∈ ts) {content : Bytes}
    (hc : f.content? u.path = some content) :
    (f.openedAt t.append p).content? u.path = some content := by
  obtain ⟨q, hq, hne, ho, -, hq'⟩ := hs.place_tail hp hu
  cases q with
  | vacant dir name =>
    rw [content?, stat_of_vacant hq] at hc
    rw [content?, stat_of_vacant hq']
    exact hc
  | found i =>
    have hfile := fileAt_of_content? hq ho hc
    exact (hfile.grown (grown_openedAt f t.append p) (Ne.symm hne)).holds.content?

theorem tail_avoiding (hs : Separate avoid f (t :: ts)) {p : Place} (hp : f.place t.path = .ok p) :
    Separate (fun i => avoid i ∨ i = f.nodeAt p) (f.openedAt t.append p) ts := by
  have hg := grown_openedAt f t.append p
  have htail := hs.tail hp
  refine ⟨?_, htail.distinct, ?_⟩
  · intro u hu
    obtain ⟨q, -, hne, ho, ha, hq⟩ := hs.place_tail hp hu
    refine ⟨q, hq, ho.grown hg, ?_⟩
    rintro i (hi | rfl) rfl
    · exact ha i hi rfl
    · cases p with
      | found i => exact hne rfl
      | vacant dir name => exact Nat.lt_irrefl _ ho.lt_size
  · rintro i (hi | rfl)
    · exact htail.bound i hi
    · obtain ⟨q, hq, ho, -⟩ := hs.places t List.mem_cons_self
      rw [hp] at hq
      cases hq
      cases p with
      | found i => exact Nat.lt_of_lt_of_le ho.lt_size hg.size
      | vacant dir name => simp [nodeAt, openedAt, addNode]

theorem nil (hb : ∀ i, avoid i → i < f.nodes.size) : Separate avoid f [] :=
  ⟨fun _ ht => absurd ht List.not_mem_nil, List.Pairwise.nil, hb⟩

end Separate

end Files

namespace Host

/-- The open file is that of the path, and what is written to it next goes to its end. -/
structure Ends (h : Host) (handle : Nat) (path : String) (i : Inode) (content : Bytes) : Prop
    extends h.files.FileAt path i content where
  opened : ∃ file, h.opened[handle]? = some file ∧ file.node = i ∧
    file.position.getD content.length = content.length

namespace Ends

variable {h k : Host} {handle : Nat} {path : String} {i : Inode} {content : Bytes}

theorem frame (he : h.Ends handle path i content) {changed : Inode → Prop}
    {made : Inode → String → Prop} (hg : Files.Grown changed made h.files k.files)
    (hi : ¬ changed i) (ho : k.opened[handle]? = h.opened[handle]?) :
    k.Ends handle path i content :=
  ⟨he.toFileAt.grown hg hi, by rw [ho]; exact he.opened⟩

theorem clear_of_ne (he : h.Ends handle path i content) {j : Inode} (hne : i ≠ j) :
    h.Clear (· = j) [] (.file handle) := by
  obtain ⟨file, hf, rfl, -⟩ := he.opened
  exact ⟨file, hf, he.lt_size, hne, fun _ ht => absurd ht List.not_mem_nil⟩

theorem not_avoided (he : h.Ends handle path i content) {avoid : Inode → Prop} {ts : List Target}
    (hc : h.Clear avoid ts (.file handle)) : ¬ avoid i := by
  obtain ⟨file, hf, rfl, -⟩ := he.opened
  obtain ⟨file', hf', -, ha, -⟩ := hc
  rw [hf] at hf'
  cases hf'
  exact ha

theorem write (he : h.Ends handle path i content) (data : Bytes) :
    (h.write (.file handle) data).1 = .ok () ∧
      (h.write (.file handle) data).2.Ends handle path i (content ++ data) := by
  obtain ⟨file, hf, rfl, hpos⟩ := he.opened
  obtain ⟨hok, hfile⟩ := he.toFileAt.writeAt file.position data
  rw [hpos] at hok hfile
  rw [Files.splice, if_pos rfl] at hfile
  obtain ⟨hlt, -⟩ := Array.getElem?_eq_some_iff.1 hf
  constructor
  · rw [Host.write, writeFile, hf]
    simp only [OpenFile.position] at hok
    cases hw : h.files.writeAt file.node (if file.append then none else some file.offset) data with
    | mk result files =>
      rw [hw] at hok
      obtain rfl : result = _ := hok
      simp only [hw]
  · rw [write_file hf, hok]
    refine ⟨hfile, { file with offset := content.length + data.length }, ?_, rfl, ?_⟩
    · simp [advance, hlt]
    · rw [List.length_append]
      cases file.append <;> simp [OpenFile.position]

theorem write_other (he : h.Ends handle path i content) {sink : Sink}
    (hc : h.Clear (· = i) [] sink) (data : Bytes) :
    (h.write sink data).2.Ends handle path i content := by
  rcases write_cases h sink data with ⟨hf, ho⟩ | ⟨other, file, rfl, hfile, hf, ho⟩
  · exact ⟨by rw [hf]; exact he.toFileAt, by rw [ho]; exact he.opened⟩
  · obtain ⟨file', hfile', -, hne, -⟩ := hc
    rw [hfile] at hfile'
    cases hfile'
    have hother : other ≠ handle := by
      rintro rfl
      obtain ⟨mine, hmine, hnode, -⟩ := he.opened
      rw [hfile] at hmine
      cases hmine
      exact hne hnode
    have hg := Files.grown_writeAt h.files file.node file.position data
    rw [← hf] at hg
    refine he.frame hg (fun hi => hne hi.symm) ?_
    rw [ho]
    cases (h.files.writeAt file.node file.position data).1 with
    | error e => rfl
    | ok offset => exact Array.getElem?_setIfInBounds_ne hother

/-- However writes through this open file and writes to other files follow one another, the file
gets its own ones at its end. -/
theorem play (he : h.Ends handle path i content) {ws : List (Sink × Bytes)}
    (hw : ∀ w ∈ ws, w.1 = .file handle ∨ h.Clear (· = i) [] w.1) :
    (h.play ws).Ends handle path i (content ++ received (.file handle) ws) := by
  induction ws generalizing h content with
  | nil =>
    rw [received, List.append_nil]
    exact he
  | cons w ws ih =>
    obtain ⟨sink, data⟩ := w
    have hs : h.files.Separate (· = i) [] := .nil fun j hj => hj ▸ he.lt_size
    have hrest : ∀ w ∈ ws, w.1 = .file handle ∨ (h.write sink data).2.Clear (· = i) [] w.1 := by
      intro w hmem
      rcases hw w (List.mem_cons_of_mem _ hmem) with heq | hc
      · exact Or.inl heq
      · exact Or.inr (clear_write hs hc sink data)
    change ((h.write sink data).2.play ws).Ends handle path i _
    rw [received, ← List.append_assoc]
    rcases hw _ List.mem_cons_self with rfl | hc
    · rw [if_pos rfl]
      exact ih (he.write data).2 hrest
    · have hne : sink ≠ .file handle := by
        rintro rfl
        exact he.not_avoided hc rfl
      rw [if_neg hne, List.append_nil]
      exact ih (he.write_other hc data) hrest

theorem openFile (he : h.Ends handle path i content) {avoid : Inode → Prop} {t : Target}
    {ts : List Target} (hs : h.files.Separate avoid (t :: ts)) (hi : avoid i) :
    (h.openFile t).2.Ends handle path i content := by
  obtain ⟨p, hp, ho, ha⟩ := hs.places t List.mem_cons_self
  obtain ⟨file, hf, -⟩ := he.opened
  obtain ⟨hlt, -⟩ := Array.getElem?_eq_some_iff.1 hf
  rw [openFile_of_place hp ho]
  refine he.frame (Files.grown_openedAt h.files t.append p) (ha i hi) ?_
  rw [Array.getElem?_push_lt hlt, Array.getElem?_eq_getElem hlt]

theorem openAll (he : h.Ends handle path i content) {avoid : Inode → Prop} {ts : List Target}
    (hs : h.files.Separate avoid ts) (hi : avoid i) :
    (h.openAll ts).Ends handle path i content := by
  induction ts generalizing h with
  | nil => exact he
  | cons t ts ih => exact ih (he.openFile hs hi) (separate_openFile hs)

end Ends

section Opening

variable {avoid : Inode → Prop} {h : Host} {t : Target} {ts : List Target}

theorem ends_openFile (hs : h.files.Separate avoid (t :: ts)) {content : Bytes}
    (hc : h.files.content? t.path = some content) :
    ∃ i, (h.openFile t).2.Ends h.opened.size t.path i (h.files.kept t) ∧
      (h.openFile t).2.files.Separate (fun j => avoid j ∨ j = i) ts := by
  obtain ⟨p, hp, ho, -⟩ := hs.places t List.mem_cons_self
  have hopen := Files.openForWriting_of_place hp ho t.append
  rw [openFile_of_place hp ho]
  refine ⟨h.files.nodeAt p, ⟨?_, _, Array.getElem?_push_size, rfl, ?_⟩, hs.tail_avoiding hp⟩
  · rw [Files.kept, hc]
    exact Files.fileAt_openForWriting hopen hc
  · cases ha : t.append <;> simp [OpenFile.position, Files.kept, ha]

theorem content?_openFile (hs : h.files.Separate avoid (t :: ts)) {u : Target} (hu : u ∈ ts)
    (hr : (h.files.content? u.path).isSome) :
    (h.openFile t).2.files.content? u.path = h.files.content? u.path := by
  obtain ⟨p, hp, ho, -⟩ := hs.places t List.mem_cons_self
  obtain ⟨content, hc⟩ := Option.isSome_iff_exists.1 hr
  rw [openFile_of_place hp ho, hc]
  exact hs.content?_openedAt hp hu hc

theorem ends_openAll (hs : h.files.Separate avoid ts)
    (hr : ∀ t ∈ ts, (h.files.content? t.path).isSome) {n : Nat} (ht : ts[n]? = some t) :
    ∃ i, (h.openAll ts).Ends (h.opened.size + n) t.path i (h.files.kept t) ∧
      ∀ m, m < ts.length → m ≠ n → (h.openAll ts).Clear (· = i) [] (.file (h.opened.size + m)) := by
  induction ts generalizing h n with
  | nil => simp at ht
  | cons first ts ih =>
    obtain ⟨old, hold⟩ := Option.isSome_iff_exists.1 (hr first List.mem_cons_self)
    obtain ⟨i, hi, hrest⟩ := ends_openFile hs hold
    have hfirst : (h.openAll (first :: ts)).Ends h.opened.size first.path i (h.files.kept first) :=
      hi.openAll hrest (Or.inr rfl)
    have hlater : ∀ m, m < ts.length →
        (h.openAll (first :: ts)).Clear (fun j => avoid j ∨ j = i) []
          (.file (h.opened.size + (m + 1))) := by
      intro m hm
      rw [← List.append_nil ts] at hrest
      have hc := clear_openAll_opened hrest hm
      rw [size_openFile hs, Nat.add_assoc, Nat.add_comm 1 m] at hc
      exact hc
    cases n with
    | zero =>
      obtain rfl : first = t := by simpa using ht
      refine ⟨i, hfirst, ?_⟩
      intro m hm hne
      obtain ⟨m, rfl⟩ := Nat.exists_eq_succ_of_ne_zero hne
      obtain ⟨file, hf, hsize, ha, hp⟩ := hlater m (Nat.lt_of_succ_lt_succ hm)
      exact ⟨file, hf, hsize, fun hj => ha (Or.inr hj), hp⟩
    | succ n =>
      have hkeep : ∀ u ∈ ts, (h.openFile first).2.files.content? u.path =
          h.files.content? u.path := fun u hu =>
        content?_openFile hs hu (hr u (List.mem_cons_of_mem _ hu))
      have hrest' : ∀ u ∈ ts, ((h.openFile first).2.files.content? u.path).isSome := by
        intro u hu
        rw [hkeep u hu]
        exact hr u (List.mem_cons_of_mem _ hu)
      have ht' : ts[n]? = some t := by simpa using ht
      obtain ⟨j, hj, hothers⟩ := ih (separate_openFile hs) hrest' ht'
      have hmem : t ∈ ts := List.mem_of_getElem? ht'
      have hcontent : (h.openFile first).2.files.kept t = h.files.kept t := by
        rw [Files.kept, Files.kept, hkeep t hmem]
      rw [size_openFile hs, hcontent, Nat.add_assoc, Nat.add_comm 1 n] at hj
      refine ⟨j, hj, ?_⟩
      intro m hm hne
      cases m with
      | zero =>
        -- nothing that is opened later is the first file, so the first file is none of those
        have hlt : n < ts.length := (List.getElem?_eq_some_iff.1 ht').1
        have hij : i ≠ j := fun heq => hj.not_avoided (hlater n hlt) (Or.inr heq.symm)
        exact hfirst.clear_of_ne hij
      | succ m =>
        have hc := hothers m (Nat.lt_of_succ_lt_succ hm) (by omega)
        rw [size_openFile hs, Nat.add_assoc, Nat.add_comm 1 m] at hc
        exact hc

theorem grown_openAll (hs : h.files.Separate avoid ts) :
    Files.Grown (fun i => ∃ t ∈ ts, h.files.place t.path = .ok (.found i))
      (fun dir name => ∃ t ∈ ts, h.files.place t.path = .ok (.vacant dir name))
      h.files (h.openAll ts).files := by
  induction ts generalizing h with
  | nil => exact Files.Grown.refl _ _ _
  | cons t ts ih =>
    obtain ⟨p, hp, ho, -⟩ := hs.places t List.mem_cons_self
    have hrest := ih (separate_openFile hs)
    have hplace : ∀ u ∈ ts, (h.openFile t).2.files.place u.path = h.files.place u.path := by
      intro u hu
      obtain ⟨q, hq, -, -, -, hq'⟩ := hs.place_tail hp hu
      rw [openFile_of_place hp ho, hq]
      exact hq'
    have hfirst : Files.Grown (fun i => p = .found i) (fun dir name => p = .vacant dir name)
        h.files (h.openFile t).2.files := by
      rw [openFile_of_place hp ho]
      exact Files.grown_openedAt h.files t.append p
    refine (hfirst.mono ?_ ?_).trans hrest ?_ ?_
    · rintro i rfl
      exact ⟨t, List.mem_cons_self, hp⟩
    · rintro dir name rfl
      exact ⟨t, List.mem_cons_self, hp⟩
    · rintro i - ⟨u, hu, hi⟩
      exact ⟨u, List.mem_cons_of_mem _ hu, hplace u hu ▸ hi⟩
    · rintro dir name ⟨u, hu, hv⟩
      exact ⟨u, List.mem_cons_of_mem _ hu, hplace u hu ▸ hv⟩

theorem grown_play (hb : ∀ i, avoid i → i < h.files.nodes.size) {ws : List (Sink × Bytes)}
    (hc : ∀ w ∈ ws, h.Clear avoid [] w.1) :
    Files.Grown (fun i => ¬ avoid i) (fun _ _ => False) h.files (h.play ws).files := by
  induction ws generalizing h with
  | nil => exact Files.Grown.refl _ _ _
  | cons w ws ih =>
    obtain ⟨sink, data⟩ := w
    have hs : h.files.Separate avoid [] := .nil hb
    have hrest := ih (separate_write hs sink data).bound fun v hv =>
      clear_write hs (hc v (List.mem_cons_of_mem _ hv)) sink data
    have hstep : Files.Grown (fun i => ¬ avoid i) (fun _ _ => False) h.files
        (h.write sink data).2.files := by
      rcases write_cases h sink data with ⟨hf, -⟩ | ⟨handle, file, rfl, hfile, hf, -⟩
      · rw [hf]
        exact Files.Grown.refl _ _ _
      · obtain ⟨file', hfile', -, ha, -⟩ := hc _ List.mem_cons_self
        rw [hfile] at hfile'
        cases hfile'
        rw [hf]
        refine (Files.grown_writeAt h.files file.node file.position data).mono ?_ fun _ _ => id
        rintro i rfl
        exact ha
    exact hstep.trans hrest (fun _ _ => id) fun _ _ => id

end Opening

end Host

end PipeShell
