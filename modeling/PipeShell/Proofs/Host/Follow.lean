import PipeShell.Proofs.Host.Mirror

/-!
# Following a run

A run is followed from the host it begins on. It opens targets, which are separate files, and writes
to sinks; the files it leaves are those of a host without a log on which all targets are opened
first and the writes are made afterwards. What it writes to sinks that were there from the beginning
is delivered in the same order. Programs are found as they were at the beginning.
-/

namespace PipeShell

namespace Search.Cache

theorem lookup_congr {f g : Files} (he : ∀ path, g.isExecutable path = f.isExecutable path)
    (c : Cache) (path name : String) : c.lookup g path name = c.lookup f path name := by
  have hdirect : direct? g name = direct? f name := by rw [direct?, direct?, he]
  have hcandidate : candidate? g name = candidate? f name := by
    funext dir
    simp only [candidate?, he]
  have hfind : find? g path name = find? f path name := by rw [find?, find?, hcandidate]
  simp only [lookup, hdirect, hfind]

theorem forPath_lookup (c : Cache) (f : Files) (path : String) {other : String}
    (hempty : other.isEmpty = false) (hslash : hasSlash other = false) :
    (c.lookup f path other).2.forPath path = (c.lookup f path other).2 ∧
      ∀ name, (c.lookup f path other).2.entries.lookup name = (c.forPath path).entries.lookup name ∨
        name = other ∧ (c.forPath path).entries.lookup name = none ∧
          (c.lookup f path other).2.entries.lookup name = some (find? f path name) := by
  have hpath := c.searchPath_forPath path
  simp only [lookup, hempty, hslash, Bool.false_eq_true, if_false]
  cases hl : (c.forPath path).entries.lookup other with
  | some found => exact ⟨by rw [forPath, if_pos hpath.symm], fun name => Or.inl rfl⟩
  | none =>
    refine ⟨by rw [forPath, if_pos hpath.symm], ?_⟩
    intro name
    by_cases hname : name = other
    · subst hname
      exact Or.inr ⟨rfl, hl, List.lookup_cons_self⟩
    · have hne : (name == other) = false := by simpa using hname
      exact Or.inl (by simp [List.lookup_cons, hne])

theorem lookup_again (c : Cache) (f : Files) (path other name : String) :
    ((c.lookup f path other).2.lookup f path name).1 = (c.lookup f path name).1 := by
  cases hname : name.isEmpty with
  | true => simp [lookup, hname]
  | false =>
    cases hdirect : hasSlash name with
    | true => simp [lookup, hname, hdirect]
    | false =>
      cases hempty : other.isEmpty with
      | true => rw [show (c.lookup f path other).2 = c by simp [lookup, hempty]]
      | false =>
        cases hslash : hasSlash other with
        | true => rw [show (c.lookup f path other).2 = c by simp [lookup, hempty, hslash]]
        | false =>
          obtain ⟨hpath, hentries⟩ := forPath_lookup c f path hempty hslash
          generalize (c.lookup f path other).2 = c' at hpath hentries ⊢
          simp only [lookup, hname, hdirect, hpath, Bool.false_eq_true, if_false]
          rcases hentries name with h | ⟨-, hnone, h⟩
          · rw [h]
            cases (c.forPath path).entries.lookup name <;> rfl
          · rw [h, hnone]

end Search.Cache

namespace Host

theorem cache_note (h : Host) (e : Log.Entry) : (h.note e).cache = h.cache := by
  obtain ⟨files, echoed, -, -, hn⟩ := note_eq h e
  rw [hn]

theorem cache_noteAll (h : Host) (es : List Log.Entry) : (h.noteAll es).cache = h.cache := by
  induction es generalizing h with
  | nil => rfl
  | cons e es ih => exact (ih (h.note e)).trans (cache_note h e)

/-- What is remembered of searches answers as it did on the first host. -/
structure Recalls (base h : Host) : Prop where
  environment : h.environment = base.environment
  answers : ∀ name, (h.cache.lookup base.files base.environment.searchPath name).1 =
    (base.cache.lookup base.files base.environment.searchPath name).1

namespace Recalls

variable {base h k : Host}

theorem of_eq (hr : Recalls base h) (hc : k.cache = h.cache) (hv : k.environment = h.environment) :
    Recalls base k := ⟨hv.trans hr.environment, fun name => by rw [hc, hr.answers]⟩

theorem findProgram (hr : Recalls base h)
    (he : ∀ path, h.files.isExecutable path = base.files.isExecutable path) (name : String) :
    (h.findProgram name).1 = (base.findProgram name).1 ∧ Recalls base (h.findProgram name).2 := by
  have hsame := Search.Cache.lookup_congr he h.cache base.environment.searchPath name
  constructor
  · change (h.cache.lookup h.files h.environment.searchPath name).1 = _
    rw [hr.environment, hsame, hr.answers]
    rfl
  · have hcache : (h.findProgram name).2.cache =
        (h.cache.lookup base.files base.environment.searchPath name).2 := by
      rw [← hsame, ← hr.environment]
      exact cache_noteAll _ _
    refine ⟨(noted_findProgram h name).environment.trans hr.environment, ?_⟩
    intro other
    rw [hcache, Search.Cache.lookup_again, hr.answers]

end Recalls

def muted (h : Host) : Host := { h with logFile := none }

/-- A run has opened the targets `done`, has still to open `ts`, and has written `ws`. -/
structure Follows (base : Host) (avoid : Inode → Prop) (done ts : List Target)
    (ws : List (Sink × Bytes)) (h : Host) : Prop where
  tracks : Tracks avoid (base.logFile.map LogFile.node) base.files ts
    ((base.muted.openAll done).play ws) h
  separate : base.files.Separate avoid (done ++ ts)
  clear : ∀ w ∈ ws, (base.muted.openAll done).Clear avoid ts w.1
  delivers : Delivers base base (ws.filter fun w => base.Has w.1) h
  recalls : Recalls base h
  blockedOut : h.blockedOut = base.blockedOut

theorem size_write (h : Host) (sink : Sink) (data : Bytes) :
    (h.write sink data).2.opened.size = h.opened.size := by
  rcases write_cases h sink data with ⟨-, ho⟩ | ⟨handle, file, -, -, -, ho⟩
  · rw [ho]
  · rw [ho]
    cases (h.files.writeAt file.node file.position data).1 <;> simp [advance]

theorem size_play (h : Host) (ws : List (Sink × Bytes)) :
    (h.play ws).opened.size = h.opened.size := by
  induction ws generalizing h with
  | nil => rfl
  | cons w ws ih => exact (ih (h.write w.1 w.2).2).trans (size_write h w.1 w.2)

theorem clear_play {avoid : Inode → Prop} {h : Host} {ts : List Target} {sink : Sink}
    (hs : h.files.Separate avoid ts) (hc : h.Clear avoid ts sink) (ws : List (Sink × Bytes)) :
    (h.play ws).Clear avoid ts sink := by
  induction ws generalizing h with
  | nil => exact hc
  | cons w ws ih => exact ih (separate_write hs w.1 w.2) (clear_write hs hc w.1 w.2)

namespace Follows

variable {base h k : Host} {avoid : Inode → Prop} {done ts : List Target}
  {ws : List (Sink × Bytes)}

theorem start (hl : ∀ i, base.logFile.map LogFile.node = some i → avoid i)
    (hs : base.files.Separate avoid ts) : Follows base avoid [] ts [] base where
  tracks := ⟨⟨rfl, rfl, .refl _ _, rfl⟩, hl, hs, .refl _ _ _⟩
  separate := hs
  clear := by simp
  delivers := .done base
  recalls := ⟨rfl, fun _ => rfl⟩
  blockedOut := rfl

theorem cleared (hf : Follows base avoid done ts ws h) (hc : base.Cleared) : h.Cleared := by
  intro b hb
  exact hc b (hf.blockedOut ▸ hb)

theorem within (hf : Follows base avoid done ts ws h) : Within base h := hf.delivers.within

theorem size (hf : Follows base avoid done ts ws h) :
    h.opened.size = base.opened.size + done.length := by
  rw [hf.tracks.opened, size_play, size_openAll (h := base.muted) hf.separate]
  rfl

theorem isExecutable (hf : Follows base avoid done ts ws h) (path : String) :
    h.files.isExecutable path = base.files.isExecutable path :=
  Files.isExecutable_eq hf.tracks.grown_files path

theorem of_noted (hf : Follows base avoid done ts ws h) (hn : Noted h k)
    (hc : k.cache = h.cache) : Follows base avoid done ts ws k where
  tracks := hf.tracks.of_noted hn
  separate := hf.separate
  clear := hf.clear
  delivers := hf.delivers.trans_quiet (quiet_of_noted base hn)
  recalls := hf.recalls.of_eq hc hn.environment
  blockedOut := hn.blockedOut.trans hf.blockedOut

theorem note (hf : Follows base avoid done ts ws h) (e : Log.Entry) :
    Follows base avoid done ts ws (h.note e) := hf.of_noted (noted_note h e) (cache_note h e)

theorem findProgram (hf : Follows base avoid done ts ws h) (name : String) :
    (h.findProgram name).1 = (base.findProgram name).1 ∧
      Follows base avoid done ts ws (h.findProgram name).2 := by
  obtain ⟨hfound, hrecalls⟩ := hf.recalls.findProgram hf.isExecutable name
  have hn := noted_findProgram h name
  exact ⟨hfound, hf.tracks.of_noted hn, hf.separate, hf.clear,
    hf.delivers.trans_quiet (quiet_of_noted base hn), hrecalls, hn.blockedOut.trans hf.blockedOut⟩

theorem of_quiet (hf : Follows base avoid done ts ws h) (hq : Quiet base h k)
    (hfiles : k.files = h.files) (ho : k.opened = h.opened) (hc : k.cache = h.cache)
    (hv : k.environment = h.environment) (hb : k.blockedOut = h.blockedOut) :
    Follows base avoid done ts ws k where
  tracks := hf.tracks.of_eq hfiles ho hq.logFile
  separate := hf.separate
  clear := hf.clear
  delivers := hf.delivers.trans_quiet hq
  recalls := hf.recalls.of_eq hc hv
  blockedOut := hb.trans hf.blockedOut

theorem launched (hf : Follows base avoid done ts ws h) {l : Launch} {image : Image}
    (hl : Launched l image h k) : Follows base avoid done ts ws k where
  tracks := hf.tracks.of_mirrors ⟨hf.tracks.muted, by rw [hl.logFile, hf.tracks.logNode],
    Mirrors.alike_logged hf.tracks.files hf.tracks.logNode hl.files, hl.opened.trans hf.tracks.opened⟩
  separate := hf.separate
  clear := hf.clear
  delivers := hf.delivers.trans_quiet (quiet_of_launched base hl)
  recalls := hf.recalls.of_eq hl.cache hl.environment
  blockedOut := hl.blockedOut.trans hf.blockedOut

theorem openTargets {r : Redirects} (hf : Follows base avoid done (r.targets ++ ts) ws h) :
    ∃ k, h.openTargets r = (.ok (r.opened (base.opened.size + done.length)), k) ∧
      Opening h k ∧ Follows base avoid (done ++ r.targets) ts ws k := by
  have hsize := hf.size
  rw [hf.tracks.opened] at hsize
  obtain ⟨k, ho, ht⟩ := hf.tracks.openTargets
  rw [hsize] at ho
  have hopening := opening_openTargets h r
  have hquiet := quiet_openTargets hf.within r
  rw [ho] at hopening hquiet
  have hmirror : (base.muted.openAll done).files.Separate avoid (r.targets ++ ts) :=
    separate_openAll (h := base.muted) hf.separate
  have hleft : ∀ w ∈ ws, (base.muted.openAll done).Clear avoid r.targets w.1 :=
    fun w hw => (hf.clear w hw).left
  refine ⟨k, ho, hopening, ?_, ?_, ?_, hf.delivers.trans_quiet hquiet, ?_, ?_⟩
  · -- On the mirror the new targets are opened before the writes that were made already.
    rw [openAll_play hmirror.left hleft] at ht
    rw [openAll, List.foldl_append]
    exact ht
  · rw [List.append_assoc]
    exact hf.separate
  · intro w hw
    rw [openAll, List.foldl_append]
    exact clear_openAll hmirror (hf.clear w hw)
  · obtain ⟨files, new, echoed, -, rfl⟩ := hopening
    exact hf.recalls.of_eq rfl rfl
  · obtain ⟨files, new, echoed, -, rfl⟩ := hopening
    exact hf.blockedOut

theorem play_append (h : Host) (ws vs : List (Sink × Bytes)) :
    h.play (ws ++ vs) = (h.play ws).play vs := List.foldl_append

theorem write (hf : Follows base avoid done ts ws h) {sink : Sink}
    (hc : (base.muted.openAll done).Clear avoid ts sink) (data : Bytes) :
    Follows base avoid done ts (ws ++ [(sink, data)]) (h.write sink data).2 := by
  have hmirror : (base.muted.openAll done).files.Separate avoid ts :=
    separate_openAll (h := base.muted) hf.separate
  obtain ⟨_, _, _, _, _, hrest⟩ := write_rest h sink data
  refine ⟨?_, hf.separate, ?_, ?_, ?_, ?_⟩
  · rw [play_append]
    exact hf.tracks.write (clear_play hmirror hc ws) data
  · intro w hw
    rcases List.mem_append.1 hw with hw | hw
    · exact hf.clear w hw
    · rw [List.mem_singleton.1 hw]
      exact hc
  · rw [List.filter_append]
    by_cases hs : base.Has sink
    · have hw := hf.delivers.trans (Delivers.single hs h data)
      simpa [hs] using hw
    · have hw := hf.delivers.trans_quiet (quiet_write (h := h) hs data)
      simpa [hs] using hw
  · rw [hrest]
    exact hf.recalls.of_eq rfl rfl
  · rw [hrest]
    exact hf.blockedOut

theorem read_eq {h' : Host} (hf : Follows base avoid done [] ws h)
    (hf' : Follows base avoid done [] ws h') {t : Target} (ht : t ∈ done) :
    h.files.read t.path = h'.files.read t.path := by
  obtain ⟨p, hp, -, hother⟩ := hf.separate.places t (List.mem_append_left _ ht)
  have hlead := Files.place_leads hf.tracks.grown t.path
  rw [hp] at hlead
  generalize hq : ((base.muted.openAll done).play ws).files.place t.path = q at hlead
  cases hlead with
  | @ok _ q hlead =>
    refine hf.tracks.files.read_eq hf'.tracks.files hq ?_
    intro i hi
    cases hlead with
    | same => exact hother i (hf.tracks.logged i hi)
    | @fills dir j name _ hnew =>
      -- The file was made by the run, and the log is older.
      rintro ⟨⟩
      exact Nat.not_lt.2 hnew.1 (hf.separate.bound i (hf.tracks.logged i hi))

end Follows

end Host

end PipeShell
