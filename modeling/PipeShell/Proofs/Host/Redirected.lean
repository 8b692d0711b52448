import PipeShell.Proofs.Host.Handles

/-!
# Redirected output

Channels that go to paths of the same text have one open file between them, so that each stands
behind what the other has written. Channels that go to different files never meet. Either way the
writes to a file are found in it in the order in which they were made.
-/

namespace PipeShell

namespace Redirects

def target? (r : Redirects) : Channel → Option Target
  | .stdout => r.stdout
  | .stderr => r.stderr

def carrier? (r : Redirects) : Channel → Option Target
  | .stdout => r.stdout
  | .stderr => if Host.samePath r then r.stdout else r.stderr

def Spares (r : Redirects) (f : Files) (i : Inode) : Prop :=
  i < f.nodes.size ∧ ∀ t ∈ r.targets, f.place t.path ≠ .ok (.found i)

theorem sink_opened (r : Redirects) (streams : Streams) (handle : Nat) {channel : Channel}
    (hk : r.keeps channel = false) :
    ∃ n t, r.targets[n]? = some t ∧ r.carrier? channel = some t ∧
      (streams.replace (r.opened handle)).sink channel = .file (handle + n) := by
  obtain ⟨stdout, stderr⟩ := r
  cases channel with
  | stdout =>
    cases stdout with
    | none => cases hk
    | some t => exact ⟨0, t, rfl, rfl, rfl⟩
  | stderr =>
    cases stderr with
    | none => cases hk
    | some u =>
      cases stdout with
      | none => exact ⟨0, u, rfl, rfl, rfl⟩
      | some t =>
        by_cases hp : Host.samePath ⟨some t, some u⟩
        · exact ⟨0, t, rfl, by simp [carrier?, hp], by simp [Streams.replace, opened, hp]⟩
        · exact ⟨1, u, by simp [targets, hp], by simp [carrier?, hp],
            by simp [Streams.replace, opened, hp]⟩

theorem samePath_iff {r : Redirects} :
    Host.samePath r = true ↔
      ∃ out err, r.stdout = some out ∧ r.stderr = some err ∧ out.path = err.path := by
  obtain ⟨stdout, stderr⟩ := r
  cases stdout <;> cases stderr <;> simp [Host.samePath]

theorem sink_opened_shared {r : Redirects} (hp : Host.samePath r = true) (streams : Streams)
    (handle : Nat) (channel : Channel) :
    (streams.replace (r.opened handle)).sink channel = .file handle := by
  obtain ⟨out, err, hout, -, -⟩ := samePath_iff.1 hp
  cases channel with
  | stdout => simp [Streams.replace, opened, hout]
  | stderr => simp [Streams.replace, opened, hp]

theorem sink_opened_inj {r : Redirects} (hp : Host.samePath r = false) (streams : Streams)
    (handle : Nat) {c d : Channel} (hc : r.keeps c = false) (hd : r.keeps d = false)
    (h : (streams.replace (r.opened handle)).sink c = (streams.replace (r.opened handle)).sink d) :
    c = d := by
  obtain ⟨stdout, stderr⟩ := r
  cases c <;> cases d <;> cases stdout <;> cases stderr <;>
    simp_all [keeps, Streams.replace, opened]

end Redirects

namespace Streams

variable {streams : Streams} {channel : Channel} {ws : List (Channel × Bytes)}

theorem received_of_shared {sink : Sink} (hs : ∀ w ∈ ws, streams.sink w.1 = sink) :
    Host.received sink (streams.deliver ws) = ws.flatMap Prod.snd := by
  induction ws with
  | nil => rfl
  | cons w ws ih =>
    rw [deliver_cons, Host.received, if_pos (hs w List.mem_cons_self),
      ih fun v hv => hs v (List.mem_cons_of_mem _ hv), List.flatMap_cons]

theorem received_of_apart
    (hs : ∀ w ∈ ws, streams.sink w.1 = streams.sink channel → w.1 = channel) :
    Host.received (streams.sink channel) (streams.deliver ws) = said channel ws := by
  induction ws with
  | nil => rfl
  | cons w ws ih =>
    obtain ⟨written, data⟩ := w
    have hiff : streams.sink written = streams.sink channel ↔ written = channel :=
      ⟨hs _ List.mem_cons_self, congrArg streams.sink⟩
    rw [deliver_cons, Host.received, said, ih fun v hv => hs v (List.mem_cons_of_mem _ hv)]
    simp only [hiff]

end Streams

namespace Host

def recorder (h : Host) : Option Inode :=
  (h.logFile.filter fun log => log.threshold.passes .debug).map LogFile.node

theorem grown_note (h : Host) {e : Log.Entry} (he : e.level = .debug) :
    Files.Grown (fun i => h.recorder = some i) (fun _ _ => False) h.files (h.note e).files := by
  rw [note]
  cases hl : h.logFile with
  | none => exact Files.Grown.refl _ _ _
  | some log =>
    by_cases hp : log.threshold.passes .debug
    · have hnode : h.recorder = some log.node := by simp [recorder, hl, hp]
      have hg := Files.grown_writeAt h.files log.node none (Text.encode (logLine h.stamp e))
      simp only [he, hp, if_true]
      cases hw : h.files.writeAt log.node none (Text.encode (logLine h.stamp e)) with
      | mk result files =>
        rw [hw] at hg
        have hfiles := hg.mono (fun i hi => hi ▸ hnode) fun _ _ => id
        cases result with
        | error e => exact hfiles
        | ok offset => exact hfiles
    · simp only [he, hp, Bool.false_eq_true, if_false]
      exact Files.Grown.refl _ _ _

theorem logFile_openAll (h : Host) (ts : List Target) : (h.openAll ts).logFile = h.logFile := by
  induction ts generalizing h with
  | nil => rfl
  | cons t ts ih =>
    refine (ih (h.openFile t).2).trans ?_
    rw [openFile]
    cases h.files.openForWriting t.path t.append with
    | error e => rfl
    | ok made => rfl

/-- The targets open as regular files. Unless both have the same text they are different files, and
none of them is the log. -/
structure Regular (h : Host) (r : Redirects) : Prop where
  opens : ∀ t ∈ r.targets, (h.files.openForWriting t.path t.append).isOk
  regular : ∀ t ∈ r.targets, (h.files.content? t.path).isSome
  distinct : r.targets.Pairwise fun t u => h.files.place t.path ≠ h.files.place u.path
  recorded : ∀ i, h.recorder = some i → r.Spares h.files i

section Redirect

variable {h : Host} {r : Redirects}

theorem Regular.separate (hr : h.Regular r) : h.files.Separate (r.Spares h.files) r.targets := by
  refine ⟨?_, hr.distinct, fun i hi => hi.1⟩
  intro t ht
  have hopen := hr.opens t ht
  cases hm : h.files.openForWriting t.path t.append with
  | error e =>
    rw [hm] at hopen
    cases hopen
  | ok made =>
    obtain ⟨p, hp, ho⟩ := Files.place_of_openForWriting hm
    refine ⟨p, hp, ho, ?_⟩
    rintro i hi rfl
    exact hi.2 t ht hp

theorem Regular.openTargets (hr : h.Regular r) :
    ∃ k, h.openTargets r = (.ok (r.opened h.opened.size), k) ∧
      k.opened = (h.openAll r.targets).opened ∧
      Files.Grown (fun i => h.recorder = some i) (fun _ _ => False) (h.openAll r.targets).files
        k.files := by
  have hs := hr.separate
  rw [← List.append_nil r.targets] at hs
  refine ⟨_, openTargets_of_separate r hs, ?_⟩
  split_ifs
  · refine ⟨(noted_note _ _).opened, ?_⟩
    have hg := grown_note (h.openAll r.targets) (e := redirectEntry r) rfl
    rwa [recorder, logFile_openAll] at hg
  · exact ⟨rfl, Files.Grown.refl _ _ _⟩

theorem Clear.frame {k : Host} {avoid : Inode → Prop} {sink : Sink} (hc : h.Clear avoid [] sink)
    (ho : k.opened = h.opened) (hs : h.files.nodes.size ≤ k.files.nodes.size) :
    k.Clear avoid [] sink := by
  cases sink with
  | terminalOut => trivial
  | terminalErr => trivial
  | buffer n => trivial
  | file handle =>
    obtain ⟨file, hf, hsize, ha, -⟩ := hc
    exact ⟨file, ho ▸ hf, Nat.lt_of_lt_of_le hsize hs, ha, fun _ ht => absurd ht List.not_mem_nil⟩

theorem Regular.clear_openAll (hr : h.Regular r) {n : Nat} (hn : n < r.targets.length) :
    (h.openAll r.targets).Clear (r.Spares h.files) [] (.file (h.opened.size + n)) := by
  have hs := hr.separate
  rw [← List.append_nil r.targets] at hs
  exact clear_openAll_opened hs hn

section Opened

variable {k : Host} (hr : h.Regular r) (ho : k.opened = (h.openAll r.targets).opened)
  (hg : Files.Grown (fun i => h.recorder = some i) (fun _ _ => False)
    (h.openAll r.targets).files k.files) (streams : Streams)

include hr ho hg

theorem Regular.ends {channel : Channel} (hk : r.keeps channel = false) :
    ∃ handle i t, r.carrier? channel = some t ∧
      (streams.replace (r.opened h.opened.size)).sink channel = .file handle ∧
      k.Ends handle t.path i (h.files.kept t) ∧
      ∀ other, r.keeps other = false →
        (streams.replace (r.opened h.opened.size)).sink other = .file handle ∨
          k.Clear (· = i) [] ((streams.replace (r.opened h.opened.size)).sink other) := by
  obtain ⟨n, t, ht, hcarrier, hs⟩ := r.sink_opened streams h.opened.size hk
  obtain ⟨i, hi, hothers⟩ := ends_openAll hr.separate hr.regular ht
  have hspared := hi.not_avoided (hr.clear_openAll (List.getElem?_eq_some_iff.1 ht).1)
  refine ⟨h.opened.size + n, i, t, hcarrier, hs, ?_, ?_⟩
  · exact hi.frame hg (fun hrec => hspared (hr.recorded i hrec)) (by rw [ho])
  · intro other hother
    obtain ⟨m, u, hu, -, hs'⟩ := r.sink_opened streams h.opened.size hother
    rw [hs']
    by_cases hmn : m = n
    · exact Or.inl (by rw [hmn])
    · exact Or.inr ((hothers m (List.getElem?_eq_some_iff.1 hu).1 hmn).frame ho hg.size)

variable {ws : List (Channel × Bytes)} (hw : ∀ w ∈ ws, r.keeps w.1 = false)

include hw

theorem Regular.ends_play {channel : Channel} (hk : r.keeps channel = false) :
    ∃ handle i t, r.carrier? channel = some t ∧
      (streams.replace (r.opened h.opened.size)).sink channel = .file handle ∧
      (k.play ((streams.replace (r.opened h.opened.size)).deliver ws)).Ends handle t.path i
        (h.files.kept t ++ received ((streams.replace (r.opened h.opened.size)).sink channel)
          ((streams.replace (r.opened h.opened.size)).deliver ws)) := by
  obtain ⟨handle, i, t, hcarrier, hs, hends, hothers⟩ := hr.ends ho hg streams hk
  refine ⟨handle, i, t, hcarrier, hs, ?_⟩
  rw [hs]
  refine hends.play ?_
  intro w hmem
  obtain ⟨v, hv, rfl⟩ := List.mem_map.1 hmem
  exact hothers v.1 (hw v hv)

theorem Regular.grown_play :
    Files.Grown (fun i => ¬ r.Spares h.files i ∨ h.recorder = some i)
      (fun dir name => ∃ t ∈ r.targets, h.files.place t.path = .ok (.vacant dir name))
      h.files (k.play ((streams.replace (r.opened h.opened.size)).deliver ws)).files := by
  have hopen := Host.grown_openAll hr.separate
  have hsize : h.files.nodes.size ≤ k.files.nodes.size := Nat.le_trans hopen.size hg.size
  have hclear : ∀ w ∈ (streams.replace (r.opened h.opened.size)).deliver ws,
      k.Clear (r.Spares h.files) [] w.1 := by
    intro w hmem
    obtain ⟨v, hv, rfl⟩ := List.mem_map.1 hmem
    obtain ⟨n, t, ht, -, hs⟩ := r.sink_opened streams h.opened.size (hw v hv)
    simp only [hs]
    exact (hr.clear_openAll (List.getElem?_eq_some_iff.1 ht).1).frame ho hg.size
  have hplay := Host.grown_play (fun i hi => Nat.lt_of_lt_of_le hi.1 hsize) hclear
  have htargets : ∀ i, (∃ t ∈ r.targets, h.files.place t.path = .ok (.found i)) →
      ¬ r.Spares h.files i ∨ h.recorder = some i := by
    rintro i ⟨t, ht, hi⟩
    exact Or.inl fun hs => hs.2 t ht hi
  exact ((hopen.mono htargets fun _ _ => id).trans hg (fun _ _ => Or.inr)
    fun _ _ => False.elim).trans hplay (fun _ _ => Or.inl) fun _ _ => False.elim

end Opened

end Redirect

/-- Output that is redirected to regular files is neither lost nor overwritten by the other channel:
every write succeeds, and in the end a file holds what opening it has left there and then all writes
to it in their order. Channels whose paths have the same text share one file, which is opened as the
first of them says. Other files, the log apart, stay as they are, and no others are made. -/
theorem redirected_output_kept (h : Host) (r : Redirects) (hr : h.Regular r) :
    ∃ opened k, h.openTargets r = (.ok opened, k) ∧
      ∀ (streams : Streams) (ws : List (Channel × Bytes)), (∀ w ∈ ws, r.keeps w.1 = false) →
        (∀ out err, r.stdout = some out → r.stderr = some err → out.path = err.path →
          (k.play ((streams.replace opened).deliver ws)).files.Holds out.path
            (h.files.kept out ++ ws.flatMap Prod.snd)) ∧
        ((∀ out err, r.stdout = some out → r.stderr = some err → out.path ≠ err.path) →
          ∀ channel t, r.target? channel = some t →
            (k.play ((streams.replace opened).deliver ws)).files.Holds t.path
              (h.files.kept t ++ said channel ws)) ∧
        (∀ done channel data rest, ws = done ++ (channel, data) :: rest →
          ((k.play ((streams.replace opened).deliver done)).write
            ((streams.replace opened).sink channel) data).1 = .ok ()) ∧
        (∀ path content, h.files.Holds path content →
          (∀ i, h.files.find path = .ok i → r.Spares h.files i ∧ h.recorder ≠ some i) →
          (k.play ((streams.replace opened).deliver ws)).files.Holds path content) ∧
        Files.Grown (fun i => ¬ r.Spares h.files i ∨ h.recorder = some i)
          (fun dir name => ∃ t ∈ r.targets, h.files.place t.path = .ok (.vacant dir name))
          h.files (k.play ((streams.replace opened).deliver ws)).files := by
  obtain ⟨k, hopen, ho, hg⟩ := hr.openTargets
  refine ⟨r.opened h.opened.size, k, hopen, ?_⟩
  intro streams ws hw
  have hgrown := hr.grown_play ho hg streams hw
  refine ⟨?_, ?_, ?_, ?_, hgrown⟩
  · intro out err hout herr hpath
    have hp : samePath r = true := Redirects.samePath_iff.2 ⟨out, err, hout, herr, hpath⟩
    have hk : r.keeps .stdout = false := by simp [Redirects.keeps, hout]
    obtain ⟨handle, i, t, hcarrier, -, hends⟩ := hr.ends_play ho hg streams hw hk
    obtain rfl : out = t := Option.some.inj (hout.symm.trans hcarrier)
    have hall : ∀ w ∈ ws, (streams.replace (r.opened h.opened.size)).sink w.1 =
        (streams.replace (r.opened h.opened.size)).sink .stdout := by
      intro w _
      rw [Redirects.sink_opened_shared hp, Redirects.sink_opened_shared hp]
    rw [Streams.received_of_shared hall] at hends
    exact hends.holds
  · intro hne channel t ht
    have hp : samePath r = false := by
      rw [← Bool.not_eq_true, Redirects.samePath_iff]
      rintro ⟨out, err, hout, herr, hpath⟩
      exact hne out err hout herr hpath
    have hk : r.keeps channel = false := by
      cases channel <;> simp_all [Redirects.keeps, Redirects.target?]
    obtain ⟨handle, i, u, hcarrier, -, hends⟩ := hr.ends_play ho hg streams hw hk
    have htu : t = u := by
      cases channel <;> simp_all [Redirects.carrier?, Redirects.target?]
    rw [Streams.received_of_apart fun w hmem =>
      Redirects.sink_opened_inj hp streams _ (hw w hmem) hk, ← htu] at hends
    exact hends.holds
  · rintro done channel data rest rfl
    have hdone : ∀ w ∈ done, r.keeps w.1 = false := fun w hmem =>
      hw w (List.mem_append_left _ hmem)
    obtain ⟨handle, i, t, -, hs, hends⟩ := hr.ends_play ho hg streams hdone
      (hw (channel, data) (by simp))
    rw [hs]
    exact (hends.write data).1
  · intro path content hholds hspared
    refine hholds.grown hgrown ?_
    rintro i hi (hn | hrec)
    · exact hn (hspared i hi).1
    · exact (hspared i hi).2 hrec

theorem redirected_output_kept_noted :
    let files : Files := ⟨#[.dir 0 [("log", 1), ("a", 2), ("c", 3)] false 0o755,
      .file [] 0o644, .file [97] 0o644, .file [99] 0o644], 0⟩
    let h : Host := { files := files, logFile := some ⟨.debug, 1, false⟩ }
    (∃ opened k, h.openTargets ⟨some ⟨"/a", true⟩, some ⟨"/a", false⟩⟩ = (.ok opened, k) ∧
      (k.play ((Streams.terminal.replace opened).deliver
        [(.stdout, [1]), (.stderr, [2, 3]), (.stdout, [4])])).files.Holds "/a" [97, 1, 2, 3, 4]) ∧
    ∃ opened k, h.openTargets ⟨some ⟨"/a", false⟩, some ⟨"/b", true⟩⟩ = (.ok opened, k) ∧
      (k.play ((Streams.terminal.replace opened).deliver
        [(.stdout, [1]), (.stderr, [2, 3]), (.stdout, [4])])).files.Holds "/a" [1, 4] ∧
      (k.play ((Streams.terminal.replace opened).deliver
        [(.stdout, [1]), (.stderr, [2, 3]), (.stdout, [4])])).files.Holds "/b" [2, 3] ∧
      (k.play ((Streams.terminal.replace opened).deliver
        [(.stdout, [1]), (.stderr, [2, 3]), (.stdout, [4])])).files.Holds "/c" [99] := by
  intro files h
  have hlog : ∀ i, h.recorder = some i → i = 1 := by
    intro i hi
    exact (Option.some.inj hi).symm
  have hshared : h.Regular ⟨some ⟨"/a", true⟩, some ⟨"/a", false⟩⟩ :=
    ⟨by decide +kernel, by decide +kernel, by decide +kernel,
      fun i hi => hlog i hi ▸ ⟨by decide +kernel, by decide +kernel⟩⟩
  have hapart : h.Regular ⟨some ⟨"/a", false⟩, some ⟨"/b", true⟩⟩ :=
    ⟨by decide +kernel, by decide +kernel, by decide +kernel,
      fun i hi => hlog i hi ▸ ⟨by decide +kernel, by decide +kernel⟩⟩
  constructor
  · obtain ⟨opened, k, hopen, hrun⟩ := redirected_output_kept h _ hshared
    obtain ⟨hheld, -⟩ := hrun .terminal [(.stdout, [1]), (.stderr, [2, 3]), (.stdout, [4])]
      (by decide)
    exact ⟨opened, k, hopen, hheld _ _ rfl rfl rfl⟩
  · obtain ⟨opened, k, hopen, hrun⟩ := redirected_output_kept h _ hapart
    obtain ⟨-, hheld, -, hothers, -⟩ :=
      hrun .terminal [(.stdout, [1]), (.stderr, [2, 3]), (.stdout, [4])] (by decide)
    have hne : ∀ out err : Target, some ⟨"/a", false⟩ = some out → some ⟨"/b", true⟩ = some err →
        out.path ≠ err.path := by
      rintro _ _ ⟨⟩ ⟨⟩
      decide
    have hthird : h.files.find "/c" = .ok 3 := by decide +kernel
    refine ⟨opened, k, hopen, hheld hne .stdout _ rfl, hheld hne .stderr _ rfl, ?_⟩
    refine hothers "/c" [99] ⟨0o644, by decide +kernel⟩ ?_
    intro i hi
    obtain rfl : 3 = i := Except.ok.inj (hthird.symm.trans hi)
    exact ⟨⟨by decide +kernel, by decide +kernel⟩, by decide +kernel⟩

end Host

end PipeShell
