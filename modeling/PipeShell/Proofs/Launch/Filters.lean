import PipeShell.Proofs.Host.Follow

/-!
# Pipelines of filters

A filter only writes, and what it writes depends on its arguments and its whole input. Stages that
run such programs next to each other hand on what they write from pipe to pipe, and every write that
goes to a sink is the one that the filters make when they run one after the other.
-/

namespace PipeShell

abbrev Writers := String → List String → Bytes → List (Channel × Bytes)

def Programs.Filters (P : Programs) (F : Writers) : Prop :=
  ∀ program argv files input,
    (P program argv files input).deeds = (F program argv input).map fun x => .write x.1 x.2

def aimed (out : Option Sink) (err : Sink) : List (Channel × Bytes) → List (Sink × Bytes)
  | [] => []
  | (.stdout, data) :: w => (out.map fun sink => (sink, data)).toList ++ aimed out err w
  | (.stderr, data) :: w => (err, data) :: aimed out err w

structure Plan where
  stage : Stage
  image : Image

namespace Plan

def redirects (p : Plan) : Redirects := p.stage.command.redirects

def argv (p : Plan) : List String := p.stage.command.program :: p.stage.command.arguments

def writes (F : Writers) (p : Plan) (input : Bytes) : List (Channel × Bytes) :=
  F p.image.program p.image.argv input

def passed (F : Writers) (p : Plan) (input : Bytes) : Bytes :=
  if p.redirects.keeps .stdout then said .stdout (p.writes F input) else []

def out (streams : Streams) (p : Plan) (handle : Nat) (last : Bool) : Option Sink :=
  (p.redirects.opened handle).out.or (if last then some streams.out else none)

def err (streams : Streams) (p : Plan) (handle : Nat) : Sink :=
  (p.redirects.opened handle).err.getD streams.err

def launch (streams : Streams) (p : Plan) (handle : Nat) (last : Bool) (input : Inlet) : Launch :=
  ⟨p.stage, input, p.out streams handle last, p.err streams handle⟩

theorem out_eq_some {streams : Streams} {p : Plan} {handle : Nat} {last : Bool} {sink : Sink}
    (h : p.out streams handle last = some sink) :
    (streams.replace (p.redirects.opened handle)).out = sink := by
  unfold out at h
  unfold Streams.replace
  cases ho : (p.redirects.opened handle).out with
  | some opened => simpa [ho] using h
  | none =>
    cases last with
    | false => simp [ho] at h
    | true => simpa [ho] using h

theorem out_eq_none {streams : Streams} {p : Plan} {handle : Nat} {last : Bool}
    (h : p.out streams handle last = none) :
    last = false ∧ (streams.replace (p.redirects.opened handle)).out = streams.out := by
  unfold out at h
  unfold Streams.replace
  cases ho : (p.redirects.opened handle).out with
  | some opened => simp [ho] at h
  | none =>
    cases last with
    | false => simp
    | true => simp [ho] at h

end Plan

def targets (plans : List Plan) : List Target := plans.flatMap fun p => p.redirects.targets

/-- The writes of all stages. The first target has the given handle. -/
def wires (F : Writers) (streams : Streams) : List Plan → Nat → Bytes → List (Sink × Bytes)
  | [], _, _ => []
  | p :: rest, handle, input =>
    aimed (p.out streams handle rest.isEmpty) (p.err streams handle) (p.writes F input) ++
      wires F streams rest (handle + p.redirects.targets.length) (p.passed F input)

def kids (streams : Streams) : List Plan → Nat → Nat → Inlet → List Process
  | [], _, _, _ => []
  | p :: rest, handle, number, input =>
    Host.child (p.launch streams handle rest.isEmpty input) p.image number ::
      kids streams rest (handle + p.redirects.targets.length) (number + 1)
        (if (p.out streams handle rest.isEmpty).isNone then .pipe number else .null)

theorem aimed_cons (out : Option Sink) (err : Sink) (x : Channel × Bytes)
    (w : List (Channel × Bytes)) : aimed out err (x :: w) = aimed out err [x] ++ aimed out err w := by
  obtain ⟨channel, data⟩ := x
  cases channel <;> simp [aimed]

namespace Host

def Hidden (base : Host) : Outlet → Prop
  | .pipe _ => True
  | .sink (.buffer n) => base.buffers.size ≤ n
  | .sink _ => False

structure Aims (base : Host) (out : Option Sink) (err : Sink) (p : Process) : Prop where
  shown : ∀ sink, out = some sink → p.out = .sink sink
  hidden : out = none → base.Hidden p.out
  err : p.err = .sink err

namespace Follows

variable {base h k : Host} {avoid : Inode → Prop} {done ts : List Target}
  {ws : List (Sink × Bytes)} {out : Option Sink} {err : Sink} {p : Process}

theorem hidden (hf : Follows base avoid done ts ws h) {outlet : Outlet} (ho : base.Hidden outlet)
    (data : Bytes) : Follows base avoid done ts ws (h.writeOutlet outlet data).2 := by
  cases outlet with
  | pipe n => exact hf.of_quiet (Quiet.of_eq rfl rfl rfl rfl rfl rfl) rfl rfl rfl rfl rfl
  | sink sink =>
    cases sink with
    | buffer n =>
      have hn : ¬ base.Has (.buffer n) := Nat.not_lt.2 ho
      exact hf.of_quiet (quiet_write hn data) rfl rfl rfl rfl rfl
    | terminalOut => exact ho.elim
    | terminalErr => exact ho.elim
    | file handle => exact ho.elim

theorem perform (hf : Follows base avoid done ts ws h) (ha : Aims base out err p)
    (hc : ∀ sink, out = some sink ∨ err = sink → (base.muted.openAll done).Clear avoid ts sink)
    (x : Channel × Bytes) :
    Follows base avoid done ts (ws ++ aimed out err [x]) ((Deed.write x.1 x.2).perform p h) := by
  obtain ⟨channel, data⟩ := x
  cases channel with
  | stderr =>
    rw [Deed.perform, Process.outlet, ha.err]
    exact hf.write (hc err (Or.inr rfl)) data
  | stdout =>
    rw [Deed.perform, Process.outlet]
    cases hout : out with
    | none =>
      have hw := hf.hidden (ha.hidden hout) data
      simpa [aimed] using hw
    | some sink =>
      rw [ha.shown sink hout]
      exact hf.write (hc sink (Or.inl hout)) data

theorem deeds (hf : Follows base avoid done ts ws h) (ha : Aims base out err p)
    (hc : ∀ sink, out = some sink ∨ err = sink → (base.muted.openAll done).Clear avoid ts sink)
    (w : List (Channel × Bytes)) :
    Follows base avoid done ts (ws ++ aimed out err w)
      ((w.map fun x => Deed.write x.1 x.2).foldl (Deed.perform p) h) := by
  induction w generalizing h ws with
  | nil => simpa [aimed] using hf
  | cons x w ih =>
    rw [aimed_cons, ← List.append_assoc]
    exact ih (hf.perform ha hc x)

theorem runChild {P : Programs} {F : Writers} (hP : P.Filters F)
    (hf : Follows base avoid done ts ws h) (ha : Aims base out err p)
    (hc : ∀ sink, out = some sink ∨ err = sink → (base.muted.openAll done).Clear avoid ts sink) :
    Follows base avoid done ts (ws ++ aimed out err (F p.program p.argv (p.input.held h)))
      (runChild P.behaviour h p) := by
  have hread : ∀ unread, Follows base avoid done ts ws (p.input.consume h unread) := by
    intro unread
    cases p.input with
    | terminal => exact hf.of_quiet (Quiet.of_eq rfl rfl rfl rfl rfl rfl) rfl rfl rfl rfl rfl
    | null => exact hf
    | bytes data => exact hf
    | pipe n => exact hf
  have hd := (hread (P p.program p.argv h.files (p.input.held h)).unread).deeds ha hc
    (F p.program p.argv (p.input.held h))
  rw [← hP p.program p.argv h.files] at hd
  exact hd.of_quiet (Quiet.of_eq rfl rfl rfl rfl rfl rfl) rfl rfl rfl rfl rfl

end Follows

section Sinks

variable {base : Host} {avoid : Inode → Prop} {done ts : List Target} {p : Plan}

theorem clear_plan (hs : base.files.Separate avoid (done ++ (p.redirects.targets ++ ts)))
    {streams : Streams}
    (hc : ∀ channel, base.Clear avoid (done ++ (p.redirects.targets ++ ts)) (streams.sink channel))
    (last : Bool) {sink : Sink}
    (hsink : p.out streams (base.opened.size + done.length) last = some sink ∨
      p.err streams (base.opened.size + done.length) = sink) :
    (base.muted.openAll (done ++ p.redirects.targets)).Clear avoid ts sink := by
  have hdone : (base.muted.openAll done).files.Separate avoid (p.redirects.targets ++ ts) :=
    separate_openAll (h := base.muted) hs
  have hsize : (base.muted.openAll done).opened.size = base.opened.size + done.length :=
    size_openAll (h := base.muted) hs
  have hstreams : ∀ channel, (base.muted.openAll done).Clear avoid (p.redirects.targets ++ ts)
      (streams.sink channel) := by
    intro channel
    refine clear_openAll (h := base.muted) hs ?_
    have hbase := hc channel
    cases hk : streams.sink channel <;> rw [hk] at hbase <;> exact hbase
  have hreplaced := clear_replaced hdone hstreams
  rw [hsize] at hreplaced
  rw [openAll, List.foldl_append]
  rcases hsink with hout | rfl
  · rw [← Plan.out_eq_some hout]
    exact hreplaced .stdout
  · exact hreplaced .stderr

theorem clear_all (hs : base.files.Separate avoid (done ++ (p.redirects.targets ++ ts)))
    {streams : Streams}
    (hc : ∀ channel, base.Clear avoid (done ++ (p.redirects.targets ++ ts)) (streams.sink channel))
    (last : Bool) {sink : Sink}
    (hsink : p.out streams (base.opened.size + done.length) last = some sink ∨
      p.err streams (base.opened.size + done.length) = sink) :
    (base.muted.openAll (done ++ (p.redirects.targets ++ ts))).Clear avoid [] sink := by
  have hrest := clear_plan hs hc last hsink
  rw [← List.append_assoc] at hs ⊢
  have hopen : (base.muted.openAll (done ++ p.redirects.targets)).files.Separate avoid ts :=
    separate_openAll (h := base.muted) hs
  rw [← List.append_nil ts] at hopen hrest
  rw [openAll, List.foldl_append]
  exact clear_openAll hopen hrest

end Sinks

section Pipes

theorem lookup_filter_ne {β : Type} {pipe n : Nat} (hne : n ≠ pipe) (pipes : List (Nat × β)) :
    (pipes.filter (·.1 != pipe)).lookup n = pipes.lookup n := by
  induction pipes with
  | nil => rfl
  | cons x pipes ih =>
    obtain ⟨number, flow⟩ := x
    by_cases hx : number = pipe
    · subst hx
      have hbeq : (n == number) = false := by simpa using hne
      simp [ih, List.lookup_cons, hbeq]
    · simp [hx, ih, List.lookup_cons]

theorem flowOf_pour {h : Host} {n : Nat} {bytes : Bytes} (hn : h.flowOf n = ⟨bytes, none⟩)
    (pipe : Nat) (data : Bytes) :
    (h.pour pipe data none).flowOf n = ⟨bytes ++ if pipe = n then data else [], none⟩ := by
  unfold flowOf at hn ⊢
  by_cases hp : pipe = n
  · subst hp
    simp [pour, hn]
  · have hbeq : (n == pipe) = false := by simpa using Ne.symm hp
    simp [pour, List.lookup_cons, hbeq, lookup_filter_ne (Ne.symm hp), hn, hp]

theorem pipes_write (h : Host) (sink : Sink) (data : Bytes) :
    (h.write sink data).2.pipes = h.pipes := by
  obtain ⟨_, _, _, _, _, hw⟩ := write_rest h sink data
  rw [hw]

theorem flowOf_deeds {p : Process} {err : Sink} (he : p.err = .sink err)
    (w : List (Channel × Bytes)) {h : Host} {n : Nat} {bytes : Bytes}
    (hn : h.flowOf n = ⟨bytes, none⟩) :
    ((w.map fun x => Deed.write x.1 x.2).foldl (Deed.perform p) h).flowOf n =
      ⟨bytes ++ if p.out = .pipe n then said .stdout w else [], none⟩ := by
  induction w generalizing h bytes with
  | nil => simpa [said] using hn
  | cons x w ih =>
    obtain ⟨channel, data⟩ := x
    rw [List.map_cons, List.foldl_cons]
    cases channel with
    | stderr =>
      have hstep : (Deed.perform p h (.write .stderr data)).flowOf n = ⟨bytes, none⟩ := by
        rw [Deed.perform, Process.outlet, he, writeOutlet, flowOf, pipes_write]
        exact hn
      rw [ih hstep]
      simp [said]
    | stdout =>
      cases ho : p.out with
      | sink sink =>
        have hstep : (Deed.perform p h (.write .stdout data)).flowOf n = ⟨bytes, none⟩ := by
          rw [Deed.perform, Process.outlet, ho, writeOutlet, flowOf, pipes_write]
          exact hn
        rw [ih hstep, ho]
        simp
      | pipe m =>
        have hstep : (Deed.perform p h (.write .stdout data)).flowOf n =
            ⟨bytes ++ if m = n then data else [], none⟩ := by
          rw [Deed.perform, Process.outlet, ho, writeOutlet]
          exact flowOf_pour hn m data
        rw [ih hstep, ho]
        by_cases hm : m = n <;> simp [hm, said]

theorem flowOf_runChild {P : Programs} {F : Writers} (hP : P.Filters F) {p : Process} {err : Sink}
    (he : p.err = .sink err) {h : Host} {n : Nat} {bytes : Bytes}
    (hn : h.flowOf n = ⟨bytes, none⟩) :
    (runChild P.behaviour h p).flowOf n =
      ⟨bytes ++ if p.out = .pipe n then said .stdout (F p.program p.argv (p.input.held h)) else [],
        none⟩ := by
  have hread : (p.input.consume h (P p.program p.argv h.files (p.input.held h)).unread).flowOf n =
      ⟨bytes, none⟩ := by
    cases p.input <;> exact hn
  have hd := flowOf_deeds he (F p.program p.argv (p.input.held h)) hread
  rw [← hP p.program p.argv h.files] at hd
  exact hd

/-- A child leaves the pipes of those behind it as they are. -/
theorem flowOf_child {P : Programs} {F : Writers} (hP : P.Filters F) (l : Launch) (image : Image)
    {number n : Nat} (hlt : number < n) {h : Host} (hn : h.flowOf n = {}) :
    (runChild P.behaviour h (child l image number)).flowOf n = {} := by
  have hother : (child l image number).out ≠ .pipe n := by
    rw [child]
    cases l.out with
    | none =>
      rintro ⟨⟩
      omega
    | some sink => simp [outlet]
  rw [flowOf_runChild hP (p := child l image number) rfl hn, if_neg hother]
  rfl

end Pipes

/-- The program of the stage can be started, and its files are not touched by the run. -/
structure Starts (base : Host) (avoid : Inode → Prop) (p : Plan) : Prop extends
    base.Startable p.stage.path p.argv p.image where
  kept : ∀ i ∈ Image.sources base.files Image.chainLimit p.stage.path,
    avoid i ∧ base.logFile.map LogFile.node ≠ some i

theorem Startable.start {l : Launch} {image : Image} {h : Host}
    (hl : h.Startable l.stage.path (l.stage.command.program :: l.stage.command.arguments) image) :
    ∃ k, start l h = (.ok h.processes, k) ∧ Launched l image h k := by
  have hp := hl.prepareImage
  rcases start_cases l h with ⟨e, hs, -⟩ | ⟨image', k, hs, hk⟩
  · simp [Host.start, hp] at hs
  · have himage := hk.startable.prepareImage
    rw [hp] at himage
    cases himage
    exact ⟨k, hs, hk⟩

namespace Follows

variable {base h k : Host} {avoid : Inode → Prop} {done ts : List Target}
  {ws : List (Sink × Bytes)} {p : Plan} {plans : List Plan} {streams : Streams}

theorem loads (hf : Follows base avoid done ts ws h) (hp : Starts base avoid p) {files : Files}
    (hg : Logged h.logFile h.files files) :
    Image.load files Image.chainLimit p.stage.path p.argv = .ok p.image := by
  have ha := Mirrors.alike_logged hf.tracks.files hf.tracks.logNode hg
  have hgrown : Files.Grown
      (fun i => ¬ avoid i ∨ base.logFile.map LogFile.node = some i) (fun _ _ => True)
      base.files files :=
    (hf.tracks.grown.mono (fun _ hi => Or.inl hi) (fun _ _ => id)).trans ha.grown
      (fun _ _ hi => Or.inr hi) (fun _ _ => False.elim)
  refine Image.load_grown hgrown ?_ hp.loaded
  intro i hi hchanged
  obtain ⟨hkept, hlog⟩ := hp.kept i hi
  exact hchanged.elim (fun hn => hn hkept) hlog

theorem startable (hf : Follows base avoid done ts ws h) (hp : Starts base avoid p) {k : Host}
    (hk : h.Noted k) : k.Startable p.stage.path p.argv p.image := by
  refine ⟨?_, hp.words, hf.loads hp hk.files⟩
  have hc := hf.cleared hp.cleared
  rwa [Host.Cleared, ← hk.blockedOut] at hc

theorem start_plan (hf : Follows base avoid done ts ws h) (hp : Starts base avoid p) {l : Launch}
    (hl : l.stage = p.stage) :
    ∃ k, Host.start l h = (.ok h.processes, k) ∧ Launched l p.image h k ∧
      Follows base avoid done ts ws k := by
  have hstartable : h.Startable l.stage.path
      (l.stage.command.program :: l.stage.command.arguments) p.image := by
    rw [hl]
    exact hf.startable hp (Noted.refl h)
  obtain ⟨k, hs, hk⟩ := hstartable.start
  exact ⟨k, hs, hk, hf.launched hk⟩

theorem startStage (b : Behaviour) (hf : Follows base avoid done (p.redirects.targets ++ ts) ws h)
    (hp : Starts base avoid p) (streams : Streams) (input : Inlet) (last : Bool) :
    ∃ k, (machine b).startStage streams p.stage input last h =
        (.ok (h.processes, (p.out streams (base.opened.size + done.length) last).isNone), k) ∧
      Follows base avoid (done ++ p.redirects.targets) ts ws k ∧
      k.started = h.started ++
        [child (p.launch streams (base.opened.size + done.length) last input) p.image h.processes] ∧
      k.terminalIn = h.terminalIn ∧ k.processes = h.processes + 1 ∧
      k.pipes = (h.processes, {}) :: h.pipes := by
  obtain ⟨m, ho, hopening, hm⟩ := hf.openTargets
  obtain ⟨k, hs, hk, hfk⟩ := hm.start_plan
    (l := p.launch streams (base.opened.size + done.length) last input) hp rfl
  obtain ⟨files, new, echoed, -, rfl⟩ := hopening
  refine ⟨k, ?_, hfk, hk.started, hk.terminalIn, hk.processes, hk.pipes⟩
  change h.openTargets p.stage.command.redirects = _ at ho
  unfold Plan.launch Plan.out Plan.err at hs
  unfold Machine.startStage
  simp only [machine, ho, hs]
  rfl

def Drained (first : Nat) (h : Host) : Prop :=
  ∀ n, first ≤ n → n < h.processes → h.flowOf n = {}

theorem startAll (b : Behaviour) (hf : Follows base avoid done (targets plans) ws h)
    (hp : ∀ p ∈ plans, Starts base avoid p) (streams : Streams) (input : Inlet)
    (children : List Child) {first : Nat} (hd : Drained first h) :
    ∃ found k, (machine b).startAll streams (plans.map Plan.stage) input children h =
        (.ok found, k) ∧
      Follows base avoid (done ++ targets plans) [] ws k ∧
      k.started = h.started ++
        kids streams plans (base.opened.size + done.length) h.processes input ∧
      k.terminalIn = h.terminalIn ∧ k.processes = h.processes + plans.length ∧ Drained first k := by
  induction plans generalizing done h input children with
  | nil =>
    refine ⟨children, h, rfl, ?_, by simp [kids], rfl, rfl, hd⟩
    simpa [targets] using hf
  | cons p plans ih =>
    obtain ⟨m, hs, hm, hstarted, hterminal, hprocesses, hpipes⟩ :=
      hf.startStage b (hp p List.mem_cons_self) streams input plans.isEmpty
    have hdm : Drained first m := by
      intro n hn hlt
      by_cases heq : n = h.processes
      · subst heq
        simp [flowOf, hpipes]
      · have hbeq : (n == h.processes) = false := by simpa using heq
        have hflow := hd n hn (by omega)
        rw [flowOf] at hflow ⊢
        rwa [hpipes, List.lookup_cons, hbeq]
    obtain ⟨found, k, hall, hk, hstarted', hterminal', hprocesses', hdk⟩ :=
      ih hm (fun q hq => hp q (List.mem_cons_of_mem _ hq))
        (if (p.out streams (base.opened.size + done.length) plans.isEmpty).isNone
          then .pipe h.processes else .null)
        (⟨h.processes, p.stage.command.program⟩ :: children) hdm
    refine ⟨found, k, ?_, ?_, ?_, hterminal'.trans hterminal, ?_, hdk⟩
    · rw [List.map_cons, Machine.startAll, List.isEmpty_map, hs]
      exact hall
    · simpa [targets] using hk
    · rw [hstarted', hstarted, hprocesses, kids]
      simp [Nat.add_assoc]
    · rw [hprocesses', hprocesses, List.length_cons]
      omega

theorem aims_child (base : Host) (l : Launch) (image : Image) (number : Nat) :
    Aims base l.out l.err (child l image number) where
  shown sink hs := by rw [child, hs, outlet]
  hidden hn := by rw [child, hn, outlet]; trivial
  err := rfl

theorem held_passed {P : Programs} {F : Writers} (hP : P.Filters F) {handle number : Nat}
    {input : Inlet} (hn : h.flowOf number = {}) :
    (if (p.out streams handle false).isNone then Inlet.pipe number else .null).held
        (Host.runChild P.behaviour h (child (p.launch streams handle false input) p.image number)) =
      p.passed F (input.held h) := by
  have hflow := flowOf_runChild hP
    (p := child (p.launch streams handle false input) p.image number) rfl hn
  have hout : (p.out streams handle false).isNone = p.redirects.keeps .stdout := by
    simp [Plan.out, Redirects.isNone_out_opened]
  unfold Plan.passed
  rw [hout]
  cases hk : p.redirects.keeps .stdout with
  | false => rfl
  | true =>
    rw [hk, Option.isNone_iff_eq_none] at hout
    simp only [if_true, Inlet.held, hflow]
    simp [child, Plan.launch, hout, outlet, Plan.writes]

/-- The children run one after the other. Each reads what the one before it left in its pipe. -/
theorem runKids {P : Programs} {F : Writers} (hP : P.Filters F) {number : Nat} {input : Inlet}
    {bytes : Bytes} (hf : Follows base avoid (done ++ targets plans) [] ws h)
    (hc : ∀ channel, base.Clear avoid (done ++ targets plans) (streams.sink channel))
    (hi : plans ≠ [] → input.held h = bytes)
    (hn : ∀ n, number ≤ n → n < number + plans.length → h.flowOf n = {}) :
    Follows base avoid (done ++ targets plans) []
      (ws ++ wires F streams plans (base.opened.size + done.length) bytes)
      ((kids streams plans (base.opened.size + done.length) number input).foldl
        (Host.runChild P.behaviour) h) := by
  -- Only a stage that is followed by another one has to leave something in its pipe.
  induction plans generalizing done ws h number input bytes with
  | nil => simpa [wires, kids] using hf
  | cons p plans ih =>
    have hall : done ++ targets (p :: plans) = done ++ p.redirects.targets ++ targets plans := by
      simp [targets]
    generalize hl : p.launch streams (base.opened.size + done.length) plans.isEmpty input = l
    have hclear : ∀ sink, l.out = some sink ∨ l.err = sink →
        (base.muted.openAll (done ++ targets (p :: plans))).Clear avoid [] sink := by
      intro sink hsink
      subst hl
      have hs := hf.separate
      rw [List.append_nil] at hs
      exact clear_all hs hc plans.isEmpty hsink
    have hstep := hf.runChild hP (aims_child base l p.image number) hclear
    have hwrites : F (child l p.image number).program (child l p.image number).argv
        ((child l p.image number).input.held h) = p.writes F bytes := by
      rw [← hi (List.cons_ne_nil p plans), ← hl]
      rfl
    rw [hwrites] at hstep
    have hpassed : plans ≠ [] →
        (if (p.out streams (base.opened.size + done.length) plans.isEmpty).isNone
          then Inlet.pipe number else .null).held
            (Host.runChild P.behaviour h (child l p.image number)) = p.passed F bytes := by
      intro hne
      have hfalse : plans.isEmpty = false := by simpa using hne
      subst hl
      rw [hfalse, ← hi (List.cons_ne_nil p plans)]
      exact held_passed hP (hn number (Nat.le_refl _) (by simp))
    have hdrained : ∀ n, number + 1 ≤ n → n < number + 1 + plans.length →
        (Host.runChild P.behaviour h (child l p.image number)).flowOf n = {} := by
      intro n hle hlt
      exact flowOf_child hP l p.image hle (hn n (by omega) (by rw [List.length_cons]; omega))
    rw [hall] at hstep hc ⊢
    have hrest := ih hstep hc hpassed hdrained
    rw [List.length_append, ← Nat.add_assoc] at hrest
    subst hl
    rw [wires, kids, ← List.append_assoc, List.foldl_cons]
    exact hrest

theorem waitAll (b : Behaviour) (hf : Follows base avoid done ts ws h) (children : List Child) :
    ∃ k, (machine b).waitAll children h = (.ok (), k) ∧ Follows base avoid done ts ws k := by
  induction children generalizing h with
  | nil => exact ⟨h, rfl, hf⟩
  | cons child children ih =>
    exact ih (hf.note (Machine.endEntry child.program
      ((h.statuses.lookup child.number).getD (.exited 0))))

/-- A pipeline of filters makes the writes of all stages. -/
theorem runPipeline {P : Programs} {F : Writers} (hP : P.Filters F)
    (hf : Follows base avoid [] (targets plans) [] h) (hi : h.started = [])
    (hp : ∀ p ∈ plans, Starts base avoid p)
    (hc : ∀ channel, base.Clear avoid (targets plans) (streams.sink channel)) :
    ∃ k, (machine P.behaviour).runPipeline streams (plans.map Plan.stage) false h = (.ok (), k) ∧
      Follows base avoid (targets plans) []
        (wires F streams plans base.opened.size (streams.input.inlet.held h)) k := by
  have hempty : Drained h.processes h := fun n hle hlt => absurd hle (Nat.not_le.2 hlt)
  obtain ⟨found, k, hall, hk, hstarted, hterminal, hprocesses, hdrained⟩ :=
    hf.startAll P.behaviour hp streams streams.input.inlet [] hempty
  have hidle : Follows base avoid ([] ++ targets plans) [] [] { k with started := [] } :=
    hk.of_quiet (Quiet.of_eq rfl rfl rfl rfl rfl rfl) rfl rfl rfl rfl rfl
  have hinput : streams.input.inlet.held { k with started := [] } = streams.input.inlet.held h :=
    held_inlet hterminal streams.input
  have hpipes : ∀ n, h.processes ≤ n → n < h.processes + plans.length →
      Host.flowOf { k with started := [] } n = {} :=
    fun n hle hlt => hdrained n hle (hprocesses ▸ hlt)
  have hran := runKids hP hidle hc (fun _ => hinput) hpipes
  obtain ⟨l, hwait, hl⟩ := hran.waitAll P.behaviour found
  refine ⟨l, ?_, hl⟩
  have hinlet : streams.inlet false = streams.input.inlet := rfl
  rw [hi, List.nil_append] at hstarted
  have hjoin : (machine P.behaviour).join k =
      (.ok (), (kids streams plans base.opened.size h.processes streams.input.inlet).foldl
        (Host.runChild P.behaviour) { k with started := [] }) := by
    rw [Host.machine_join, Host.join, hstarted]
    rfl
  unfold Machine.runPipeline
  rw [hinlet, hall]
  simp only [Bool.false_eq_true, if_false, hjoin]
  rw [List.length_nil, Nat.add_zero] at hwait
  rw [hwait]
  rfl

end Follows

end Host

end PipeShell
