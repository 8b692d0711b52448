import PipeShell.Proofs.Launch.Filters
import PipeShell.Proofs.Shell.Stages

/-!
# The two ways to run a pipeline

A pipeline of programs runs on the machine of the host with all stages next to each other, or stage
by stage with what each stage writes kept for the next one. If the programs are filters and the
targets of redirections are files of their own, nothing tells the two ways apart but the log: the
same bytes reach the sinks of the shell, and the same content is left in every target.
-/

namespace PipeShell

theorem Programs.Filters.writes {P : Programs} {F : Writers} (hP : P.Filters F) (program : String)
    (argv : List String) (files : Files) (input : Bytes) :
    (P program argv files input).writes = F program argv input := by
  rw [Reaction.writes, hP, List.filterMap_map]
  induction F program argv input with
  | nil => rfl
  | cons x w ih => simpa [Deed.written?] using ih

/-- What reaches the sinks of the shell: the errors of every stage and the output of the last one,
where they are not redirected. -/
def flow (F : Writers) (streams : Streams) : List Plan → Bytes → List (Sink × Bytes)
  | [], _ => []
  | p :: rest, input =>
    streams.deliver ((p.writes F input).filter fun x =>
        p.redirects.keeps x.1 && (x.1 = .stderr || rest.isEmpty)) ++
      flow F streams rest (p.passed F input)

section Flow

variable {base : Host} {streams : Streams} (hs : ∀ channel, base.Has (streams.sink channel))
  {handle : Nat} (hh : base.opened.size ≤ handle)

include hh in
theorem not_has_opened {r : Redirects} {sink : Sink}
    (ho : (r.opened handle).out = some sink ∨ (r.opened handle).err = some sink) :
    ¬ base.Has sink := by
  obtain ⟨k, -, rfl⟩ := Host.handle_opened ho
  exact Nat.not_lt.2 (Nat.le_add_right_of_le hh)

include hs hh in
theorem filter_aimed (p : Plan) (last : Bool) (w : List (Channel × Bytes)) :
    ((aimed (p.out streams handle last) (p.err streams handle) w).filter fun x => base.Has x.1) =
      streams.deliver (w.filter fun x =>
        p.redirects.keeps x.1 && (x.1 = .stderr || last)) := by
  have hout := p.redirects.isNone_out_opened handle
  have herr := p.redirects.isNone_err_opened handle
  have hsout : base.Has streams.out := hs .stdout
  have hserr : base.Has streams.err := hs .stderr
  induction w with
  | nil => rfl
  | cons x w ih =>
    obtain ⟨channel, data⟩ := x
    rw [aimed_cons, List.filter_append, ih]
    cases channel with
    | stderr =>
      cases he : (p.redirects.opened handle).err with
      | none =>
        rw [he] at herr
        simp [aimed, Plan.err, he, hserr, ← herr]
      | some sink =>
        rw [he] at herr
        simp [aimed, Plan.err, he, not_has_opened hh (Or.inr he), ← herr]
    | stdout =>
      cases ho : (p.redirects.opened handle).out with
      | none =>
        rw [ho] at hout
        cases last <;> simp [aimed, Plan.out, ho, hsout, ← hout]
      | some sink =>
        rw [ho] at hout
        simp [aimed, Plan.out, ho, not_has_opened hh (Or.inl ho), ← hout]

include hs hh in
theorem filter_wires (F : Writers) (plans : List Plan) (input : Bytes) :
    ((wires F streams plans handle input).filter fun x => base.Has x.1) =
      flow F streams plans input := by
  induction plans generalizing handle input with
  | nil => rfl
  | cons p plans ih =>
    rw [wires, flow, List.filter_append, filter_aimed hs hh, ih (Nat.le_add_right_of_le hh)]

end Flow

namespace Shell

open Host (Delivers Follows Starts Noted Logged)

variable {P : Programs} {F : Writers} {base : Host} {avoid : Inode → Prop} {done ts : List Target}
  {ws : List (Sink × Bytes)} {p : Plan} {plans : List Plan}

structure Prepared (base : Host) (avoid : Inode → Prop) (p : Plan) : Prop
    extends Starts base avoid p where
  external : Builtin.ofName? p.stage.command.program = none
  found : (base.findProgram p.stage.command.program).1 = some p.stage.path

theorem dispatch_follows (hP : P.Filters F) {s : Shell} (hf : Follows base avoid done ts ws s.host)
    (hi : s.host.started = []) (hp : Prepared base avoid p) {out : Option Sink}
    (hshown : ∀ sink, out = some sink → s.streams.out = sink)
    (hhidden : out = none → base.Hidden (.sink s.streams.out))
    (hc : ∀ sink, out = some sink ∨ s.streams.err = sink →
      (base.muted.openAll done).Clear avoid ts sink) :
    ∃ t, s.dispatch P.behaviour p.stage.command false = (.ok true, t) ∧
      Follows base avoid done ts
        (ws ++ aimed out s.streams.err (p.writes F (s.streams.input.inlet.held s.host))) t.host := by
  obtain ⟨hfound, hfind⟩ := hf.findProgram p.stage.command.program
  rw [hp.found] at hfound
  obtain ⟨u, e, hstreams, hhost, hnoted, hdispatch⟩ :=
    dispatch_found P.behaviour hp.external hfound
  have hfu : Follows base avoid done ts ws u.host := hhost ▸ hfind.note e
  have hidle : u.host.started = [] := hnoted.started.trans hi
  generalize hl : (⟨p.stage, u.streams.input.inlet, some u.streams.out, u.streams.err⟩ :
    Launch) = l
  obtain ⟨k, hs, hk, hfk⟩ := hfu.start_plan (l := l) hp.toStarts (hl ▸ rfl)
  subst hl
  have hrun := Host.runSingle_of_start P.behaviour hidle hs hk rfl
  have hstage : (⟨p.stage.command, p.stage.path⟩ : Stage) = p.stage := rfl
  rw [hdispatch, hstage, hrun]
  refine ⟨_, rfl, ?_⟩
  have hidle' : Follows base avoid done ts ws { k with started := [] } :=
    hfk.of_quiet (Host.Quiet.of_eq rfl rfl rfl rfl rfl rfl) rfl rfl rfl rfl rfl
  have haims : Host.Aims base out s.streams.err
      (Host.child ⟨p.stage, u.streams.input.inlet, some u.streams.out, u.streams.err⟩ p.image
        u.host.processes) := by
    rw [hstreams]
    refine ⟨?_, hhidden, rfl⟩
    intro sink hsink
    rw [← hshown sink hsink]
    rfl
  have hran := hidle'.runChild hP haims hc
  have hheld : u.streams.input.inlet.held { k with started := [] } =
      s.streams.input.inlet.held s.host := by
    rw [hstreams]
    exact Host.held_inlet (hk.terminalIn.trans hnoted.terminalIn) s.streams.input
  change Follows base avoid done ts (ws ++ aimed out s.streams.err (F p.image.program p.image.argv
    (u.streams.input.inlet.held { k with started := [] }))) _ at hran
  rw [hheld] at hran
  exact hran.note _

theorem stage_follows (hP : P.Filters F) {s : Shell}
    (hf : Follows base avoid done (p.redirects.targets ++ ts) ws s.host)
    (hi : s.host.started = []) (hp : Prepared base avoid p) (last : Bool)
    (hhidden : last = false → base.Hidden (.sink s.streams.out))
    (hc : ∀ sink, p.out s.streams (base.opened.size + done.length) last = some sink ∨
        p.err s.streams (base.opened.size + done.length) = sink →
      (base.muted.openAll (done ++ p.redirects.targets)).Clear avoid ts sink) :
    Follows base avoid (done ++ p.redirects.targets) ts
      (ws ++ aimed (p.out s.streams (base.opened.size + done.length) last)
        (p.err s.streams (base.opened.size + done.length))
        (p.writes F (s.streams.input.inlet.held s.host)))
      (s.stage P.behaviour p.stage.command).host := by
  obtain ⟨k, ho, hopening, hk⟩ := hf.openTargets
  have hidle : k.started = [] := by
    obtain ⟨files, new, echoed, -, rfl⟩ := hopening
    exact hi
  have hterminal : k.terminalIn = s.host.terminalIn := by
    obtain ⟨files, new, echoed, -, rfl⟩ := hopening
    rfl
  have hnone : p.out s.streams (base.opened.size + done.length) last = none →
      base.Hidden (.sink (s.streams.replace
        (p.redirects.opened (base.opened.size + done.length))).out) := by
    intro hnone
    obtain ⟨hlast, hout⟩ := Plan.out_eq_none hnone
    rw [hout]
    exact hhidden hlast
  obtain ⟨t, hd, ht⟩ := dispatch_follows hP
    (s := ⟨k, s.streams.replace (p.redirects.opened (base.opened.size + done.length)), s.history,
      s.exitCode, s.theme, s.colours⟩) hk hidle hp (fun _ => Plan.out_eq_some) hnone hc
  change s.host.openTargets p.stage.command.redirects = _ at ho
  rw [stage_eq, redirected_of_ok ho, within]
  simp only [hd, settle]
  have hheld := Host.held_inlet hterminal s.streams.input
  rw [← hheld]
  exact ht

theorem Writes.of_follows (hP : P.Filters F) {s : Shell}
    (hf : Follows base avoid done (p.redirects.targets ++ ts) ws s.host)
    (hp : Prepared base avoid p) {w : List (Channel × Bytes)}
    (hw : Writes P p.stage.command s w) :
    w = (p.writes F (s.streams.input.inlet.held s.host)).filter fun x => p.redirects.keeps x.1 := by
  obtain ⟨k, ho, hopening, hk⟩ := hf.openTargets
  have hterminal : k.terminalIn = s.host.terminalIn := by
    obtain ⟨files, new, echoed, -, rfl⟩ := hopening
    rfl
  change s.host.openTargets p.stage.command.redirects = _ at ho
  cases hw with
  | refused hu =>
    have hrefused := hu.openTargets
    rw [ho] at hrefused
    cases hrefused
  | opened ho' hd =>
    rw [ho] at ho'
    cases ho'
    have hfound : (k.findProgram p.stage.command.program).1 = some p.stage.path :=
      (hk.findProgram p.stage.command.program).1.trans hp.found
    cases hd with
    | builtin hn => rw [hp.external] at hn; cases hn
    | failed hn => rw [hp.external] at hn; cases hn
    | missing hn hmissing => exact absurd (hfound.symm.trans hmissing.answer_eq) nofun
    | @unstarted path h e hn hpath hg hs =>
      obtain rfl := Option.some.inj (hfound.symm.trans hpath.answer_eq)
      exact absurd (hk.startable hp.toStarts hg) (hs.not_startable _)
    | @ran path h image files hn hpath hg hs hl =>
      obtain rfl := Option.some.inj (hfound.symm.trans hpath.answer_eq)
      obtain rfl := hs.unique (hk.startable hp.toStarts hg)
      rw [hP.writes, Plan.writes]
      have hheld := Host.held_inlet hterminal s.streams.input
      change List.filter _ (F p.image.program p.image.argv (s.streams.input.inlet.held k)) = _
      rw [hheld]
      rfl

theorem said_passed (F : Writers) (p : Plan) (input : Bytes) :
    said .stdout ((p.writes F input).filter fun x => p.redirects.keeps x.1) = p.passed F input := by
  unfold Plan.passed
  cases hk : p.redirects.keeps .stdout with
  | false => exact said_filter hk _
  | true =>
    rw [if_pos rfl]
    induction p.writes F input with
    | nil => rfl
    | cons x w ih =>
      obtain ⟨channel, data⟩ := x
      cases channel with
      | stdout => simp [hk, said, ih]
      | stderr => cases he : p.redirects.keeps .stderr <;> simp [he, said, ih]

theorem captured_follows (hP : P.Filters F) {s : Shell} (hs : s.Ready)
    (hf : Follows base avoid done (p.redirects.targets ++ ts) ws s.host)
    (hb : ∀ channel, base.Has (s.streams.sink channel)) (hp : Prepared base avoid p)
    (input : Option Bytes)
    (hc : ∀ sink, p.out s.streams (base.opened.size + done.length) false = some sink ∨
        p.err s.streams (base.opened.size + done.length) = sink →
      (base.muted.openAll (done ++ p.redirects.targets)).Clear avoid ts sink) :
    (s.captured P.behaviour p.stage.command input).1 =
        p.passed F (((input.map .buffer).getD s.streams.input).inlet.held s.host) ∧
      Follows base avoid (done ++ p.redirects.targets) ts
        (ws ++ aimed (p.out s.streams (base.opened.size + done.length) false)
          (p.err s.streams (base.opened.size + done.length))
          (p.writes F (((input.map .buffer).getD s.streams.input).inlet.held s.host)))
        (s.captured P.behaviour p.stage.command input).2.host ∧
      (s.captured P.behaviour p.stage.command input).2.Ready := by
  -- The buffer is new, so that writing to it and emptying it is no matter of the base.
  have hold : ¬ base.Has s.host.newBuffer.1 := Nat.not_lt.2 hf.within.buffers
  have hnew : Follows base avoid done (p.redirects.targets ++ ts) ws s.buffered.host :=
    hf.of_quiet (Host.quiet_newBuffer hf.within) rfl rfl rfl rfl rfl
  obtain ⟨w, hw, hsaid, hd, hidle⟩ :=
    captured_writes P p.stage.command input hs hf.within (hb .stderr)
  generalize hfrom : (input.map Source.buffer).getD s.streams.input = source at hw ⊢
  have hheld : source.inlet.held s.buffered.host = source.inlet.held s.host :=
    Host.held_inlet rfl source
  have hwrites := hw.of_follows
    (s := s.buffered.between source s.host.newBuffer.1) hP hnew hp
  have hstage := stage_follows (s := s.buffered.between source s.host.newBuffer.1) hP hnew hs.idle hp
    false (fun _ => Nat.not_lt.1 hold) hc
  refine ⟨?_, ?_, hidle, fun channel => hd.within.has (hs.sinks channel)⟩
  · rw [hsaid, hwrites, said_passed]
    rfl
  · rw [captured_eq P.behaviour p.stage.command input rfl, hfrom]
    exact hstage.of_quiet (Host.quiet_take hold) rfl rfl rfl rfl rfl

theorem stages_follow (hP : P.Filters F) {s : Shell} (hs : s.Ready)
    (hf : Follows base avoid done (targets (p :: plans)) ws s.host)
    (hb : ∀ channel, base.Has (s.streams.sink channel))
    (hp : ∀ q ∈ p :: plans, Prepared base avoid q)
    (hc : ∀ channel, base.Clear avoid (done ++ targets (p :: plans)) (s.streams.sink channel))
    (input : Option Bytes) :
    Follows base avoid (done ++ targets (p :: plans)) []
      (ws ++ wires F s.streams (p :: plans) (base.opened.size + done.length)
        (((input.map .buffer).getD s.streams.input).inlet.held s.host))
      (s.stages P.behaviour ((p :: plans).map fun q => q.stage.command) input).host := by
  -- The stages that have run are in `done` and `ws`, so both grow along the induction.
  induction plans generalizing p done ws s input with
  | nil =>
    have hclear : ∀ sink, p.out s.streams (base.opened.size + done.length) true = some sink ∨
        p.err s.streams (base.opened.size + done.length) = sink →
        (base.muted.openAll (done ++ p.redirects.targets)).Clear avoid [] sink :=
      fun sink => Host.clear_plan hf.separate hc true
    have hstage := stage_follows
      (s := s.between ((input.map .buffer).getD s.streams.input) s.streams.out) hP hf hs.idle
      (hp p List.mem_cons_self) true (by simp) hclear
    have htargets : targets [p] = p.redirects.targets := by simp [targets]
    rw [htargets, wires, wires, List.append_nil]
    exact hstage
  | cons q plans ih =>
    have hall : done ++ targets (p :: q :: plans) =
        done ++ p.redirects.targets ++ targets (q :: plans) := by simp [targets]
    have hclear : ∀ sink, p.out s.streams (base.opened.size + done.length) false = some sink ∨
        p.err s.streams (base.opened.size + done.length) = sink →
        (base.muted.openAll (done ++ p.redirects.targets)).Clear avoid (targets (q :: plans)) sink :=
      fun sink => Host.clear_plan hf.separate hc false
    obtain ⟨hdata, hcaptured, hready⟩ :=
      captured_follows hP hs hf hb (hp p List.mem_cons_self) input hclear
    have hstreams : (s.captured P.behaviour p.stage.command input).2.streams = s.streams := rfl
    have hstages : s.stages P.behaviour ((p :: q :: plans).map fun q => q.stage.command) input =
        (s.captured P.behaviour p.stage.command input).2.stages P.behaviour
          ((q :: plans).map fun q => q.stage.command)
          (some (s.captured P.behaviour p.stage.command input).1) := by
      simp only [List.map_cons]
      rw [stages]
      exact List.cons_ne_nil _ _
    rw [hall] at hc ⊢
    have hrest := ih hready hcaptured (hstreams ▸ hb) (fun r hr => hp r (List.mem_cons_of_mem _ hr))
      (hstreams ▸ hc) (some (s.captured P.behaviour p.stage.command input).1)
    rw [hstages, wires, ← List.append_assoc]
    rw [hstreams, List.length_append, ← Nat.add_assoc, Option.map_some, Option.getD_some] at hrest
    rw [hdata] at hrest ⊢
    exact hrest

theorem resolve_follows (hp : ∀ q ∈ plans, Prepared base avoid q) {s : Shell}
    (hf : Follows base avoid done ts ws s.host) :
    ∃ t, s.resolve (plans.map fun q => q.stage.command) = (.ok (plans.map Plan.stage), t) ∧
      t.streams = s.streams ∧ s.host.Noted t.host ∧ Follows base avoid done ts ws t.host := by
  induction plans generalizing s with
  | nil => exact ⟨s, rfl, rfl, Noted.refl s.host, hf⟩
  | cons q plans ih =>
    obtain ⟨hfound, hfind⟩ := hf.findProgram q.stage.command.program
    rw [(hp q List.mem_cons_self).found] at hfound
    have hnoted := s.host.noted_findProgram q.stage.command.program
    have hr : s.findProgram q.stage.command.program =
        (some q.stage.path, { s with host := (s.host.findProgram q.stage.command.program).2 }) := by
      rw [← hfound]
      rfl
    obtain ⟨t, ht, hstreams, hnoted', hft⟩ :=
      ih (s := { s with host := (s.host.findProgram q.stage.command.program).2 })
        (fun r hr => hp r (List.mem_cons_of_mem _ hr)) hfind
    refine ⟨t, ?_, hstreams, hnoted.trans hnoted', hft⟩
    rw [List.map_cons, resolve, hr]
    simp only [ht]
    rfl

theorem external_follows (hP : P.Filters F) {s : Shell} (hs : s.Ready)
    (hf : Follows s.host avoid [] (targets plans) [] s.host)
    (hp : ∀ q ∈ plans, Prepared s.host avoid q)
    (hc : ∀ channel, s.host.Clear avoid (targets plans) (s.streams.sink channel))
    (hb : runsInBackground (plans.map fun q => q.stage.command) = false) :
    Follows s.host avoid (targets plans) []
      (wires F s.streams plans s.host.opened.size (s.streams.input.inlet.held s.host))
      (s.external P.behaviour (plans.map fun q => q.stage.command)).host := by
  obtain ⟨t, hr, hstreams, hnoted, ht⟩ := resolve_follows hp hf
  have hidle : t.host.started = [] := hnoted.started.trans hs.idle
  have hheld := Host.held_inlet hnoted.terminalIn s.streams.input
  obtain ⟨k, hrun, hk⟩ := ht.runPipeline hP hidle (fun q hq => (hp q hq).toStarts) hc
  rw [hheld] at hk
  rw [external, hr]
  simp only [launch, hb, hstreams, hrun]
  exact hk

theorem mixed_follows (hP : P.Filters F) {s : Shell} (hs : s.Ready)
    (hf : Follows s.host avoid [] (targets plans) [] s.host)
    (hp : ∀ q ∈ plans, Prepared s.host avoid q) (hplans : plans ≠ [])
    (hc : ∀ channel, s.host.Clear avoid (targets plans) (s.streams.sink channel))
    (hb : runsInBackground (plans.map fun q => q.stage.command) = false) :
    Follows s.host avoid (targets plans) []
      (wires F s.streams plans s.host.opened.size (s.streams.input.inlet.held s.host))
      (s.mixed P.behaviour (plans.map fun q => q.stage.command)).host := by
  obtain ⟨p, plans, rfl⟩ := List.exists_cons_of_ne_nil hplans
  rw [mixed, hb]
  exact stages_follow hP hs hf hs.sinks hp hc none

def Uses (s : Shell) (plans : List Plan) (i : Inode) : Prop :=
  s.host.logFile.map LogFile.node = some i ∨
    ∃ p ∈ plans, i ∈ Image.sources s.host.files Image.chainLimit p.stage.path

/-- Every stage is a program that is found and can be started, every target can be opened, and the
targets are different files that nothing else writes to and no program is started from. The log is a
file of its own as well. -/
structure Independent (s : Shell) (plans : List Plan) : Prop where
  external : ∀ p ∈ plans, Builtin.ofName? p.stage.command.program = none
  found : ∀ p ∈ plans, (s.host.findProgram p.stage.command.program).1 = some p.stage.path
  startable : ∀ p ∈ plans, s.host.Startable p.stage.path p.argv p.image
  opens : ∀ t ∈ targets plans, ∃ made, s.host.files.openForWriting t.path t.append = .ok made
  distinct : (targets plans).Pairwise fun t u =>
    s.host.files.place t.path ≠ s.host.files.place u.path
  unused : ∀ t ∈ targets plans, ∀ i, s.Uses plans i → s.host.files.place t.path ≠ .ok (.found i)
  logged : ∀ i, s.host.logFile.map LogFile.node = some i → i < s.host.files.nodes.size ∧
    ∀ p ∈ plans, i ∉ Image.sources s.host.files Image.chainLimit p.stage.path
  sinks : ∀ channel, s.host.Clear (s.Uses plans) (targets plans) (s.streams.sink channel)

namespace Independent

variable {s : Shell}

theorem prepared (hi : s.Independent plans) (hp : p ∈ plans) :
    Prepared s.host (s.Uses plans) p where
  toStartable := hi.startable p hp
  kept i hsource :=
    ⟨Or.inr ⟨p, hp, hsource⟩, fun hlog => (hi.logged i hlog).2 p hp hsource⟩
  external := hi.external p hp
  found := hi.found p hp

theorem separate (hi : s.Independent plans) :
    s.host.files.Separate (s.Uses plans) (targets plans) where
  places t ht := by
    obtain ⟨made, hmade⟩ := hi.opens t ht
    obtain ⟨q, hq, ho⟩ := Files.place_of_openForWriting hmade
    refine ⟨q, hq, ho, ?_⟩
    rintro i hused rfl
    exact hi.unused t ht i hused hq
  distinct := hi.distinct
  bound i hused := by
    rcases hused with hlog | ⟨p, -, hsource⟩
    · exact (hi.logged i hlog).1
    · exact Image.sources_lt hsource

theorem follows (hi : s.Independent plans) :
    Follows s.host (s.Uses plans) [] (targets plans) [] s.host :=
  Follows.start (fun _ hlog => Or.inl hlog) hi.separate

end Independent

/-- The two ways to run a pipeline of filters deliver the same bytes to the sinks of the shell, and
leave the same file tree but for the log, with the same content in every target. -/
theorem strategies_agree (hP : P.Filters F) {s : Shell} (hs : s.Ready) (hplans : plans ≠ [])
    (hi : s.Independent plans) {cs : List Command}
    (hcs : cs = plans.map fun p => p.stage.command) (hb : runsInBackground cs = false) :
    Delivers s.host s.host (flow F s.streams plans (s.streams.input.inlet.held s.host))
        (s.external P.behaviour cs).host ∧
      Delivers s.host s.host (flow F s.streams plans (s.streams.input.inlet.held s.host))
        (s.mixed P.behaviour cs).host ∧
      (s.external P.behaviour cs).host.terminalOut = (s.mixed P.behaviour cs).host.terminalOut ∧
      (s.host.echoes = false →
        (s.external P.behaviour cs).host.terminalErr = (s.mixed P.behaviour cs).host.terminalErr) ∧
      (∀ n, s.host.Has (.buffer n) → (s.external P.behaviour cs).host.buffers[n]? =
        (s.mixed P.behaviour cs).host.buffers[n]?) ∧
      (∀ i, s.host.logFile.map LogFile.node ≠ some i →
        (s.external P.behaviour cs).host.files.node? i =
          (s.mixed P.behaviour cs).host.files.node? i) ∧
      ∀ t ∈ targets plans, (s.external P.behaviour cs).host.files.read t.path =
        (s.mixed P.behaviour cs).host.files.read t.path := by
  subst hcs
  have hp : ∀ q ∈ plans, Prepared s.host (s.Uses plans) q := fun q hq => hi.prepared hq
  have hexternal := external_follows hP hs hi.follows hp hi.sinks hb
  have hmixed := mixed_follows hP hs hi.follows hp hplans hi.sinks hb
  have hde := hexternal.delivers
  have hdm := hmixed.delivers
  rw [filter_wires hs.sinks (Nat.le_refl _)] at hde hdm
  refine ⟨hde, hdm, ?_, ?_, ?_, ?_, fun t ht => hexternal.read_eq hmixed ht⟩
  · rw [hde.terminalOut, hdm.terminalOut]
  · intro he
    rw [hde.terminalErr he, hdm.terminalErr he]
  · intro n hn
    rw [hde.buffer hn, hdm.buffer hn]
  · intro i hlog
    rw [hexternal.tracks.files.node i hlog, hmixed.tracks.files.node i hlog]

/-- Two copies of a program that repeats its input and complains, the second one with a target. -/
theorem strategies_agree_copies :
    let F : Writers := fun _ _ input => [(.stdout, input), (.stderr, [0x21])]
    let P : Programs := fun program argv _ input =>
      { deeds := (F program argv input).map fun x => .write x.1 x.2 }
    let files : Files :=
      ⟨#[.dir 0 [("c", 1)] false 0o755, .file (Image.content "cat") 0o755], 0⟩
    let first : Command := { program := "/c" }
    let last : Command := { program := "/c", redirects := { stdout := some ⟨"o", false⟩ } }
    let plans : List Plan :=
      [⟨⟨first, "/c"⟩, ⟨"cat", ["/c"]⟩⟩, ⟨⟨last, "/c"⟩, ⟨"cat", ["/c"]⟩⟩]
    let s := Session.start (Settings.ofEnvironment []) false
      { files := files, terminalIn := [0x68, 0x69] }
    P.Filters F ∧ s.Ready ∧ s.Independent plans ∧
      Delivers s.host s.host [(.terminalErr, [0x21]), (.terminalErr, [0x21])]
        (s.external P.behaviour [first, last]).host ∧
      (s.external P.behaviour [first, last]).host.files.read "o" =
        (s.mixed P.behaviour [first, last]).host.files.read "o" := by
  intro F P files first last plans s
  have hP : P.Filters F := fun _ _ _ _ => rfl
  have hs : s.Ready := ready_start _ _ rfl
  have hplace : files.place "o" = .ok (.vacant 0 "o") := by decide
  have hload : Image.load files Image.chainLimit "/c" ["/c"] = .ok ⟨"cat", ["/c"]⟩ := by decide
  have hfound : (s.host.findProgram "/c").1 = some "/c" := by decide
  have hstartable : s.host.Startable "/c" ["/c"] ⟨"cat", ["/c"]⟩ := ⟨nofun, by decide, hload⟩
  have htargets : targets plans = [⟨"o", false⟩] := rfl
  have hi : s.Independent plans := by
    refine ⟨?_, ?_, ?_, ?_, ?_, ?_, ?_, ?_⟩
    · simp only [plans, List.forall_mem_cons]
      exact ⟨rfl, rfl, by simp⟩
    · simp only [plans, List.forall_mem_cons]
      exact ⟨hfound, hfound, by simp⟩
    · simp only [plans, List.forall_mem_cons]
      exact ⟨hstartable, hstartable, by simp⟩
    · rw [htargets]
      simp only [List.forall_mem_singleton]
      exact ⟨_, Files.openForWriting_of_place hplace ⟨rfl, rfl⟩ false⟩
    · rw [htargets]
      exact List.pairwise_singleton _ _
    · rw [htargets]
      simp only [List.forall_mem_singleton]
      intro i _ hplace'
      rw [show s.host.files.place "o" = .ok (.vacant 0 "o") from hplace] at hplace'
      cases hplace'
    · intro i hlog
      cases hlog
    · intro channel
      cases channel <;> trivial
  have hcs : [first, last] = plans.map fun p => p.stage.command := rfl
  obtain ⟨hd, -, -, -, -, -, hread⟩ :=
    strategies_agree hP hs (List.cons_ne_nil _ _) hi hcs rfl
  exact ⟨hP, hs, hi, hd, hread ⟨"o", false⟩ List.mem_cons_self⟩

end Shell

end PipeShell
