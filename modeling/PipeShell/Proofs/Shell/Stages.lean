import PipeShell.Proofs.Files.Contents
import PipeShell.Proofs.Search.Directories
import PipeShell.Proofs.Shell.Control
import PipeShell.Proofs.Shell.Ready

/-!
# Stages of a mixed pipeline

A pipeline with a builtin command in it is the composition of its stages from left to right. Each
stage is attempted once. What it writes on its output is the whole input of the next stage, and what
it writes on its errors goes where the shell writes errors. A channel that is redirected has nothing
to hand on, and neither has a stage that could not be run; such a stage only says why.
-/

namespace PipeShell

def Failure.line (f : Failure) : Bytes := Text.encode (f.message ++ "\n")

namespace Shell

open Host (Delivers Quiet Within Logged Noted Startable Unstartable Unopenable)

def Wrote (base : Host) (s t : Shell) : Prop :=
  t.streams = s.streams ∧ t.host.started = s.host.started ∧
    ((∀ channel, base.Has (s.streams.sink channel)) →
      ∃ w, Delivers base s.host (s.streams.deliver w) t.host)

theorem Wrote.of_quiet {base : Host} {s t : Shell} (hs : t.streams = s.streams)
    (hi : t.host.started = s.host.started) (hq : Quiet base s.host t.host) : Wrote base s t :=
  ⟨hs, hi, fun _ => ⟨[], Delivers.of_quiet hq⟩⟩

theorem stepClosed_wrote (base : Host) : StepClosed (Wrote base) where
  refl s := Wrote.of_quiet rfl rfl (Quiet.refl base s.host)
  trans {s t u} ht hu := by
    obtain ⟨hst, hit, hdt⟩ := ht
    obtain ⟨hsu, hiu, hdu⟩ := hu
    refine ⟨hsu.trans hst, hiu.trans hit, ?_⟩
    intro hb
    obtain ⟨v, hv⟩ := hdt hb
    obtain ⟨w, hw⟩ := hdu (hst ▸ hb)
    refine ⟨v ++ w, ?_⟩
    rw [Streams.deliver_append]
    exact hv.trans (hst ▸ hw)
  note s e := Wrote.of_quiet rfl (s.host.noted_note e).started (Host.quiet_note base s.host e)
  print s channel text := by
    refine ⟨rfl, s.host.started_say _ _, fun hb => ⟨[(channel, Text.encode text)], ?_⟩⟩
    have hd := Delivers.say (hb channel) s.host (Text.encode text)
    cases channel <;> exact hd
  find s name :=
    Wrote.of_quiet rfl (s.host.noted_findProgram name).started
      (Host.quiet_of_noted base (s.host.noted_findProgram name))
  files s f := Wrote.of_quiet rfl rfl (Quiet.of_eq rfl rfl rfl rfl rfl rfl)
  history s _ _ := Wrote.of_quiet rfl rfl (Quiet.refl base s.host)

theorem delivers_report {base : Host} {s : Shell} (hs : base.Has s.streams.err) (f : Failure) :
    Delivers base s.host [(s.streams.err, f.line)] (s.report f).host := by
  have hn := Host.quiet_note base s.host (Log.error f.message)
  have hw := Delivers.single hs (s.note (Log.error f.message)).host f.line
  have hp : ((s.note (Log.error f.message)).printLine .stderr f.message).2.host =
      ((s.note (Log.error f.message)).host.write s.streams.err f.line).2 := by
    rw [printLine_eq]
    rfl
  unfold report complain
  cases hr : (s.note (Log.error f.message)).printLine .stderr f.message with
  | mk result t =>
    rw [hr] at hp
    rw [← hp] at hw
    cases result with
    | ok u => exact .quiet hn hw
    | error e => exact .quiet hn (hw.trans_quiet (Host.quiet_note base t.host _))

theorem streams_report (s : Shell) (f : Failure) : (s.report f).streams = s.streams :=
  (stepClosed_sameControl.report s f).1

/-- What a command writes when it is carried out on the streams of the shell. A program that is
found and can be started runs on the input of the shell. Only the log may have grown by then. -/
inductive Dispatches (P : Programs) (c : Command) (s : Shell) : List (Channel × Bytes) → Prop
  | builtin {builtin : Builtin} {more : Bool} {t : Shell} {w : List (Channel × Bytes)}
      (hn : Builtin.ofName? c.program = some builtin)
      (hr : builtin.run c.arguments (s.note (Log.debug ("执行内建命令: " ++ c.render))) =
        (.ok more, t))
      (hd : Delivers s.host s.host (s.streams.deliver w) t.host) : Dispatches P c s w
  | failed {builtin : Builtin} {e : OsError} {t : Shell} {w : List (Channel × Bytes)}
      (hn : Builtin.ofName? c.program = some builtin)
      (hr : builtin.run c.arguments (s.note (Log.debug ("执行内建命令: " ++ c.render))) =
        (.error e, t))
      (hd : Delivers s.host s.host (s.streams.deliver w) t.host) :
      Dispatches P c s (w ++ [(.stderr, (Failure.builtin c.program e).line)])
  | missing (hn : Builtin.ofName? c.program = none)
      (hf : s.host.cache.Gives (s.query c.program) none) :
      Dispatches P c s [(.stderr, (Failure.notFound c.program).line)]
  | unstarted {path : String} {h : Host} {e : OsError} (hn : Builtin.ofName? c.program = none)
      (hf : s.host.cache.Gives (s.query c.program) (some path)) (hg : Noted s.host h)
      (hs : Unstartable h path (c.program :: c.arguments) e) :
      Dispatches P c s [(.stderr, (Failure.process c.program e).line)]
  | ran {path : String} {h : Host} {image : Image} {files : Files}
      (hn : Builtin.ofName? c.program = none)
      (hf : s.host.cache.Gives (s.query c.program) (some path)) (hg : Noted s.host h)
      (hs : Startable h path (c.program :: c.arguments) image)
      (hl : Logged s.host.logFile h.files files) :
      Dispatches P c s
        (P image.program image.argv files (s.streams.input.inlet.held s.host)).writes

/-- What a stage writes on those of its streams that are not redirected. -/
inductive Writes (P : Programs) (c : Command) (s : Shell) : List (Channel × Bytes) → Prop
  | refused {f : Failure} (ho : Unopenable s.host c.redirects f) :
      Writes P c s [(.stderr, f.line)]
  | opened {opened : Replacement} {host : Host} {w : List (Channel × Bytes)}
      (ho : s.host.openTargets c.redirects = (.ok opened, host))
      (hd : Dispatches P c { s with host := host, streams := s.streams.replace opened } w) :
      Writes P c s (w.filter fun x => c.redirects.keeps x.1)

def settle (c : Command) : Except Failure Bool × Shell → Shell
  | (.ok true, s) => s
  | (.ok false, s) => { s.note (Log.debug ("忽略管道中的 " ++ c.program)) with exitCode := none }
  | (.error f, s) => s.report f

theorem stage_eq (b : Behaviour) (c : Command) (s : Shell) :
    s.stage b c =
      (s.redirected c.redirects () fun t => ((), settle c (t.dispatch b c false))).2 := by
  unfold stage
  congr 2
  funext t
  cases t.dispatch b c false with
  | mk result u =>
    cases result with
    | error f => rfl
    | ok more => cases more <;> rfl

theorem wrote_run (base : Host) (builtin : Builtin) (arguments : List String) (s : Shell) :
    Wrote base s (builtin.run arguments s).2 := by
  by_cases hb : builtin = .exit
  · subst hb
    exact Wrote.of_quiet rfl (s.host.noted_note _).started (Host.quiet_note base s.host _)
  · exact (stepClosed_wrote base).run builtin hb arguments s

theorem started_report (s : Shell) (f : Failure) : (s.report f).host.started = s.host.started :=
  ((stepClosed_wrote s.host).report s f).2.1

theorem settle_builtin (P : Programs) {c : Command} {builtin : Builtin}
    (hn : Builtin.ofName? c.program = some builtin) {s : Shell} (hs : s.Ready) :
    ∃ w, Dispatches P c s w ∧
      Delivers s.host s.host (s.streams.deliver w)
        (settle c (s.dispatch P.behaviour c false)).host ∧
      (settle c (s.dispatch P.behaviour c false)).host.started = [] := by
  have hrun := wrote_run s.host builtin c.arguments
    (s.note (Log.debug ("执行内建命令: " ++ c.render)))
  have hnote := Host.quiet_note s.host s.host (Log.debug ("执行内建命令: " ++ c.render))
  have hstart := (s.host.noted_note (Log.debug ("执行内建命令: " ++ c.render))).started
  unfold dispatch
  simp only [hn]
  cases hr : builtin.run c.arguments (s.note (Log.debug ("执行内建命令: " ++ c.render))) with
  | mk result t =>
    rw [hr] at hrun
    obtain ⟨hstreams, hidle, hw⟩ := hrun
    obtain ⟨w, hw⟩ := hw hs.sinks
    have ht : t.host.started = [] := hidle.trans (hstart.trans hs.idle)
    have hd : Delivers s.host s.host (s.streams.deliver w) t.host := .quiet hnote hw
    cases result with
    | error e =>
      refine ⟨_, .failed hn hr hd, ?_, (started_report t _).trans ht⟩
      rw [Streams.deliver_append]
      have herr : s.host.Has t.streams.err := by
        rw [hstreams]
        exact hs.sinks .stderr
      have hreport := delivers_report herr (Failure.builtin c.program e)
      rw [hstreams] at hreport
      exact hd.trans hreport
    | ok more =>
      refine ⟨w, .builtin hn hr hd, ?_⟩
      cases more with
      | true => exact ⟨hd, ht⟩
      | false => exact ⟨hd.trans_quiet (Host.quiet_note _ _ _), (t.host.noted_note _).started.trans ht⟩

theorem dispatch_missing (b : Behaviour) {c : Command} (hn : Builtin.ofName? c.program = none)
    {s : Shell} (hf : (s.host.findProgram c.program).1 = none) :
    s.dispatch b c false = (.error (.notFound c.program),
      { s with host := (s.host.findProgram c.program).2 }) := by
  have hr : s.findProgram c.program =
      (none, { s with host := (s.host.findProgram c.program).2 }) := by
    rw [← hf]
    rfl
  unfold dispatch
  simp only [hn, hr]

theorem dispatch_found (b : Behaviour) {c : Command} (hn : Builtin.ofName? c.program = none)
    {s : Shell} {path : String} (hf : (s.host.findProgram c.program).1 = some path) :
    ∃ (u : Shell) (e : Log.Entry), u.streams = s.streams ∧
      u.host = (s.host.findProgram c.program).2.note e ∧ s.host.Noted u.host ∧
      s.dispatch b c false =
        (((Host.machine b).runSingle u.streams ⟨c, path⟩ false u.host).1.map fun _ => true,
          { u with host := ((Host.machine b).runSingle u.streams ⟨c, path⟩ false u.host).2 }) := by
  have hr : s.findProgram c.program =
      (some path, { s with host := (s.host.findProgram c.program).2 }) := by
    rw [← hf]
    rfl
  refine ⟨note { s with host := (s.host.findProgram c.program).2 }
      (Log.debug ("执行外部命令: " ++ c.render ++ " (" ++ path ++ ")")), _, rfl, rfl,
    (s.host.noted_findProgram c.program).trans (Host.noted_note _ _), ?_⟩
  unfold dispatch
  simp only [hn, hr]

theorem gives_findProgram (s : Shell) (name : String) :
    s.host.cache.Gives (s.query name) (s.host.findProgram name).1 :=
  s.host.cache.gives_answer (s.query name)

theorem settle_program (P : Programs) {c : Command} (hn : Builtin.ofName? c.program = none)
    {s : Shell} (hs : s.Ready) :
    ∃ w, Dispatches P c s w ∧
      Delivers s.host s.host (s.streams.deliver w)
        (settle c (s.dispatch P.behaviour c false)).host ∧
      (settle c (s.dispatch P.behaviour c false)).host.started = [] := by
  cases hf : (s.host.findProgram c.program).1 with
  | none =>
    have hnoted := s.host.noted_findProgram c.program
    rw [dispatch_missing P.behaviour hn hf]
    have hreport := delivers_report (s := { s with host := (s.host.findProgram c.program).2 })
      (hs.sinks .stderr) (Failure.notFound c.program)
    have hgives := s.gives_findProgram c.program
    rw [hf] at hgives
    exact ⟨_, .missing hn hgives, .quiet (Host.quiet_of_noted _ hnoted) hreport,
      (started_report _ _).trans (hnoted.started.trans hs.idle)⟩
  | some path =>
    obtain ⟨u, e, hstreams, -, hnoted, hdispatch⟩ := dispatch_found P.behaviour hn hf
    have hgives := s.gives_findProgram c.program
    rw [hf] at hgives
    have hquiet := Host.quiet_of_noted s.host hnoted
    have hidle : u.host.started = [] := hnoted.started.trans hs.idle
    have hsinks : ∀ channel, s.host.Has (u.streams.sink channel) := by
      rw [hstreams]
      exact hs.sinks
    rw [hdispatch]
    rcases Host.runSingle_cases P ⟨c, path⟩ hidle hsinks with
      ⟨cause, hst, hrun⟩ | ⟨image, files, k, hst, hlog, hrun, hk, hd⟩
    · rw [hrun]
      have hreport := delivers_report (s := u) (hsinks .stderr) (Failure.process c.program cause)
      rw [hstreams] at hreport
      exact ⟨_, .unstarted hn hgives hnoted hst, .quiet hquiet hreport,
        (started_report u _).trans hidle⟩
    · rw [hrun]
      rw [hstreams, Host.held_inlet hnoted.terminalIn] at hd
      rw [hnoted.logFile] at hlog
      exact ⟨_, .ran hn hgives hnoted hst hlog, .quiet hquiet hd, hk⟩

theorem settle_dispatch (P : Programs) (c : Command) {s : Shell} (hs : s.Ready) :
    ∃ w, Dispatches P c s w ∧
      Delivers s.host s.host (s.streams.deliver w)
        (settle c (s.dispatch P.behaviour c false)).host ∧
      (settle c (s.dispatch P.behaviour c false)).host.started = [] := by
  cases hn : Builtin.ofName? c.program with
  | some builtin => exact settle_builtin P hn hs
  | none => exact settle_program P hn hs

theorem sink_replace {h k : Host} {r : Redirects} {opened : Replacement}
    (hr : h.Redirected r opened k) (streams : Streams) (channel : Channel) :
    (r.keeps channel = true ∧ (streams.replace opened).sink channel = streams.sink channel) ∨
      (r.keeps channel = false ∧ ¬ h.Has ((streams.replace opened).sink channel) ∧
        k.Has ((streams.replace opened).sink channel)) := by
  have hout := hr.out
  have herr := hr.err
  cases channel with
  | stdout =>
    cases ho : opened.out with
    | none => left; simp_all [Redirects.keeps, Streams.sink, Streams.replace]
    | some sink =>
      right
      have hf := hr.fresh sink (Or.inl ho)
      rw [ho] at hout
      simp_all [Redirects.keeps, Streams.sink, Streams.replace]
  | stderr =>
    cases he : opened.err with
    | none => left; simp_all [Redirects.keeps, Streams.sink, Streams.replace]
    | some sink =>
      right
      have hf := hr.fresh sink (Or.inr he)
      rw [he] at herr
      simp_all [Redirects.keeps, Streams.sink, Streams.replace]

theorem filter_deliver_replace {h k : Host} {r : Redirects} {opened : Replacement}
    (hr : h.Redirected r opened k) {streams : Streams}
    (hs : ∀ channel, h.Has (streams.sink channel)) (w : List (Channel × Bytes)) :
    (((streams.replace opened).deliver w).filter fun x => h.Has x.1) =
      streams.deliver (w.filter fun x => r.keeps x.1) := by
  induction w with
  | nil => rfl
  | cons x w ih =>
    obtain ⟨channel, data⟩ := x
    rcases sink_replace hr streams channel with ⟨hk, he⟩ | ⟨hk, hn, -⟩
    · simp [he, hk, hs channel, ih]
    · simp [hn, hk, ih]

theorem stage_writes (P : Programs) (c : Command) {s : Shell} (hs : s.Ready) :
    ∃ w, Writes P c s w ∧
      Delivers s.host s.host (s.streams.deliver w) (s.stage P.behaviour c).host ∧
      (s.stage P.behaviour c).streams = s.streams ∧
      (s.stage P.behaviour c).host.started = [] := by
  have hquiet := Host.quiet_openTargets (Within.refl s.host) c.redirects
  have hidle : (s.host.openTargets c.redirects).2.started = [] := by
    obtain ⟨files, new, echoed, -, ho⟩ := s.host.opening_openTargets c.redirects
    rw [ho]
    exact hs.idle
  rw [stage_eq]
  cases ho : s.host.openTargets c.redirects with
  | mk opened host =>
    rw [ho] at hquiet hidle
    cases opened with
    | error f =>
      rw [redirected_of_error ho]
      have hreport := delivers_report (s := { s with host := host }) (hs.sinks .stderr) f
      exact ⟨_, .refused (Host.openTargets_error ho), .quiet hquiet hreport, streams_report _ f,
        (started_report _ f).trans hidle⟩
    | ok opened =>
      have hr := Host.openTargets_ok ho
      rw [redirected_of_ok ho]
      have hready : Ready { s with host := host, streams := s.streams.replace opened } := by
        refine ⟨hidle, ?_⟩
        intro channel
        rcases sink_replace hr s.streams channel with ⟨-, he⟩ | ⟨-, -, hk⟩
        · exact he ▸ hquiet.within.has (hs.sinks channel)
        · exact hk
      obtain ⟨w, hw, hd, hi⟩ := settle_dispatch P c hready
      have hlow := hd.lower hquiet.within
      rw [filter_deliver_replace hr hs.sinks] at hlow
      exact ⟨_, .opened ho hw, .quiet hquiet hlow, rfl, hi⟩

def between (s : Shell) (input : Source) (out : Sink) : Shell :=
  { s with streams := ⟨input, out, s.streams.err⟩ }

def attempt (b : Behaviour) (c : Command) (input : Source) (out : Sink) (s : Shell) : Shell :=
  { (s.between input out).stage b c with streams := s.streams }

def buffered (s : Shell) : Shell := { s with host := s.host.newBuffer.2 }

/-- The stages are attempted from left to right. The last one writes where the shell writes. Each of
the others writes its output to a buffer of its own, which is the input of the next stage. The list
holds what reaches the sinks of the shell. -/
inductive Composes (P : Programs) :
    List Command → Source → Shell → List (Sink × Bytes) → Shell → Prop
  | last {c : Command} {input : Source} {s : Shell} {w : List (Channel × Bytes)}
      (hw : Writes P c (s.between input s.streams.out) w) :
      Composes P [c] input s (s.streams.deliver w) (s.attempt P.behaviour c input s.streams.out)
  | pass {c next : Command} {rest : List Command} {input : Source} {s t u : Shell}
      {w : List (Channel × Bytes)} {ws : List (Sink × Bytes)}
      (hw : Writes P c (s.buffered.between input s.host.newBuffer.1) w)
      (ht : t = s.buffered.attempt P.behaviour c input s.host.newBuffer.1)
      (hrest : Composes P (next :: rest) (.buffer (said .stdout w))
        { t with host := (t.host.take s.host.newBuffer.1).2 } ws u) :
      Composes P (c :: next :: rest) input s
        (s.streams.deliver (w.filter (·.1 = .stderr)) ++ ws) u

theorem attempt_writes (P : Programs) (c : Command) (input : Source) {out : Sink} {s : Shell}
    (hi : s.host.started = []) (ho : s.host.Has out) (he : s.host.Has s.streams.err) :
    ∃ w, Writes P c (s.between input out) w ∧
      Delivers s.host s.host (Streams.deliver ⟨input, out, s.streams.err⟩ w)
        (s.attempt P.behaviour c input out).host ∧
      (s.attempt P.behaviour c input out).host.started = [] := by
  have hready : (s.between input out).Ready := by
    refine ⟨hi, ?_⟩
    intro channel
    cases channel
    · exact ho
    · exact he
  obtain ⟨w, hw, hd, -, hidle⟩ := stage_writes P c hready
  exact ⟨w, hw, hd, hidle⟩

theorem filter_deliver_between {base : Host} {streams : Streams} {out : Sink} (ho : ¬ base.Has out)
    (he : base.Has streams.err) (input : Source) (w : List (Channel × Bytes)) :
    ((Streams.deliver ⟨input, out, streams.err⟩ w).filter fun x => base.Has x.1) =
      streams.deliver (w.filter (·.1 = .stderr)) := by
  induction w with
  | nil => rfl
  | cons x w ih =>
    obtain ⟨channel, data⟩ := x
    cases channel <;> simp [ho, he, ih]

theorem filter_deliver_self {base : Host} {streams : Streams}
    (hs : ∀ channel, base.Has (streams.sink channel)) (w : List (Channel × Bytes)) :
    ((streams.deliver w).filter fun x => base.Has x.1) = streams.deliver w := by
  refine List.filter_eq_self.2 ?_
  intro x hx
  obtain ⟨y, -, rfl⟩ := List.mem_map.1 hx
  simpa using hs y.1

theorem received_deliver (input : Source) {out err : Sink} (hne : err ≠ out)
    (w : List (Channel × Bytes)) :
    Host.received out (Streams.deliver ⟨input, out, err⟩ w) = said .stdout w := by
  induction w with
  | nil => rfl
  | cons x w ih =>
    obtain ⟨channel, data⟩ := x
    cases channel <;> simp [Host.received, said, hne, ih]

theorem captured_eq (b : Behaviour) (c : Command) (input : Option Bytes) {s t : Shell}
    (ht : t = s.buffered.attempt b c ((input.map .buffer).getD s.streams.input)
      s.host.newBuffer.1) :
    s.captured b c input =
      ((t.host.take s.host.newBuffer.1).1, { t with host := (t.host.take s.host.newBuffer.1).2 }) := by
  rw [ht]
  rfl

/-- A stage whose output is kept hands on what it wrote there, and delivers its errors. -/
theorem captured_writes (P : Programs) (c : Command) (input : Option Bytes) {base : Host}
    {s : Shell} (hs : s.Ready) (hw : base.Within s.host) (he : base.Has s.streams.err) :
    ∃ w, Writes P c
        (s.buffered.between ((input.map .buffer).getD s.streams.input) s.host.newBuffer.1) w ∧
      (s.captured P.behaviour c input).1 = said .stdout w ∧
      Delivers base s.host (s.streams.deliver (w.filter (·.1 = .stderr)))
        (s.captured P.behaviour c input).2.host ∧
      (s.captured P.behaviour c input).2.host.started = [] := by
  have hbuffered := Host.quiet_newBuffer hw
  have hnew : s.buffered.host.Has s.host.newBuffer.1 := by
    simp [Host.Has, buffered, Host.newBuffer]
  have hold : ¬ base.Has s.host.newBuffer.1 := Nat.not_lt.2 hw.buffers
  obtain ⟨w, hwrites, hd, hidle⟩ := attempt_writes P c (s := s.buffered)
    ((input.map .buffer).getD s.streams.input) hs.idle hnew
    (hbuffered.within.has (hs.sinks .stderr))
  have hne : s.streams.err ≠ s.host.newBuffer.1 := by
    intro heq
    have hmem := hs.sinks .stderr
    rw [Streams.sink_stderr, heq] at hmem
    exact Nat.lt_irrefl _ hmem
  generalize ht : s.buffered.attempt P.behaviour c ((input.map .buffer).getD s.streams.input)
    s.host.newBuffer.1 = t at hd hidle
  rw [captured_eq P.behaviour c input ht.symm]
  refine ⟨w, hwrites, ?_, ?_, hidle⟩
  · have hempty : s.buffered.host.buffers[s.host.buffers.size]? = some [] := by
      simp [buffered, Host.newBuffer]
    have hb := hd.buffer (n := s.host.buffers.size) hnew
    rw [hempty, Option.map_some, List.nil_append] at hb
    change t.host.buffers[s.host.buffers.size]?.getD [] = said .stdout w
    rw [hb, Option.getD_some]
    exact received_deliver ((input.map .buffer).getD s.streams.input) hne w
  · have hlow := hd.lower (hw.trans hbuffered.within)
    rw [show s.buffered.streams.err = s.streams.err from rfl, filter_deliver_between hold he] at hlow
    exact .quiet hbuffered (hlow.trans_quiet (Host.quiet_take hold))

theorem stages_compose (P : Programs) {base : Host} (c : Command) (cs : List Command)
    (input : Option Bytes) {s : Shell} (hs : s.Ready) (hw : base.Within s.host)
    (hb : ∀ channel, base.Has (s.streams.sink channel)) :
    ∃ ws, Composes P (c :: cs) ((input.map .buffer).getD s.streams.input) s ws
        (s.stages P.behaviour (c :: cs) input) ∧
      Delivers base s.host ws (s.stages P.behaviour (c :: cs) input).host := by
  induction cs generalizing c input s with
  | nil =>
    have hout : s.host.Has s.streams.out := hs.sinks .stdout
    obtain ⟨w, hwrites, hd, -⟩ := attempt_writes P c ((input.map .buffer).getD s.streams.input)
      hs.idle hout (hs.sinks .stderr)
    have hlow := hd.lower hw
    rw [Streams.deliver_input, filter_deliver_self hb] at hlow
    exact ⟨_, .last hwrites, hlow⟩
  | cons next cs ih =>
    obtain ⟨w, hwrites, hsaid, hd, hidle⟩ := captured_writes P c input hs hw (hb .stderr)
    generalize ht : s.buffered.attempt P.behaviour c ((input.map .buffer).getD s.streams.input)
      s.host.newBuffer.1 = t at hsaid hd hidle
    have hcaptured := captured_eq P.behaviour c input ht.symm
    have hstreams : (s.captured P.behaviour c input).2.streams = s.streams := by
      rw [hcaptured, ← ht]
      rfl
    have hstages : s.stages P.behaviour (c :: next :: cs) input =
        (s.captured P.behaviour c input).2.stages P.behaviour (next :: cs)
          (some (said .stdout w)) := by
      rw [stages, ← hsaid]
      exact List.cons_ne_nil next cs
    have hready : (s.captured P.behaviour c input).2.Ready := by
      refine ⟨hidle, ?_⟩
      rw [hstreams]
      exact fun channel => hd.within.has (hs.sinks channel)
    obtain ⟨ws, hrest, hdrest⟩ := ih next (some (said .stdout w)) hready (hw.trans hd.within)
      (hstreams ▸ hb)
    rw [hstages]
    rw [hcaptured] at hrest hd hdrest ⊢
    exact ⟨_, .pass hwrites ht.symm hrest, hd.trans hdrest⟩

theorem said_filter {keeps : Channel → Bool} {channel : Channel} (hk : keeps channel = false)
    (w : List (Channel × Bytes)) : said channel (w.filter fun x => keeps x.1) = [] := by
  induction w with
  | nil => rfl
  | cons x w ih =>
    obtain ⟨written, data⟩ := x
    by_cases hx : keeps written
    · have hne : written ≠ channel := by
        rintro rfl
        rw [hk] at hx
        exact Bool.noConfusion hx
      simp [hx, said, hne, ih]
    · simp [hx, ih]

theorem Writes.nothing_said {P : Programs} {c : Command} {s : Shell} {w : List (Channel × Bytes)}
    (hw : Writes P c s w) (hc : c.redirects.stdout ≠ none) : said .stdout w = [] := by
  cases hw with
  | refused ho => simp [said]
  | @opened opened host w ho hd =>
    refine said_filter ?_ w
    simpa [Redirects.keeps, Option.isSome_iff_ne_none] using hc

theorem mixed_eq (b : Behaviour) (cs : List Command) (s : Shell) :
    ∃ t, (t = s ∨ ∃ e, t = s.note e) ∧ t.streams = s.streams ∧ s.host.Noted t.host ∧
      s.mixed b cs = t.stages b cs none := by
  unfold mixed
  simp only
  split_ifs
  · exact ⟨_, Or.inr ⟨_, rfl⟩, rfl, s.host.noted_note _, rfl⟩
  · exact ⟨s, Or.inl rfl, rfl, Host.Noted.refl s.host, rfl⟩

theorem streams_stages (b : Behaviour) (cs : List Command) (input : Option Bytes) (s : Shell) :
    (s.stages b cs input).streams = s.streams := by
  fun_induction stages b cs input s with
  | case1 input s => rfl
  | case2 c input s => rfl
  | case3 c rest input s hne data t ht ih =>
    have hc : (s.captured b c input).2.streams = s.streams := rfl
    rw [ih, ← hc, ht]

/-- A pipeline that runs stage by stage is the composition of its stages, each attempted once and in
order. What reaches the sinks of the shell is what the composition says, and nothing else; buffers
grow by it, and so does the terminal if it takes output. -/
theorem mixed_composes (P : Programs) {cs : List Command} (hcs : cs ≠ []) {s : Shell}
    (hs : s.Ready) :
    ∃ t ws, (t = s ∨ ∃ e, t = s.note e) ∧
      Composes P cs s.streams.input t ws (s.mixed P.behaviour cs) ∧
      Delivers s.host s.host ws (s.mixed P.behaviour cs).host ∧
      (s.mixed P.behaviour cs).streams = s.streams ∧
      (∀ n, s.host.Has (.buffer n) → (s.mixed P.behaviour cs).host.buffers[n]? =
        s.host.buffers[n]?.map (· ++ Host.received (.buffer n) ws)) ∧
      (s.mixed P.behaviour cs).host.terminalOut =
        s.host.terminalOut ++ s.host.admits .terminalOut (Host.received .terminalOut ws) ∧
      (s.host.echoes = false → (s.mixed P.behaviour cs).host.terminalErr =
        s.host.terminalErr ++ s.host.admits .terminalErr (Host.received .terminalErr ws)) ∧
      (∀ c u w, Writes P c u w → c.redirects.stdout ≠ none → said .stdout w = []) := by
  obtain ⟨c, cs, rfl⟩ := List.exists_cons_of_ne_nil hcs
  obtain ⟨t, ht, hstreams, hnoted, hmixed⟩ := mixed_eq P.behaviour (c :: cs) s
  have hq := Host.quiet_of_noted s.host hnoted
  have hready : t.Ready := (Keeps.of_noted hstreams hnoted).ready hs
  obtain ⟨ws, hcomposes, hd⟩ := stages_compose P c cs none hready hq.within
    (hstreams.symm ▸ hs.sinks)
  rw [← hmixed] at hcomposes hd
  rw [Option.map_none, Option.getD_none, hstreams] at hcomposes
  have hall : Delivers s.host s.host ws (s.mixed P.behaviour (c :: cs)).host := .quiet hq hd
  have hsame : (s.mixed P.behaviour (c :: cs)).streams = s.streams := by
    rw [hmixed, streams_stages, hstreams]
  exact ⟨t, ws, ht, hcomposes, hall, hsame, fun n hn => hall.buffer hn, hall.terminalOut,
    hall.terminalErr, fun _ _ _ hw hc => hw.nothing_said hc⟩

/-- `echo hi | c | /c` feeds a program with the line of `echo` and another one with what the first
one makes of it. In `echo hi >o | missing | exit | c` nothing is handed on, and the program at the
end still runs. -/
theorem mixed_composes_fed :
    let P : Programs := fun _ _ _ input =>
      { deeds := [.write .stderr (Text.encode "!"), .write .stdout (Text.encode "c: " ++ input)] }
    let tree : Files :=
      ⟨#[.dir 0 [("c", 1)] false 0o755, .file (Image.content "c") 0o755], 0⟩
    let s := Session.start (Settings.ofEnvironment []) false
      { files := tree, environment := [("PATH", "/")] }
    let echo : Command := { program := "echo", arguments := ["hi"] }
    let fed : List Command := [echo, { program := "c" }, { program := "/c", background := true }]
    let unfed : List Command := [{ echo with redirects := { stdout := some ⟨"o", false⟩ } },
      { program := "missing" }, { program := "exit" }, { program := "c" }]
    fed ≠ [] ∧ unfed ≠ [] ∧ s.Ready ∧
      (∃ t ws, Composes P fed .terminal t ws (s.mixed P.behaviour fed) ∧
        Host.received .terminalOut ws = Text.encode "c: c: hi\n" ∧
        Host.received .terminalErr ws = Text.encode "!!") ∧
      ∃ t ws, Composes P unfed .terminal t ws (s.mixed P.behaviour unfed) ∧
        Host.received .terminalOut ws = Text.encode "c: " ∧
        Host.received .terminalErr ws = Text.encode "missing: command not found\n!" ∧
        (s.mixed P.behaviour unfed).host.files.content? "/o" = some (Text.encode "hi\n") := by
  intro P tree s echo fed unfed
  have hfed : fed ≠ [] := List.cons_ne_nil _ _
  have hunfed : unfed ≠ [] := List.cons_ne_nil _ _
  have hs : s.Ready := ready_start _ _ rfl
  refine ⟨hfed, hunfed, hs, ?_, ?_⟩
  · obtain ⟨t, ws, -, hcomposes, -, -, -, hout, herr, -⟩ := mixed_composes P hfed hs
    refine ⟨t, ws, hcomposes, hout.symm.trans ?_, (herr rfl).symm.trans ?_⟩
    · decide +kernel
    · decide +kernel
  · obtain ⟨t, ws, -, hcomposes, -, -, -, hout, herr, -⟩ := mixed_composes P hunfed hs
    refine ⟨t, ws, hcomposes, hout.symm.trans ?_, (herr rfl).symm.trans ?_, ?_⟩
    · decide +kernel
    · decide +kernel
    · decide +kernel

end Shell

end PipeShell
