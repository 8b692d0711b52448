import PipeShell.Proofs.Launch.Programs
import PipeShell.Proofs.Launch.Steps
import PipeShell.Proofs.Shell.Steps
import PipeShell.Session

/-!
# Between jobs

Whenever the shell takes up a job, no child of an earlier one is left over, and the sinks behind its
streams are there. A new shell is in such a state, and every job and every line of input leaves it
in one.
-/

namespace PipeShell

namespace Host

theorem within_perform (p : Process) (h : Host) (d : Deed) : Within h (d.perform p h) := by
  cases d with
  | change act => exact Within.of_eq rfl rfl
  | write channel data =>
    simp only [Deed.perform, writeOutlet]
    cases p.outlet channel with
    | sink sink => exact within_write h sink data
    | pipe n => exact Within.of_eq rfl rfl

theorem within_foldl {α : Type} {f : Host → α → Host} (hf : ∀ h a, Within h (f h a)) (as : List α)
    (h : Host) : Within h (as.foldl f h) := by
  induction as generalizing h with
  | nil => exact Within.refl h
  | cons a as ih => exact (hf h a).trans (ih (f h a))

theorem within_behaviour (P : Programs) (p : Process) (h : Host) :
    Within h (P.behaviour p h).2 := by
  have hd := within_foldl (within_perform p)
    (P p.program p.argv h.files (p.input.held h)).deeds
    (p.input.consume h (P p.program p.argv h.files (p.input.held h)).unread)
  refine Within.trans ?_ hd
  cases p.input <;> exact Within.of_eq rfl rfl

theorem runClosed_within (P : Programs) : RunClosed P.behaviour Within where
  trans := Within.trans
  books _ _ _ _ _ := Within.of_eq rfl rfl
  note e h := (quiet_note h h e).within
  program p h := within_behaviour P p h

theorem stepClosed_within (P : Programs) : (machine P.behaviour).StepClosed Within :=
  (runClosed_within P).stepClosed (fun r h => (quiet_openTargets (Within.refl h) r).within)
    fun l h => (quiet_start h l h).within

theorem started_foldl {f : Host → Process → Host} (hf : ∀ h p, (f h p).started = h.started)
    (ps : List Process) (h : Host) : (ps.foldl f h).started = h.started := by
  induction ps generalizing h with
  | nil => rfl
  | cons p ps ih => exact (ih (f h p)).trans (hf h p)

theorem started_join (P : Programs) (h : Host) : (join P.behaviour h).2.started = [] := by
  have hf : ∀ k p, (runChild P.behaviour k p).started = k.started :=
    fun k p => started_behaviour P p k
  exact started_foldl hf h.started { h with started := [] }

theorem started_detach (P : Programs) (h : Host) : (detach P.behaviour h).started = [] := by
  have hf : ∀ k p, (runBeside P.behaviour k p).started = k.started :=
    fun k p => started_behaviour P p k
  exact started_foldl hf _ _

theorem started_runSingle (P : Programs) (streams : Streams) (stage : Stage) (background : Bool)
    {h : Host} (hi : h.started = []) :
    ((machine P.behaviour).runSingle streams stage background h).2.started = [] := by
  unfold Machine.runSingle
  rcases start_cases ⟨stage, streams.inlet background, some streams.out, streams.err⟩ h with
    ⟨e, hs⟩ | ⟨image, k, hs, -⟩
  · simp only [machine, hs]
    exact hi
  · simp only [machine, hs]
    split_ifs
    · exact started_detach P _
    · exact (noted_note _ _).started.trans (started_join P k)

theorem started_startAll (P : Programs) (streams : Streams) (stages : List Stage) (input : Inlet)
    (children : List Child) (h : Host) {f : Failure}
    (hf : ((machine P.behaviour).startAll streams stages input children h).1 = .error f) :
    ((machine P.behaviour).startAll streams stages input children h).2.started = [] := by
  induction stages generalizing input children h with
  | nil => simp [Machine.startAll] at hf
  | cons stage stages ih =>
    unfold Machine.startAll at hf ⊢
    cases hr : (machine P.behaviour).startStage streams stage input stages.isEmpty h with
    | mk result k =>
      rw [hr] at hf
      cases result with
      | error f => exact started_detach P _
      | ok started => exact ih _ _ k hf

theorem started_waitAll (P : Programs) (children : List Child) (h : Host) :
    ((machine P.behaviour).waitAll children h).2.started = h.started := by
  induction children generalizing h with
  | nil => rfl
  | cons child children ih => exact (ih _).trans (noted_note h _).started

theorem started_runPipeline (P : Programs) (streams : Streams) (stages : List Stage)
    (background : Bool) (h : Host) :
    ((machine P.behaviour).runPipeline streams stages background h).2.started = [] := by
  have hf := @started_startAll P streams stages (streams.inlet background) [] h
  unfold Machine.runPipeline
  cases hr : (machine P.behaviour).startAll streams stages (streams.inlet background) [] h with
  | mk result k =>
    rw [hr] at hf
    cases result with
    | error f => exact hf rfl
    | ok children =>
      simp only
      split_ifs
      · exact started_detach P _
      · have hw := started_waitAll P children ((machine P.behaviour).join k).2
        cases hwait : (machine P.behaviour).waitAll children ((machine P.behaviour).join k).2 with
        | mk waited l =>
          rw [hwait] at hw
          cases waited <;> exact hw.trans (started_join P k)

end Host

namespace Shell

open Host (Within)

structure Ready (s : Shell) : Prop where
  idle : s.host.started = []
  sinks : ∀ channel, s.host.Has (s.streams.sink channel)

/-- What keeps a shell ready: the streams are the same, no sink is lost and no child is left. -/
structure Keeps (s t : Shell) : Prop where
  streams : t.streams = s.streams
  within : Within s.host t.host
  started : s.host.started = [] → t.host.started = []

theorem Keeps.ready {s t : Shell} (hk : Keeps s t) (hs : s.Ready) : t.Ready := by
  refine ⟨hk.started hs.idle, ?_⟩
  rw [hk.streams]
  exact fun channel => hk.within.has (hs.sinks channel)

theorem Keeps.of_noted {s t : Shell} (hs : t.streams = s.streams)
    (hn : s.host.Noted t.host) : Keeps s t :=
  ⟨hs, Within.of_eq hn.opened hn.buffers, fun hi => hn.started.trans hi⟩

theorem jobClosed_keeps (P : Programs) : JobClosed P.behaviour Keeps where
  refl s := ⟨rfl, Within.refl s.host, id⟩
  trans ht hu :=
    ⟨hu.streams.trans ht.streams, ht.within.trans hu.within, fun hi => hu.started (ht.started hi)⟩
  note s e := Keeps.of_noted rfl (s.host.noted_note e)
  print s channel text :=
    ⟨rfl, s.host.within_say _ _, fun hi => (s.host.started_say _ _).trans hi⟩
  find s name := Keeps.of_noted rfl (s.host.noted_findProgram name)
  files s _ := ⟨rfl, Within.of_eq rfl rfl, id⟩
  history s _ _ := ⟨rfl, Within.refl s.host, id⟩
  openTargets s r := by
    refine ⟨rfl, (Host.quiet_openTargets (Within.refl s.host) r).within, ?_⟩
    intro hi
    obtain ⟨files, new, echoed, -, ho⟩ := s.host.opening_openTargets r
    simp only [ho]
    exact hi
  newBuffer s := ⟨rfl, (Host.quiet_newBuffer (Within.refl s.host)).within, id⟩
  take s sink := by
    cases sink with
    | buffer n => exact ⟨rfl, ⟨Nat.le_refl _, by simp [Host.take]⟩, id⟩
    | terminalOut => exact ⟨rfl, Within.refl s.host, id⟩
    | terminalErr => exact ⟨rfl, Within.refl s.host, id⟩
    | file handle => exact ⟨rfl, Within.refl s.host, id⟩
  runSingle s stage background :=
    ⟨rfl, (Host.stepClosed_within P).runSingle s.streams stage background s.host,
      Host.started_runSingle P s.streams stage background⟩
  runPipeline s stages background :=
    ⟨rfl, (Host.stepClosed_within P).runPipeline s.streams stages background s.host,
      fun _ => Host.started_runPipeline P s.streams stages background s.host⟩
  exitCode s _ := ⟨rfl, Within.refl s.host, id⟩
  within s {streams t} hk := ⟨rfl, hk.within, hk.started⟩

theorem ready_start (settings : Settings) (colours : Bool) {h : Host} (hi : h.started = []) :
    (Session.start settings colours h).Ready := by
  refine ⟨hi, ?_⟩
  intro channel
  cases channel <;> trivial

theorem Ready.handle (P : Programs) (line : String) {s : Shell} (hs : s.Ready) :
    (s.handle P.behaviour line).2.Ready :=
  ((jobClosed_keeps P).handle line s).ready hs

end Shell

end PipeShell
