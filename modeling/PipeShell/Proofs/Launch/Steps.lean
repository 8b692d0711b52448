import Mathlib.Tactic.Common
import PipeShell.Launch.Host

/-!
# The steps that launches are made of

Running a program or a pipeline is a sequence of operations of the machine. A relation between a
state of the machine and what becomes of it holds of whole launches if it holds of each operation
and can be chained. On the host, running the children is one of the operations, and what holds of
one program holds of all that were started.
-/

namespace PipeShell

namespace Machine

variable {σ : Type}

/-- A relation between a state and what becomes of it that holds of each operation of the machine
and can be chained. -/
structure StepClosed (m : Machine σ) (S : σ → σ → Prop) : Prop where
  refl : ∀ s, S s s
  trans : ∀ {s t u}, S s t → S t u → S s u
  openTargets : ∀ r s, S s (m.openTargets r s).2
  start : ∀ l s, S s (m.start l s).2
  kill : ∀ n s, S s (m.kill n s).2
  wait : ∀ n s, S s (m.wait n s).2
  join : ∀ s, S s (m.join s).2
  detach : ∀ s, S s (m.detach s)
  note : ∀ e s, S s (m.note e s)

namespace StepClosed

variable {m : Machine σ} {S : σ → σ → Prop} (hS : m.StepClosed S)

include hS

theorem runSingle (streams : Streams) (stage : Stage) (background : Bool) (s : σ) :
    S s (m.runSingle streams stage background s).2 := by
  have hstart := hS.start ⟨stage, streams.inlet background, some streams.out, streams.err⟩ s
  unfold Machine.runSingle
  simp only
  cases hr : m.start ⟨stage, streams.inlet background, some streams.out, streams.err⟩ s with
  | mk result t =>
    rw [hr] at hstart
    cases result with
    | error e => exact hstart
    | ok number =>
      simp only
      split_ifs
      · exact hS.trans hstart (hS.trans (hS.note _ t) (hS.detach _))
      · have hwait := hS.trans (hS.join t) (hS.wait number (m.join t).2)
        cases hw : m.wait number (m.join t).2 with
        | mk status u =>
          rw [hw] at hwait
          cases status with
          | error e => exact hS.trans hstart hwait
          | ok status => exact hS.trans hstart (hS.trans hwait (hS.note _ u))

theorem startStage (streams : Streams) (stage : Stage) (input : Inlet) (last : Bool) (s : σ) :
    S s (m.startStage streams stage input last s).2 := by
  have hopen := hS.openTargets stage.command.redirects s
  unfold Machine.startStage
  cases ho : m.openTargets stage.command.redirects s with
  | mk opened t =>
    rw [ho] at hopen
    cases opened with
    | error f => exact hopen
    | ok opened =>
      have hstart := hS.start ⟨stage, input,
        opened.out.or (if last then some streams.out else none), opened.err.getD streams.err⟩ t
      simp only
      cases hr : m.start ⟨stage, input,
          opened.out.or (if last then some streams.out else none),
          opened.err.getD streams.err⟩ t with
      | mk result u =>
        rw [hr] at hstart
        cases result <;> exact hS.trans hopen hstart

theorem dispose (children : List Child) (s : σ) : S s (m.dispose children s) := by
  induction children generalizing s with
  | nil => exact hS.refl s
  | cons child children ih =>
    have hkill := hS.kill child.number s
    unfold Machine.dispose
    cases hk : m.kill child.number s with
    | mk result t =>
      rw [hk] at hkill
      cases result with
      | ok u => exact hS.trans hkill (hS.trans (hS.wait child.number t) (ih _))
      | error e =>
        exact hS.trans (hS.trans hkill (hS.note _ t)) (hS.trans (hS.wait child.number _) (ih _))

theorem startAll (streams : Streams) (stages : List Stage) (input : Inlet) (children : List Child)
    (s : σ) : S s (m.startAll streams stages input children s).2 := by
  induction stages generalizing input children s with
  | nil => exact hS.refl s
  | cons stage stages ih =>
    have hstart := hS.startStage streams stage input stages.isEmpty s
    unfold Machine.startAll
    cases hr : m.startStage streams stage input stages.isEmpty s with
    | mk result t =>
      rw [hr] at hstart
      cases result with
      | error f => exact hS.trans hstart (hS.trans (hS.dispose children t) (hS.detach _))
      | ok started => exact hS.trans hstart (ih _ _ t)

theorem waitAll (children : List Child) (s : σ) : S s (m.waitAll children s).2 := by
  induction children generalizing s with
  | nil => exact hS.refl s
  | cons child children ih =>
    have hwait := hS.wait child.number s
    unfold Machine.waitAll
    cases hw : m.wait child.number s with
    | mk result t =>
      rw [hw] at hwait
      cases result with
      | ok status => exact hS.trans hwait (hS.trans (hS.note _ t) (ih _))
      | error e => exact hS.trans hwait (ih t)

theorem runPipeline (streams : Streams) (stages : List Stage) (background : Bool) (s : σ) :
    S s (m.runPipeline streams stages background s).2 := by
  have hstart := hS.startAll streams stages (streams.inlet background) [] s
  unfold Machine.runPipeline
  cases hr : m.startAll streams stages (streams.inlet background) [] s with
  | mk result t =>
    rw [hr] at hstart
    cases result with
    | error f => exact hstart
    | ok children =>
      simp only
      split_ifs
      · exact hS.trans hstart (hS.trans (hS.note _ t) (hS.detach _))
      · have hwait := hS.trans (hS.join t) (hS.waitAll children (m.join t).2)
        cases hw : m.waitAll children (m.join t).2 with
        | mk result u =>
          rw [hw] at hwait
          cases result <;> exact hS.trans hstart hwait

end StepClosed

end Machine

namespace Host

/-- A relation between hosts that holds of each program, of what the shell notes down and of its
bookkeeping about children, and can be chained. -/
structure RunClosed (b : Behaviour) (S : Host → Host → Prop) : Prop where
  trans : ∀ {h k l}, S h k → S k l → S h l
  books : ∀ h started statuses clock background, S h { h with
    started := started, statuses := statuses, clock := clock, background := background }
  note : ∀ e h, S h (h.note e)
  program : ∀ p h, S h (b p h).2

namespace RunClosed

variable {b : Behaviour} {S : Host → Host → Prop} (hS : RunClosed b S)

include hS

theorem refl (h : Host) : S h h := hS.books h h.started h.statuses h.clock h.background

theorem runChild (h : Host) (p : Process) : S h (runChild b h p) :=
  hS.trans (hS.program p h) (hS.books _ _ _ _ _)

theorem runBeside (h : Host) (p : Process) : S h (runBeside b h p) :=
  hS.trans (hS.runChild h p) (hS.books _ _ _ _ _)

theorem foldl {f : Host → Process → Host} (hf : ∀ h p, S h (f h p)) (ps : List Process)
    (h : Host) : S h (ps.foldl f h) := by
  induction ps generalizing h with
  | nil => exact hS.refl h
  | cons p ps ih => exact hS.trans (hf h p) (ih (f h p))

theorem join (h : Host) : S h (join b h).2 := by
  have hidle : S h { h with started := [] } := hS.books h [] h.statuses h.clock h.background
  exact hS.trans hidle (hS.foldl hS.runChild h.started { h with started := [] })

theorem detach (h : Host) : S h (detach b h) := by
  have hnote := hS.note (Log.debug "分离 0 个桥接线程") h
  have hidle : S _ { h.note (Log.debug "分离 0 个桥接线程") with started := [] } :=
    hS.trans hnote (hS.books _ _ _ _ _)
  exact hS.trans hidle (hS.foldl hS.runBeside _ _)

theorem stepClosed (hopen : ∀ r h, S h (h.openTargets r).2) (hstart : ∀ l h, S h (start l h).2) :
    (machine b).StepClosed S where
  refl := hS.refl
  trans := hS.trans
  openTargets := hopen
  start := hstart
  kill _ h := hS.books h _ _ _ _
  wait _ h := hS.refl h
  join := hS.join
  detach := hS.detach
  note := hS.note

end RunClosed

end Host

end PipeShell
