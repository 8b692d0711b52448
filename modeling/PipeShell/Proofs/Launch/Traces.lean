import Mathlib.Tactic.Common
import PipeShell.Launch.Machine

/-!
# Traces of pipelines

A machine can keep a trace of its operations: which of them were called, for what, and with which
answers. The trace of a pipeline begins with the stages that were started, and then tells what
became of their children. As nothing is known of the machine, each operation can succeed or fail
whenever it is called.
-/

namespace PipeShell.Machine

inductive Event
  | opened (r : Redirects) (answer : Except Failure Replacement)
  | started (stage : Stage) (answer : Except OsError Nat)
  | killed (child : Nat) (answer : Except OsError Unit)
  | waited (child : Nat) (answer : Except OsError Status)
  | bridged (answers : List (Except OsError Unit))
  | detached

structure Begun where
  stage : Stage
  opened : Replacement
  number : Nat

namespace Begun

def events (b : Begun) : List Event :=
  [.opened b.stage.command.redirects (.ok b.opened), .started b.stage (.ok b.number)]

def child (b : Begun) : Child := ⟨b.number, b.stage.command.program⟩

end Begun

inductive Refusal
  | target (f : Failure)
  | program (opened : Replacement) (cause : OsError)

namespace Refusal

def events (stage : Stage) : Refusal → List Event
  | .target f => [.opened stage.command.redirects (.error f)]
  | .program opened cause =>
    [.opened stage.command.redirects (.ok opened), .started stage (.error cause)]

def failure (stage : Stage) : Refusal → Failure
  | .target f => f
  | .program _ cause => .process stage.command.program cause

end Refusal

structure Disposal where
  child : Child
  killed : Except OsError Unit
  waited : Except OsError Status

def Disposal.events (d : Disposal) : List Event :=
  [.killed d.child.number d.killed, .waited d.child.number d.waited]

structure Waiting where
  child : Child
  answer : Except OsError Status

namespace Waiting

def event (w : Waiting) : Event := .waited w.child.number w.answer

def failure? (w : Waiting) : Option Failure :=
  match w.answer with
  | .ok _ => none
  | .error cause => some (.process w.child.program cause)

end Waiting

def bridgeFailure? : Except OsError Unit → Option Failure
  | .ok () => none
  | .error cause => some (.process "pipeline" cause)

def verdict : List Failure → Except Failure Unit
  | [] => .ok ()
  | f :: _ => .error f

/-- What can happen to a pipeline. If a stage cannot be started, all children there are by then are
killed and waited for, the last one first, and the stages behind it are not touched. A pipeline in
the background is left alone. Otherwise all children are waited for, the last one first; the first
wait that fails counts, and if there is none, the first bridge that fails. -/
inductive Course (stages : List Stage) (background : Bool) :
    List Event → Except Failure Unit → Prop
  | broken (begun : List Begun) (stage : Stage) (untouched : List Stage) (refusal : Refusal)
      (ends : List Disposal)
      (hstages : stages = begun.map Begun.stage ++ stage :: untouched)
      (hends : ends.map Disposal.child = (begun.map Begun.child).reverse) :
      Course stages background
        (begun.flatMap Begun.events ++ refusal.events stage ++ ends.flatMap Disposal.events ++
          [.detached])
        (.error (refusal.failure stage))
  | left (begun : List Begun) (hbackground : background = true)
      (hstages : stages = begun.map Begun.stage) :
      Course stages background (begun.flatMap Begun.events ++ [.detached]) (.ok ())
  | awaited (begun : List Begun) (bridges : List (Except OsError Unit)) (waits : List Waiting)
      (hbackground : background = false) (hstages : stages = begun.map Begun.stage)
      (hwaits : waits.map Waiting.child = (begun.map Begun.child).reverse) :
      Course stages background
        (begun.flatMap Begun.events ++ [.bridged bridges] ++ waits.map Waiting.event)
        (verdict (waits.filterMap Waiting.failure? ++ bridges.filterMap bridgeFailure?))

variable {σ : Type}

def traced {α : Type} (trace : List Event) (event : α → Event) (answer : α × σ) :
    α × σ × List Event := (answer.1, answer.2, trace ++ [event answer.1])

@[simp] theorem traced_mk {α : Type} (trace : List Event) (event : α → Event) (a : α) (s : σ) :
    traced trace event (a, s) = (a, s, trace ++ [event a]) := rfl

/-- The machine that keeps a trace. Notes for the log are left out. -/
def recorded (m : Machine σ) : Machine (σ × List Event) where
  openTargets r s := traced s.2 (.opened r) (m.openTargets r s.1)
  start l s := traced s.2 (.started l.stage) (m.start l s.1)
  kill n s := traced s.2 (.killed n) (m.kill n s.1)
  wait n s := traced s.2 (.waited n) (m.wait n s.1)
  bridges s := traced s.2 .bridged (m.bridges s.1)
  detach s := (m.detach s.1, s.2 ++ [.detached])
  note e s := (m.note e s.1, s.2)

section Recorded

variable (m : Machine σ) (streams : Streams) (s : σ) (trace : List Event)

@[simp] theorem recorded_openTargets (r : Redirects) :
    m.recorded.openTargets r (s, trace) = traced trace (.opened r) (m.openTargets r s) := rfl

@[simp] theorem recorded_start (l : Launch) :
    m.recorded.start l (s, trace) = traced trace (.started l.stage) (m.start l s) := rfl

@[simp] theorem recorded_kill (n : Nat) :
    m.recorded.kill n (s, trace) = traced trace (.killed n) (m.kill n s) := rfl

@[simp] theorem recorded_wait (n : Nat) :
    m.recorded.wait n (s, trace) = traced trace (.waited n) (m.wait n s) := rfl

theorem recorded_join :
    m.recorded.join (s, trace) =
      ((m.join s).1, (m.join s).2, trace ++ [.bridged (m.bridges s).1]) := rfl

@[simp] theorem recorded_detach :
    m.recorded.detach (s, trace) = (m.detach s, trace ++ [.detached]) := rfl

@[simp] theorem recorded_note (e : Log.Entry) :
    m.recorded.note e (s, trace) = (m.note e s, trace) := rfl

theorem recorded_dispose (children : List Child) :
    ∃ ends : List Disposal, ends.map Disposal.child = children ∧
      m.recorded.dispose children (s, trace) =
        (m.dispose children s, trace ++ ends.flatMap Disposal.events) := by
  induction children generalizing s trace with
  | nil => exact ⟨[], rfl, by simp [dispose]⟩
  | cons child children ih =>
    -- whether or not the kill fails, the child is waited for next
    have hstep : ∃ killed waited t,
        m.dispose (child :: children) s = m.dispose children t ∧
        m.recorded.dispose (child :: children) (s, trace) =
          m.recorded.dispose children
            (t, trace ++ [.killed child.number killed] ++ [.waited child.number waited]) := by
      simp only [dispose, recorded_kill]
      cases m.kill child.number s with
      | mk killed t =>
        cases killed with
        | ok u => exact ⟨.ok u, _, _, rfl, rfl⟩
        | error e => exact ⟨.error e, _, _, rfl, rfl⟩
    obtain ⟨killed, waited, t, hplain, hrecorded⟩ := hstep
    obtain ⟨ends, hends, hrest⟩ :=
      ih t (trace ++ [.killed child.number killed] ++ [.waited child.number waited])
    refine ⟨⟨child, killed, waited⟩ :: ends, by rw [List.map_cons, hends], ?_⟩
    rw [hrecorded, hrest, hplain]
    simp [Disposal.events]

theorem recorded_waitAll (children : List Child) :
    ∃ waits : List Waiting, waits.map Waiting.child = children ∧
      (m.waitAll children s).1 = verdict (waits.filterMap Waiting.failure?) ∧
      m.recorded.waitAll children (s, trace) =
        ((m.waitAll children s).1, (m.waitAll children s).2, trace ++ waits.map Waiting.event) := by
  induction children generalizing s trace with
  | nil => exact ⟨[], rfl, rfl, by simp [waitAll]⟩
  | cons child children ih =>
    simp only [waitAll, recorded_wait]
    cases m.wait child.number s with
    | mk answer t =>
      cases answer with
      | ok status =>
        obtain ⟨waits, hwaits, hverdict, hrest⟩ := ih (m.note (endEntry child.program status) t)
          (trace ++ [.waited child.number (.ok status)])
        refine ⟨⟨child, .ok status⟩ :: waits, by rw [List.map_cons, hwaits], hverdict, ?_⟩
        simp [hrest, Waiting.event]
      | error e =>
        obtain ⟨waits, hwaits, -, hrest⟩ := ih t (trace ++ [.waited child.number (.error e)])
        refine ⟨⟨child, .error e⟩ :: waits, by rw [List.map_cons, hwaits], rfl, ?_⟩
        simp [hrest, Waiting.event]

theorem startStage_cases (stage : Stage) (input : Inlet) (last : Bool) :
    (∃ (b : Begun) (piped : Bool) (t : σ), b.stage = stage ∧
        m.startStage streams stage input last s = (.ok (b.number, piped), t) ∧
        m.recorded.startStage streams stage input last (s, trace) =
          (.ok (b.number, piped), t, trace ++ b.events)) ∨
      ∃ (refusal : Refusal) (t : σ),
        m.startStage streams stage input last s = (.error (refusal.failure stage), t) ∧
        m.recorded.startStage streams stage input last (s, trace) =
          (.error (refusal.failure stage), t, trace ++ refusal.events stage) := by
  simp only [startStage, recorded_openTargets]
  cases m.openTargets stage.command.redirects s with
  | mk opened t =>
    cases opened with
    | error f => exact Or.inr ⟨.target f, t, rfl, rfl⟩
    | ok opened =>
      simp only [traced_mk, recorded_start]
      cases m.start ⟨stage, input, opened.out.or (if last then some streams.out else none),
          opened.err.getD streams.err⟩ t with
      | mk answer u =>
        cases answer with
        | error e =>
          exact Or.inr ⟨.program opened e, u, rfl, by simp [Refusal.events, Refusal.failure]⟩
        | ok number =>
          exact Or.inl ⟨⟨stage, opened, number⟩, _, u, rfl, rfl, by simp [Begun.events]⟩

theorem startAll_cases (stages : List Stage) (input : Inlet) (children : List Child) :
    (∃ (begun : List Begun) (t : σ), stages = begun.map Begun.stage ∧
        m.startAll streams stages input children s =
          (.ok ((begun.map Begun.child).reverse ++ children), t) ∧
        m.recorded.startAll streams stages input children (s, trace) =
          (.ok ((begun.map Begun.child).reverse ++ children), t,
            trace ++ begun.flatMap Begun.events)) ∨
      ∃ (begun : List Begun) (stage : Stage) (untouched : List Stage) (refusal : Refusal)
        (ends : List Disposal) (t : σ),
        stages = begun.map Begun.stage ++ stage :: untouched ∧
        ends.map Disposal.child = (begun.map Begun.child).reverse ++ children ∧
        m.startAll streams stages input children s = (.error (refusal.failure stage), t) ∧
        m.recorded.startAll streams stages input children (s, trace) =
          (.error (refusal.failure stage), t,
            trace ++ (begun.flatMap Begun.events ++ refusal.events stage ++
              ends.flatMap Disposal.events ++ [.detached])) := by
  induction stages generalizing input children s trace with
  | nil => exact Or.inl ⟨[], s, rfl, rfl, by simp [startAll]⟩
  | cons stage stages ih =>
    unfold startAll
    rcases m.startStage_cases streams s trace stage input stages.isEmpty with
      ⟨b, piped, t, rfl, hplain, hrecorded⟩ | ⟨refusal, t, hplain, hrecorded⟩
    · rw [hplain, hrecorded]
      simp only
      rcases ih t (trace ++ b.events) (if piped then .pipe b.number else .null)
          (⟨b.number, b.stage.command.program⟩ :: children) with
        ⟨begun, u, rfl, hplain', hrecorded'⟩ |
        ⟨begun, stage, untouched, refusal, ends, u, rfl, hends, hplain', hrecorded'⟩
      · refine Or.inl ⟨b :: begun, u, rfl, ?_, ?_⟩
        · rw [hplain']
          simp [Begun.child]
        · rw [hrecorded']
          simp [Begun.child]
      · refine Or.inr ⟨b :: begun, stage, untouched, refusal, ends, u, rfl, ?_, hplain', ?_⟩
        · rw [hends]
          simp [Begun.child]
        · rw [hrecorded']
          simp
    · obtain ⟨ends, hends, hdispose⟩ :=
        m.recorded_dispose t (trace ++ refusal.events stage) children
      rw [hplain, hrecorded]
      refine Or.inr ⟨[], stage, stages, refusal, ends, _, rfl, hends, rfl, ?_⟩
      simp [hdispose]

theorem mapError_firstFailure (bridges : List (Except OsError Unit)) :
    (firstFailure bridges).mapError (Failure.process "pipeline") =
      verdict (bridges.filterMap bridgeFailure?) := by
  induction bridges with
  | nil => rfl
  | cons bridge bridges ih =>
    cases bridge with
    | ok u => exact ih
    | error e => rfl

theorem verdict_append (fs gs : List Failure) :
    verdict (fs ++ gs) = match verdict fs with
      | .error f => .error f
      | .ok () => verdict gs := by
  cases fs <;> rfl

/-- Every run of a pipeline takes one of the courses, and the trace does not change what the machine
does. -/
theorem course_runPipeline (stages : List Stage) (background : Bool) :
    ∃ trace, Course stages background trace (m.runPipeline streams stages background s).1 ∧
      m.recorded.runPipeline streams stages background (s, []) =
        ((m.runPipeline streams stages background s).1,
          (m.runPipeline streams stages background s).2, trace) := by
  unfold runPipeline
  rcases m.startAll_cases streams s [] stages (streams.inlet background) [] with
    ⟨begun, t, hstages, hplain, hrecorded⟩ |
    ⟨begun, stage, untouched, refusal, ends, t, hstages, hends, hplain, hrecorded⟩
  · rw [hplain, hrecorded]
    simp only [List.append_nil, List.nil_append]
    cases hb : background with
    | true => exact ⟨_, .left begun rfl hstages, rfl⟩
    | false =>
      simp only [Bool.false_eq_true, if_false, recorded_join]
      obtain ⟨waits, hwaits, hverdict, hwaitAll⟩ := m.recorded_waitAll (m.join t).2
        (begun.flatMap Begun.events ++ [.bridged (m.bridges t).1]) (begun.map Begun.child).reverse
      have hcourse : Course stages false _ _ :=
        .awaited begun (m.bridges t).1 waits rfl hstages hwaits
      rw [verdict_append, ← hverdict, ← mapError_firstFailure] at hcourse
      rw [hwaitAll]
      cases hw : m.waitAll (begun.map Begun.child).reverse (m.join t).2 with
      | mk result u =>
        rw [hw] at hcourse
        cases result with
        | error f => exact ⟨_, hcourse, rfl⟩
        | ok done => exact ⟨_, hcourse, rfl⟩
  · rw [hplain, hrecorded]
    rw [List.append_nil] at hends
    exact ⟨_, .broken begun stage untouched refusal ends hstages hends, rfl⟩

end Recorded

end PipeShell.Machine
