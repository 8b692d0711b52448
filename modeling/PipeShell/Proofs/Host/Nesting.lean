import PipeShell.Host.Scope
import PipeShell.Proofs.Host.Delivery

/-!
# Nested scopes

What is done with the streams of a shell is a sequence of steps: writes, reads, and scopes that are
entered and left again. In a well-nested sequence each scope encloses a well-nested sequence of its
own. Which sink a write goes to can then be told from the sequence alone: it is the sink of the
innermost scope around it that replaces the channel, or the one at the start. The stack of saved
streams does exactly this, and what is read inside of a scope is unread again behind it.
-/

namespace PipeShell.Scoped

inductive Step
  | enter (r : Replacement)
  | write (channel : Channel) (data : Bytes)
  | read (n : Nat)
  | leave

def after (s : Scoped) : Step → Scoped
  | .enter r => s.enter r
  | .write channel data => (s.write channel data).2
  | .read n => (s.read n).2
  | .leave => s.leave

def run (s : Scoped) (steps : List Step) : Scoped := steps.foldl after s

inductive Nest
  | done
  | write (channel : Channel) (data : Bytes) (rest : Nest)
  | read (n : Nat) (rest : Nest)
  | scope (r : Replacement) (body rest : Nest)

def Nest.steps : Nest → List Step
  | .done => []
  | .write channel data rest => .write channel data :: rest.steps
  | .read n rest => .read n :: rest.steps
  | .scope r body rest => .enter r :: (body.steps ++ .leave :: rest.steps)

/-- What is written, each time with the sink that the channel has at that time. -/
def issued (s : Scoped) : List Step → List (Sink × Bytes)
  | [] => []
  | .write channel data :: rest =>
    (s.sink channel, data) :: (s.after (.write channel data)).issued rest
  | step :: rest => (s.after step).issued rest

def inside (r : Replacement) (sinks : Channel → Sink) : Channel → Sink
  | .stdout => r.out.getD (sinks .stdout)
  | .stderr => r.err.getD (sinks .stderr)

/-- What is written, each time with the sink of the innermost scope that replaces the channel. -/
def Nest.routed (sinks : Channel → Sink) : Nest → List (Sink × Bytes)
  | .done => []
  | .write channel data rest => (sinks channel, data) :: rest.routed sinks
  | .read _ rest => rest.routed sinks
  | .scope r body rest => body.routed (inside r sinks) ++ rest.routed sinks

theorem run_append (s : Scoped) (steps more : List Step) :
    s.run (steps ++ more) = (s.run steps).run more := List.foldl_append

theorem run_cons (s : Scoped) (step : Step) (steps : List Step) :
    s.run (step :: steps) = (s.after step).run steps := rfl

theorem issued_append (s : Scoped) (steps more : List Step) :
    s.issued (steps ++ more) = s.issued steps ++ (s.run steps).issued more := by
  induction steps generalizing s with
  | nil => rfl
  | cons step steps ih => cases step <;> simp [issued, run_cons, ih]

theorem buffers_after (s : Scoped) (step : Step) (n : Nat) :
    (s.after step).host.buffers[n]? =
      s.host.buffers[n]?.map (· ++ Host.received (.buffer n) (s.issued [step])) := by
  cases step with
  | enter r => simp [after, enter, issued, Host.received]
  | write channel data =>
    have hw := Host.buffers_say s.host (s.sink channel) data n
    simpa [after, write, issued, Host.received] using hw
  | read n =>
    have hr : (s.read n).2.host.buffers = s.host.buffers := by
      unfold read Host.read
      cases s.current.input <;> rfl
    simp [after, hr, issued, Host.received]
  | leave =>
    have hl : s.leave.host = s.host := by
      unfold leave
      cases s.saved <;> rfl
    simp [after, hl, issued, Host.received]

theorem buffers_run (s : Scoped) (steps : List Step) (n : Nat) :
    (s.run steps).host.buffers[n]? =
      s.host.buffers[n]?.map (· ++ Host.received (.buffer n) (s.issued steps)) := by
  induction steps generalizing s with
  | nil => simp [run, issued, Host.received]
  | cons step steps ih =>
    have hone : s.issued (step :: steps) = s.issued [step] ++ (s.after step).issued steps :=
      issued_append s [step] steps
    rw [run_cons, ih, buffers_after, hone, Host.received_append, Option.map_map]
    simp [Function.comp_def]

theorem sink_enter (s : Scoped) (r : Replacement) : (s.enter r).sink = inside r s.sink := by
  funext channel
  cases channel <;> rfl

theorem sink_read (s : Scoped) (n : Nat) : (s.read n).2.sink = s.sink := by
  funext channel
  cases channel <;> rfl

theorem saved_steps (s : Scoped) (ops : Nest) : (s.run ops.steps).saved = s.saved := by
  induction ops generalizing s with
  | done => rfl
  | write channel data rest ih => exact ih (s.write channel data).2
  | read n rest ih => exact ih (s.read n).2
  | scope r body rest ihBody ihRest =>
    have hbody := ihBody (s.enter r)
    rw [Nest.steps, run_cons, run_append, run_cons, ihRest]
    change ((s.enter r).run body.steps).leave.saved = s.saved
    simp only [leave, hbody]
    rfl

theorem leave_body (s : Scoped) (r : Replacement) (body : Nest) :
    ((s.enter r).run body.steps).leave.current = s.current := by
  have hsaved : ((s.enter r).run body.steps).saved = s.current :: s.saved :=
    saved_steps (s.enter r) body
  simp only [leave, hsaved]

theorem issued_steps (s : Scoped) (ops : Nest) : s.issued ops.steps = ops.routed s.sink := by
  induction ops generalizing s with
  | done => rfl
  | write channel data rest ih =>
    have hrest := ih (s.write channel data).2
    rw [Nest.steps, issued, Nest.routed]
    exact congrArg _ hrest
  | read n rest ih =>
    have hrest := ih (s.read n).2
    rw [sink_read] at hrest
    exact hrest
  | scope r body rest ihBody ihRest =>
    have hbody := ihBody (s.enter r)
    have hrest := ihRest ((s.enter r).run body.steps).leave
    have hsink : ((s.enter r).run body.steps).leave.sink = s.sink := by
      funext channel
      cases channel <;> simp only [sink, leave_body]
    rw [sink_enter] at hbody
    rw [hsink] at hrest
    have happend := issued_append (s.enter r) body.steps (.leave :: rest.steps)
    rw [hbody] at happend
    rw [Nest.routed, ← hrest]
    exact happend

/-- Every buffer grows by the bytes that are written while it is the sink of the channel, in their
order. In a well-nested sequence the sink of a channel is the one of the innermost scope that
replaces it. Leaving a scope brings back the sinks and the unread input of the time when it was
entered, whatever was done before it and inside of it. -/
theorem scopes_route_and_restore (s : Scoped) :
    (∀ steps n, (s.run steps).host.buffers[n]? =
      s.host.buffers[n]?.map (· ++ Host.received (.buffer n) (s.issued steps))) ∧
    (∀ ops : Nest, s.issued ops.steps = ops.routed s.sink) ∧
    ∀ (before : List Step) (r : Replacement) (body : Nest),
      (s.run (before ++ .enter r :: (body.steps ++ [.leave]))).current = (s.run before).current := by
  refine ⟨buffers_run s, issued_steps s, ?_⟩
  intro before r body
  have hbody := leave_body (s.run before) r body
  rw [run_append, run_cons, run_append]
  exact hbody

-- Both channels share the first buffer. The inner scope reads input that it did not replace.
example :
    let s : Scoped := ⟨{ files := Files.empty, buffers := #[[], []] },
      ⟨.buffer [7, 8, 9], .buffer 0, .buffer 0⟩, []⟩
    let inner : Nest := .read 2 (.write .stdout [2] (.write .stderr [3] .done))
    let ops : Nest := .write .stdout [1] (.scope { out := some (.buffer 1) } inner
      (.write .stdout [4] .done))
    (s.run ops.steps).host.buffers = #[[1, 3, 4], [2]] ∧ (s.run ops.steps).current = s.current := by
  decide

end PipeShell.Scoped
