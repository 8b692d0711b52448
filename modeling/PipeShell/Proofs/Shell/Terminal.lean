import PipeShell.Proofs.Host.Delivery
import PipeShell.Proofs.Launch.Steps
import PipeShell.Proofs.Shell.Steps

/-!
# What becomes of the terminal

Nothing that the shell does itself takes input away or keeps a terminal from taking output. What
programs do to the terminal is therefore all that a job does to it.
-/

namespace PipeShell

namespace Host

structure Steady (h k : Host) : Prop where
  terminalIn : k.terminalIn = h.terminalIn
  blockedOut : h.blockedOut = none → k.blockedOut = none

theorem Steady.of_eq {h k : Host} (hi : k.terminalIn = h.terminalIn)
    (hb : k.blockedOut = h.blockedOut) : Steady h k := ⟨hi, fun hn => hb.trans hn⟩

theorem Steady.refl (h : Host) : Steady h h := .of_eq rfl rfl

theorem Steady.trans {h k l : Host} (hk : Steady h k) (hl : Steady k l) : Steady h l :=
  ⟨hl.terminalIn.trans hk.terminalIn, fun hn => hl.blockedOut (hk.blockedOut hn)⟩

theorem Noted.steady {h k : Host} (hk : Noted h k) : Steady h k :=
  .of_eq hk.terminalIn hk.blockedOut

theorem steady_openTargets (h : Host) (r : Redirects) : Steady h (h.openTargets r).2 := by
  obtain ⟨files, new, echoed, -, ho⟩ := opening_openTargets h r
  rw [ho]
  exact .of_eq rfl rfl

theorem steady_say (h : Host) (sink : Sink) (data : Bytes) : Steady h (h.say sink data).2 := by
  rcases say_cases h sink data with hw | ⟨b, -, hb, hw⟩
  · obtain ⟨_, _, _, _, _, hrest⟩ := write_rest h sink data
    rw [hw, hrest]
    exact .of_eq rfl rfl
  · rw [hw]
    exact ⟨rfl, fun hn => by simp [hn] at hb⟩

theorem steady_start (l : Launch) (h : Host) : Steady h (start l h).2 := by
  rcases start_cases l h with ⟨e, hs, -⟩ | ⟨image, k, hs, hk⟩
  · rw [hs]
    exact .refl h
  · rw [hs]
    exact .of_eq hk.terminalIn hk.blockedOut

structure Follower (b : Behaviour) (S : Host → Host → Prop) : Prop where
  steady : ∀ {h k}, Steady h k → S h k
  trans : ∀ {h k l}, S h k → S k l → S h l
  program : ∀ p h, S h (b p h).2

namespace Follower

variable {b : Behaviour} {S : Host → Host → Prop} (hS : Follower b S)

include hS

theorem of_eq {h k : Host} (hi : k.terminalIn = h.terminalIn)
    (hb : k.blockedOut = h.blockedOut) : S h k := hS.steady (.of_eq hi hb)

theorem runClosed : RunClosed b S where
  trans := hS.trans
  books _ _ _ _ _ := hS.of_eq rfl rfl
  note e h := hS.steady (noted_note h e).steady
  program := hS.program

theorem stepClosed : (machine b).StepClosed S :=
  hS.runClosed.stepClosed (fun r h => hS.steady (steady_openTargets h r))
    fun l h => hS.steady (steady_start l h)

theorem jobClosed : Shell.JobClosed b fun s t => S s.host t.host where
  refl s := hS.steady (.refl s.host)
  trans := hS.trans
  note s e := hS.steady (s.host.noted_note e).steady
  print s channel text := hS.steady (s.host.steady_say _ _)
  find s name := hS.steady (s.host.noted_findProgram name).steady
  files _ _ := hS.of_eq rfl rfl
  history _ _ _ := hS.of_eq rfl rfl
  openTargets s r := hS.steady (s.host.steady_openTargets r)
  newBuffer _ := hS.of_eq rfl rfl
  take _ sink := by cases sink <;> exact hS.of_eq rfl rfl
  runSingle s stage background := hS.stepClosed.runSingle s.streams stage background s.host
  runPipeline s stages background := hS.stepClosed.runPipeline s.streams stages background s.host
  exitCode _ _ := hS.of_eq rfl rfl
  within _ := id

end Follower

end Host

/-- Programs take input from the terminal and never add to it. -/
def Behaviour.Consumes (b : Behaviour) : Prop :=
  ∀ p h, (b p h).2.terminalIn.length ≤ h.terminalIn.length

/-- Programs leave the input to the shell, and do not close the terminal. -/
def Behaviour.Abstains (b : Behaviour) : Prop := ∀ p h, Host.Steady h (b p h).2

theorem Behaviour.Consumes.follower {b : Behaviour} (hb : b.Consumes) :
    Host.Follower b fun h k => k.terminalIn.length ≤ h.terminalIn.length where
  steady hs := Nat.le_of_eq (congrArg List.length hs.terminalIn)
  trans hk hl := Nat.le_trans hl hk
  program := hb

theorem Behaviour.Abstains.follower {b : Behaviour} (hb : b.Abstains) :
    Host.Follower b Host.Steady where
  steady := id
  trans := Host.Steady.trans
  program := hb

end PipeShell
