import PipeShell.Proofs.Launch.Traces
import PipeShell.Proofs.Shell.Reports

/-!
# The children of a pipeline

Once its programs are found, a pipeline takes one of the courses that there are on any machine. A
failure is reported after that, when no child is left that would have to be waited for.
-/

namespace PipeShell

def Host.stageOf (h : Host) (c : Command) : Stage := ⟨c, (h.findProgram c.program).1.getD ""⟩

namespace Shell

open Host (Told)
open Machine (Course)

theorem resolve_found {base : Host} {s : Shell} (hu : base.Unmoved s.host)
    (hr : base.Recalls s.host) {cs : List Command}
    (hf : ∀ c ∈ cs, (base.findProgram c.program).1.isSome = true) :
    ∃ k, base.Unmoved k ∧ s.resolve cs = (.ok (cs.map base.stageOf), { s with host := k }) := by
  induction cs generalizing s with
  | nil => exact ⟨s.host, hu, rfl⟩
  | cons c cs ih =>
    obtain ⟨k, hk, hrecalls, hc⟩ := findProgram_again hu hr c.program
    obtain ⟨path, hpath⟩ := Option.isSome_iff_exists.1 (hf c List.mem_cons_self)
    obtain ⟨l, hl, hresolve⟩ := ih (s := { s with host := k }) hk hrecalls
      fun d hd => hf d (List.mem_cons_of_mem _ hd)
    refine ⟨l, hl, ?_⟩
    rw [resolve, hc, List.map_cons, Host.stageOf, hpath]
    simp only [hresolve]
    rfl

def Concludes (s : Shell) (result : Except Failure Unit) (h : Host) (t : Shell) : Prop :=
  match result with
  | .ok () => t = { s with host := h }
  | .error f => ∃ k, t = { s with host := k } ∧ Told s.streams.err f.line h k

theorem concludes_launch (m : Machine Host) (stages : List Stage) (background : Bool) {s : Shell}
    {result : Except Failure Unit} {h : Host}
    (hrun : m.runPipeline s.streams stages background s.host = (result, h)) :
    s.Concludes result h (s.launch m stages background) := by
  rw [launch, hrun]
  cases result with
  | ok u => exact rfl
  | error f => exact report_told { s with host := h } f

/-- A pipeline whose programs are all found takes one of the courses there are, whatever the machine
answers. What it comes to is reported once, and after that. -/
theorem children_accounted_for (b : Behaviour) (s : Shell) {cs : List Command}
    (hb : cs.any isBuiltin = false)
    (hf : ∀ c ∈ cs, (s.findProgram c.program).1.isSome = true) :
    let stages := cs.map s.host.stageOf
    ∃ k, s.host.Unmoved k ∧
      s.execute b (.pipeline cs) =
        (true, { s with host := k }.launch (Host.machine b) stages (runsInBackground cs)) ∧
      ∀ m : Machine Host, ∃ trace result h,
        m.runPipeline s.streams stages (runsInBackground cs) k = (result, h) ∧
        m.recorded.runPipeline s.streams stages (runsInBackground cs) (k, []) =
          (result, h, trace) ∧
        Course stages (runsInBackground cs) trace result ∧
        s.Concludes result h ({ s with host := k }.launch m stages (runsInBackground cs)) := by
  intro stages
  obtain ⟨e, he⟩ := s.execute_programs b hb
  obtain ⟨k, hk, hresolve⟩ :=
    resolve_found (s := s.note e) (s.host.unmoved_note e) (s.host.recalls_note e) hf
  refine ⟨k, hk, ?_, ?_⟩
  · rw [he, external, hresolve]
    rfl
  · intro m
    obtain ⟨trace, hcourse, hrecorded⟩ :=
      m.course_runPipeline s.streams k stages (runsInBackground cs)
    cases hrun : m.runPipeline s.streams stages (runsInBackground cs) k with
    | mk result h =>
      rw [hrun] at hcourse hrecorded
      have hconcludes := concludes_launch m stages _ (s := { s with host := k }) hrun
      exact ⟨trace, result, h, rfl, hrecorded, hcourse, hconcludes⟩

/-- The second of two stages cannot be started, and the first child cannot be killed. It is waited
for all the same. -/
theorem children_accounted_for_unkilled :
    let tree : Files := ⟨#[.dir 0 [("c", 1)] false 0o755, .file [] 0o755], 0⟩
    let s := Session.start (Settings.ofEnvironment []) false { files := tree }
    let c : Command := { program := "/c" }
    let b : Behaviour := fun _ h => (.exited 0, h)
    let m : Machine Host :=
      { Host.machine b with
        start := fun l h => if l.input = .terminal then (.ok 7, h) else (.error .badFormat, h)
        kill := fun _ h => (.error .denied, h)
        detach := id }
    [c, c].any isBuiltin = false ∧
      (∀ d ∈ [c, c], (s.findProgram d.program).1.isSome = true) ∧
      ∃ k, (m.recorded.runPipeline s.streams [⟨c, "/c"⟩, ⟨c, "/c"⟩] false (k, [])).2.2 =
          [.opened {} (.ok {}), .started ⟨c, "/c"⟩ (.ok 7),
            .opened {} (.ok {}), .started ⟨c, "/c"⟩ (.error .badFormat),
            .killed 7 (.error .denied), .waited 7 (.ok (.exited 0)), .detached] ∧
        ∃ h, s.Concludes (.error (.process "/c" .badFormat)) h
          ({ s with host := k }.launch m [⟨c, "/c"⟩, ⟨c, "/c"⟩] false) := by
  intro tree s c b m
  have hb : [c, c].any isBuiltin = false := by decide
  have hf : ∀ d ∈ [c, c], (s.findProgram d.program).1.isSome = true := by decide
  have hstages : [c, c].map s.host.stageOf = [⟨c, "/c"⟩, ⟨c, "/c"⟩] := by decide
  obtain ⟨k, hk, -, hall⟩ := children_accounted_for b s hb hf
  obtain ⟨-, result, h, hrun, -, -, hconcludes⟩ := hall m
  rw [hstages] at hrun hconcludes
  obtain ⟨files, cache, echoed, -, -, rfl⟩ := hk
  have hresult : result = .error (.process "/c" .badFormat) := (congrArg Prod.fst hrun).symm
  exact ⟨hb, hf, _, rfl, h, hresult ▸ hconcludes⟩

end Shell

end PipeShell
