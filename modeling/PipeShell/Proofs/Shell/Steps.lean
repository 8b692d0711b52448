import PipeShell.Proofs.History.Runs
import PipeShell.Proofs.Host.Delivery
import PipeShell.Proofs.Text.Bytes
import PipeShell.Shell.Line

/-!
# The steps that commands are made of

A builtin command other than `exit` is a sequence of a few kinds of steps: it writes to one of its
streams, tells the log, looks for a program, changes the file tree or changes the history. So does
everything that reports a failure. A relation between a shell and what becomes of it holds of whole
commands if it holds of each of these steps and can be chained.

Jobs add a few kinds of steps: opening targets, keeping the output of a stage, running programs,
setting the code to stop with, and doing all this with streams replaced for a while.
-/

namespace PipeShell

theorem Shell.printLine_eq (s : Shell) (channel : Channel) (text : String) :
    s.printLine channel text =
      ((s.host.write (s.sink channel) (Text.encode (text ++ "\n"))).1,
        { s with host := (s.host.write (s.sink channel) (Text.encode (text ++ "\n"))).2 }) := by
  have hl : 0x0A ∈ Text.encode (text ++ "\n") := by
    rw [Text.encode_append]
    exact List.mem_append_right _ (by decide)
  rw [printLine, print, Host.say_of_line _ _ _ hl]

/-- A relation between a shell and what becomes of it that holds of each step and can be chained. -/
structure Shell.StepClosed (R : Shell → Shell → Prop) : Prop where
  refl : ∀ s, R s s
  trans : ∀ {s t u}, R s t → R t u → R s u
  note : ∀ s e, R s (s.note e)
  print : ∀ s channel text, R s (s.print channel text).2
  find : ∀ s name, R s (s.findProgram name).2
  files : ∀ s f, R s { s with host := { s.host with files := f } }
  history : ∀ s h, s.history.SameSettings h → R s { s with history := h }

namespace Shell.StepClosed

variable {R : Shell → Shell → Prop} (hR : StepClosed R)

include hR

theorem printLine (s : Shell) (channel : Channel) (text : String) :
    R s (s.printLine channel text).2 := hR.print s channel _

theorem printAll (s : Shell) (channel : Channel) (texts : List String) :
    R s (s.printAll channel texts).2 := by
  induction texts generalizing s with
  | nil => exact hR.refl s
  | cons text texts ih =>
    have hp := hR.print s channel text
    unfold Shell.printAll
    cases hr : s.print channel text with
    | mk result t =>
      rw [hr] at hp
      cases result with
      | error e => exact hp
      | ok u => exact hR.trans hp (ih t)

theorem printOut (s : Shell) (channel : Channel) (texts : List String) :
    R s (s.printOut channel texts).2 := by
  have hp := hR.printAll s channel texts
  unfold Shell.printOut
  cases hr : s.printAll channel texts with
  | mk result t =>
    rw [hr] at hp
    cases result <;> exact hp

theorem complain (s : Shell) (text : String) : R s (s.complain text) := by
  have hp := hR.printLine s .stderr text
  unfold Shell.complain
  cases hr : s.printLine .stderr text with
  | mk result t =>
    rw [hr] at hp
    cases result with
    | error e => exact hR.trans hp (hR.note t _)
    | ok u => exact hp

theorem report (s : Shell) (f : Failure) : R s (s.report f) :=
  hR.trans (hR.note s _) (hR.complain _ _)

theorem describe (name : String) (s : Shell) : R s (Builtin.describe name s).2 := by
  unfold Builtin.describe
  split_ifs
  · exact hR.refl s
  · have hf := hR.find s name
    cases hr : s.findProgram name with
    | mk found t =>
      rw [hr] at hf
      cases found <;> exact hf

theorem runType (names : List String) (s : Shell) : R s (Builtin.runType names s).2 := by
  induction names generalizing s with
  | nil => exact hR.refl s
  | cons name names ih =>
    have hp := hR.trans (hR.describe name s)
      (hR.printAll (Builtin.describe name s).2 .stdout (Builtin.describe name s).1)
    unfold Builtin.runType
    simp only
    cases hr : (Builtin.describe name s).2.printAll .stdout (Builtin.describe name s).1 with
    | mk result t =>
      rw [hr] at hp
      cases result with
      | error e => exact hp
      | ok u => exact hR.trans hp (ih t)

theorem runEcho (arguments : List String) (s : Shell) : R s (Builtin.runEcho arguments s).2 := by
  unfold Builtin.runEcho
  split
  · exact hR.printOut s .stdout _
  · exact hR.printOut s .stdout _

theorem runPwd (s : Shell) : R s (Builtin.runPwd s).2 := by
  unfold Builtin.runPwd
  split
  · exact hR.refl s
  · exact hR.printAll s .stdout _

theorem runCd (arguments : List String) (s : Shell) : R s (Builtin.runCd arguments s).2 := by
  unfold Builtin.runCd
  simp only
  split
  · exact hR.trans (hR.files s _) (hR.note _ _)
  · exact hR.printLine s .stderr _
  · exact hR.printLine s .stderr _

theorem withHistoryFile (verb : String) (file : Option String)
    {action : String → Shell → Except OsError Unit × Shell} (ha : ∀ f s, R s (action f s).2)
    (s : Shell) : R s (Builtin.withHistoryFile verb file action s).2 := by
  unfold Builtin.withHistoryFile
  cases file with
  | none => exact hR.printAll s .stdout _
  | some file =>
    have hs := ha file s
    simp only
    cases hr : action file s with
    | mk result t =>
      rw [hr] at hs
      cases result with
      | ok u => exact hs
      | error e => exact hR.trans hs (hR.printLine t .stderr _)

theorem record (line : String) (s : Shell) : R s (s.record line) :=
  hR.history s _ (s.history.sameSettings_add line)

theorem operation (op : History.Operation) (s : Shell) :
    R s { s with history := (History.Archive.after ⟨s.history, s.host.files⟩ op).history } :=
  hR.history s _ (History.Archive.sameSettings_after ⟨s.history, s.host.files⟩ op)

theorem readHistory (file : String) (s : Shell) : R s (Builtin.readHistory file s).2 :=
  hR.operation (.readFrom file) s

theorem writeHistory (file : String) (s : Shell) : R s (Builtin.writeHistory file s).2 :=
  hR.trans (hR.operation (.writeTo file) s)
    (hR.files _ (s.history.writeTo s.host.files file).2.2)

theorem appendHistory (file : String) (s : Shell) : R s (Builtin.appendHistory file s).2 :=
  hR.trans (hR.operation (.appendTo file) s)
    (hR.files _ (s.history.appendTo s.host.files file).2.2)

theorem runHistory (arguments : List String) (s : Shell) :
    R s (Builtin.runHistory arguments s).2 := by
  unfold Builtin.runHistory
  split
  · exact hR.trans (hR.operation .clear s) (hR.printLine _ .stdout _)
  · exact hR.trans (hR.operation .clear s) (hR.printLine _ .stdout _)
  · exact hR.withHistoryFile _ _ hR.readHistory s
  · exact hR.withHistoryFile _ _ hR.writeHistory s
  · exact hR.withHistoryFile _ _ hR.appendHistory s
  · split_ifs
    · exact hR.printLine s .stdout _
    · exact hR.printAll s .stdout _

theorem runHelp (arguments : List String) (s : Shell) : R s (Builtin.runHelp arguments s).2 := by
  unfold Builtin.runHelp
  split
  · exact hR.printAll s .stdout _
  · split
    · exact hR.printAll s .stdout _
    · exact hR.printAll s .stdout _

theorem run (builtin : Builtin) (h : builtin ≠ .exit) (arguments : List String) (s : Shell) :
    R s (builtin.run arguments s).2 := by
  cases builtin with
  | echo => exact hR.runEcho arguments s
  | exit => exact absurd rfl h
  | type => exact hR.runType arguments s
  | pwd => exact hR.runPwd s
  | cd => exact hR.runCd arguments s
  | history => exact hR.runHistory arguments s
  | help => exact hR.runHelp arguments s
  | clear => exact hR.printOut s .stdout _

end Shell.StepClosed

/-- A relation between a shell and what becomes of it that also holds of the steps of jobs. -/
structure Shell.JobClosed (b : Behaviour) (R : Shell → Shell → Prop) : Prop extends
    Shell.StepClosed R where
  openTargets : ∀ s r, R s { s with host := (s.host.openTargets r).2 }
  newBuffer : ∀ s, R s { s with host := s.host.newBuffer.2 }
  take : ∀ s sink, R s { s with host := (s.host.take sink).2 }
  runSingle : ∀ s stage background,
    R s { s with host := ((Host.machine b).runSingle s.streams stage background s.host).2 }
  runPipeline : ∀ s stages background,
    R s { s with host := ((Host.machine b).runPipeline s.streams stages background s.host).2 }
  exitCode : ∀ s code, R s { s with exitCode := code }
  within : ∀ s {streams t}, R { s with streams := streams } t → R s { t with streams := s.streams }

namespace Shell.JobClosed

variable {b : Behaviour} {R : Shell → Shell → Prop} (hR : JobClosed b R)

include hR

theorem dispatch (c : Command) (background : Bool) (s : Shell) :
    R s (s.dispatch b c background).2 := by
  unfold Shell.dispatch
  cases Builtin.ofName? c.program with
  | some builtin =>
    simp only
    generalize hn : s.note (Log.debug ("执行内建命令: " ++ c.render)) = t
    have ht : R s t := hn ▸ hR.note s _
    have hb : R t (builtin.run c.arguments t).2 := by
      by_cases he : builtin = .exit
      · subst he
        exact hR.trans (hR.note t _) (hR.exitCode _ _)
      · exact hR.run builtin he c.arguments t
    cases hr : builtin.run c.arguments t with
    | mk result u =>
      rw [hr] at hb
      cases result <;> exact hR.trans ht hb
  | none =>
    have hf := hR.find s c.program
    simp only
    cases hr : s.findProgram c.program with
    | mk found t =>
      rw [hr] at hf
      cases found with
      | none => exact hf
      | some path => exact hR.trans hf (hR.trans (hR.note t _) (hR.runSingle _ ⟨c, path⟩ background))

theorem redirected {α : Type} (s : Shell) (r : Redirects) (failed : α) {body : Shell → α × Shell}
    (hb : ∀ s, R s (body s).2) : R s (s.redirected r failed body).2 := by
  have ho := hR.openTargets s r
  unfold Shell.redirected
  cases hr : s.host.openTargets r with
  | mk opened host =>
    rw [hr] at ho
    cases opened with
    | error f => exact hR.trans ho (hR.report { s with host := host } f)
    | ok opened => exact hR.trans ho (hR.within { s with host := host } (hb _))

theorem single (c : Command) (s : Shell) : R s (s.single b c).2 := by
  unfold Shell.single
  refine hR.redirected s c.redirects true ?_
  intro t
  have hd := hR.dispatch c c.background t
  cases hr : t.dispatch b c c.background with
  | mk result u =>
    rw [hr] at hd
    cases result with
    | ok more => exact hd
    | error f =>
      cases f with
      | notFound program => exact hR.trans hd (hR.printAll u .stdout _)
      | process program cause => exact hR.trans hd (hR.report u _)
      | redirect path cause => exact hR.trans hd (hR.report u _)
      | builtin program cause => exact hR.trans hd (hR.report u _)

theorem stage (c : Command) (s : Shell) : R s (s.stage b c) := by
  unfold Shell.stage
  refine hR.redirected s c.redirects () ?_
  intro t
  have hd := hR.dispatch c false t
  cases hr : t.dispatch b c false with
  | mk result u =>
    rw [hr] at hd
    cases result with
    | ok more =>
      cases more with
      | true => exact hd
      | false => exact hR.trans hd (hR.trans (hR.note u _) (hR.exitCode _ _))
    | error f => exact hR.trans hd (hR.report u f)

theorem within_stage (c : Command) (r : Replacement) (s : Shell) :
    R s (s.within r fun s => ((), s.stage b c)).2 :=
  hR.within s (hR.stage c _)

theorem captured (c : Command) (input : Option Bytes) (s : Shell) :
    R s (s.captured b c input).2 := by
  have hw := hR.within_stage c { input := input.map .buffer, out := some s.host.newBuffer.1 }
    { s with host := s.host.newBuffer.2 }
  exact hR.trans (hR.newBuffer s) (hR.trans hw (hR.take _ s.host.newBuffer.1))

theorem stages (cs : List Command) (input : Option Bytes) (s : Shell) :
    R s (s.stages b cs input) := by
  fun_induction Shell.stages b cs input s with
  | case1 input s => exact hR.refl s
  | case2 c input s => exact hR.within_stage c _ s
  | case3 c rest input s hne data t ht ih =>
    have hc := hR.captured c input s
    rw [ht] at hc
    exact hR.trans hc ih

theorem resolve (cs : List Command) (s : Shell) : R s (s.resolve cs).2 := by
  induction cs generalizing s with
  | nil => exact hR.refl s
  | cons c cs ih =>
    have hf := hR.find s c.program
    unfold Shell.resolve
    cases hr : s.findProgram c.program with
    | mk found t =>
      rw [hr] at hf
      cases found with
      | none => exact hf
      | some path => exact hR.trans hf (ih t)

theorem external (cs : List Command) (s : Shell) : R s (s.external b cs) := by
  have hs := hR.resolve cs s
  unfold Shell.external
  cases hr : s.resolve cs with
  | mk found t =>
    rw [hr] at hs
    cases found with
    | error f => exact hR.trans hs (hR.report t f)
    | ok found =>
      have hp := hR.runPipeline t found (runsInBackground cs)
      simp only [Shell.launch]
      cases hm : (Host.machine b).runPipeline t.streams found (runsInBackground cs) t.host with
      | mk result host =>
        rw [hm] at hp
        cases result with
        | ok u => exact hR.trans hs hp
        | error f => exact hR.trans hs (hR.trans hp (hR.report _ f))

theorem pipeline (cs : List Command) (s : Shell) : R s (s.pipeline b cs) := by
  unfold Shell.pipeline Shell.mixed
  simp only
  split_ifs
  · exact hR.trans (hR.note s _) (hR.trans (hR.note _ _) (hR.stages cs none _))
  · exact hR.trans (hR.note s _) (hR.stages cs none _)
  · exact hR.trans (hR.note s _) (hR.external cs _)

theorem execute (job : Job) (s : Shell) : R s (s.execute b job).2 := by
  cases job with
  | command c => exact hR.single c s
  | pipeline cs => exact hR.pipeline cs s

theorem handle (line : String) (s : Shell) : R s (s.handle b line).2 := by
  have hr := hR.record line s
  unfold Shell.handle
  simp only
  split
  · exact hR.trans hr (hR.execute _ _)
  · exact hr
  · exact hR.trans hr (hR.trans (hR.note _ _) (hR.complain _ _))

end Shell.JobClosed

end PipeShell
