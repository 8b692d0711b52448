import PipeShell.Proofs.Shell.Steps
import PipeShell.Proofs.Text.Number

/-!
# The control state of the shell

The control state is made of the three streams and of the code to stop with. Of all that a job can
do, only an `exit` that is a job of its own, with all its targets opened, changes it: it sets the
code, and it alone makes the shell stop. In a pipeline the code is set for the length of one stage
and taken back.
-/

namespace PipeShell

theorem goOn_ne_stop (r : Except OsError Unit × Shell) : (goOn r).1 ≠ .ok false := by
  unfold goOn
  cases r.1 <;> simp [Except.map]

namespace Builtin

theorem runType_ne_stop (names : List String) (s : Shell) : (runType names s).1 ≠ .ok false := by
  induction names generalizing s with
  | nil => simp [runType]
  | cons name names ih =>
    unfold runType
    simp only
    cases (describe name s).2.printAll .stdout (describe name s).1 with
    | mk result t =>
      cases result with
      | error e => simp
      | ok u => exact ih t

theorem withHistoryFile_ne_stop (verb : String) (file : Option String)
    (action : String → Shell → Except OsError Unit × Shell) (s : Shell) :
    (withHistoryFile verb file action s).1 ≠ .ok false := by
  unfold withHistoryFile
  split
  · exact goOn_ne_stop _
  · split
    · simp
    · exact goOn_ne_stop _

theorem run_ne_stop {builtin : Builtin} (h : builtin ≠ .exit) (arguments : List String) (s : Shell) :
    (builtin.run arguments s).1 ≠ .ok false := by
  cases builtin with
  | echo =>
    simp only [run, runEcho]
    split <;> exact goOn_ne_stop _
  | exit => exact absurd rfl h
  | type => exact runType_ne_stop arguments s
  | pwd =>
    simp only [run, runPwd]
    split
    · simp
    · exact goOn_ne_stop _
  | cd =>
    simp only [run, runCd]
    split
    · simp
    · exact goOn_ne_stop _
    · exact goOn_ne_stop _
  | history =>
    simp only [run, runHistory]
    split
    · exact goOn_ne_stop _
    · exact goOn_ne_stop _
    · exact withHistoryFile_ne_stop _ _ _ s
    · exact withHistoryFile_ne_stop _ _ _ s
    · exact withHistoryFile_ne_stop _ _ _ s
    · split_ifs <;> exact goOn_ne_stop _
  | help =>
    simp only [run, runHelp]
    split
    · exact goOn_ne_stop _
    · split <;> exact goOn_ne_stop _
  | clear => exact goOn_ne_stop _

theorem ofName?_eq_exit {name : String} : ofName? name = some .exit ↔ name = "exit" := by
  constructor
  · intro h
    have hn : Builtin.exit.name = name := by simpa using List.find?_some h
    exact hn.symm
  · rintro rfl
    exact ofName?_name .exit

/-- The code that `exit` is asked for: the first argument if it is a number from 0 to 255, and 0 for
anything else. -/
def Asked (arguments : List String) (code : Nat) : Prop :=
  (∃ word, arguments.head? = some word ∧ Text.Decimal word.toList code ∧ code ≤ 255) ∨
    (¬ ∃ word n, arguments.head? = some word ∧ Text.Decimal word.toList n ∧ 0 ≤ n ∧ n ≤ 255) ∧
      code = 0

theorem readInt?_of_decimal {word : String} {n : Int} (hd : Text.Decimal word.toList n)
    (h0 : 0 ≤ n) (hn : n ≤ 255) : Text.readInt? Text.maxSigned32 word.toList = some n :=
  Text.readInt?_eq_some_iff.2 ⟨hd, by omega, by simp only [Text.maxSigned32]; omega⟩

theorem asked_exitCode (arguments : List String) : Asked arguments (exitCode arguments) := by
  by_cases h : ∃ word n, arguments.head? = some word ∧ Text.Decimal word.toList n ∧
      0 ≤ n ∧ n ≤ 255
  · left
    obtain ⟨word, n, hw, hd, h0, hn⟩ := h
    have hcode : exitCode arguments = n.toNat := by
      simp only [exitCode, hw, Option.bind_some, readInt?_of_decimal hd h0 hn, h0, hn, and_self,
        if_true]
    refine ⟨word, hw, ?_, by omega⟩
    rw [hcode, Int.toNat_of_nonneg h0]
    exact hd
  · refine Or.inr ⟨h, ?_⟩
    unfold exitCode
    cases hr : arguments.head?.bind fun word => Text.readInt? Text.maxSigned32 word.toList with
    | none => rfl
    | some n =>
      obtain ⟨word, hw, hr⟩ := Option.bind_eq_some_iff.1 hr
      have hout : ¬ (0 ≤ n ∧ n ≤ 255) := fun hn =>
        h ⟨word, n, hw, (Text.readInt?_eq_some_iff.1 hr).1, hn⟩
      simp only [hout, if_false]

theorem Asked.unique {arguments : List String} {code other : Nat} (hc : Asked arguments code)
    (ho : Asked arguments other) : code = other := by
  rcases hc with ⟨word, hw, hd, hle⟩ | ⟨hn, rfl⟩ <;> rcases ho with ⟨word', hw', hd', hle'⟩ | ⟨hn', rfl⟩
  · obtain rfl : word = word' := Option.some.inj (hw.symm.trans hw')
    exact Int.ofNat.inj (hd.unique hd')
  · exact absurd ⟨word, code, hw, hd, by omega, by omega⟩ hn'
  · exact absurd ⟨word', other, hw', hd', by omega, by omega⟩ hn
  · rfl

theorem Asked.le {arguments : List String} {code : Nat} (h : Asked arguments code) :
    code ≤ 255 := by
  rcases h with ⟨word, -, -, hc⟩ | ⟨-, rfl⟩
  · exact hc
  · exact Nat.zero_le _

end Builtin

namespace Shell

def SameControl (s t : Shell) : Prop := t.streams = s.streams ∧ t.exitCode = s.exitCode

theorem stepClosed_sameControl : StepClosed SameControl where
  refl _ := ⟨rfl, rfl⟩
  trans h k := ⟨k.1.trans h.1, k.2.trans h.2⟩
  note _ _ := ⟨rfl, rfl⟩
  print _ _ _ := ⟨rfl, rfl⟩
  find _ _ := ⟨rfl, rfl⟩
  files _ _ := ⟨rfl, rfl⟩
  history _ _ _ := ⟨rfl, rfl⟩

theorem dispatch_exit (b : Behaviour) {c : Command} (h : c.program = "exit") (background : Bool)
    (s : Shell) :
    (s.dispatch b c background).1 = .ok false ∧
      (s.dispatch b c background).2.streams = s.streams ∧
      (s.dispatch b c background).2.exitCode = some (Builtin.exitCode c.arguments) := by
  have hn : Builtin.ofName? c.program = some .exit := Builtin.ofName?_eq_exit.2 h
  unfold dispatch
  rw [hn]
  exact ⟨rfl, rfl, rfl⟩

theorem dispatch_of_ne_exit (b : Behaviour) {c : Command} (h : c.program ≠ "exit")
    (background : Bool) (s : Shell) :
    (s.dispatch b c background).1 ≠ .ok false ∧ s.SameControl (s.dispatch b c background).2 := by
  unfold dispatch
  cases hn : Builtin.ofName? c.program with
  | some builtin =>
    have hb : builtin ≠ .exit := by
      rintro rfl
      exact h (Builtin.ofName?_eq_exit.1 hn)
    have hm := Builtin.run_ne_stop hb c.arguments
      (s.note (Log.debug ("执行内建命令: " ++ c.render)))
    have hc := stepClosed_sameControl.run builtin hb c.arguments
      (s.note (Log.debug ("执行内建命令: " ++ c.render)))
    simp only
    cases hr : builtin.run c.arguments (s.note (Log.debug ("执行内建命令: " ++ c.render))) with
    | mk result t =>
      rw [hr] at hm hc
      cases result with
      | error e => exact ⟨by simp, hc⟩
      | ok more => exact ⟨by simpa using hm, hc⟩
  | none =>
    have hf := stepClosed_sameControl.find s c.program
    simp only
    cases hr : s.findProgram c.program with
    | mk found t =>
      rw [hr] at hf
      cases found with
      | none => exact ⟨by simp, hf⟩
      | some path =>
        refine ⟨?_, hf⟩
        simp only
        cases ((Host.machine b).runSingle _ _ _ _).1 <;> simp [Except.map]

theorem redirected_of_error {α : Type} {s : Shell} {r : Redirects} {f : Failure} {h : Host}
    (ho : s.host.openTargets r = (.error f, h)) (failed : α) (body : Shell → α × Shell) :
    s.redirected r failed body = (failed, { s with host := h }.report f) := by
  rw [redirected, ho]

theorem redirected_of_ok {α : Type} {s : Shell} {r : Redirects} {opened : Replacement} {h : Host}
    (ho : s.host.openTargets r = (.ok opened, h)) (failed : α) (body : Shell → α × Shell) :
    s.redirected r failed body = { s with host := h }.within opened body := by
  rw [redirected, ho]

def Opens (s : Shell) (c : Command) : Prop :=
  ∃ opened, (s.host.openTargets c.redirects).1 = .ok opened

theorem single_exit (b : Behaviour) {c : Command} {s : Shell} (hc : c.program = "exit")
    (ho : s.Opens c) :
    (s.single b c).1 = false ∧ (s.single b c).2.streams = s.streams ∧
      (s.single b c).2.exitCode = some (Builtin.exitCode c.arguments) := by
  obtain ⟨opened, ho⟩ := ho
  have hd := dispatch_exit b hc c.background
    { s with host := (s.host.openTargets c.redirects).2, streams := s.streams.replace opened }
  rw [single, redirected_of_ok (Prod.ext ho rfl), within]
  simp only
  cases hr : dispatch b c c.background
      { s with host := (s.host.openTargets c.redirects).2, streams := s.streams.replace opened } with
  | mk result t =>
    rw [hr] at hd
    obtain ⟨rfl, -, he⟩ := hd
    exact ⟨rfl, trivial, he⟩

theorem single_of_not_exit (b : Behaviour) {c : Command} {s : Shell}
    (h : ¬ (c.program = "exit" ∧ s.Opens c)) :
    (s.single b c).1 = true ∧ s.SameControl (s.single b c).2 := by
  cases ho : s.host.openTargets c.redirects with
  | mk opened host =>
    cases opened with
    | error f =>
      rw [single, redirected_of_error ho]
      exact ⟨rfl, stepClosed_sameControl.report { s with host := host } f⟩
    | ok opened =>
      have hne : c.program ≠ "exit" := fun hc => h ⟨hc, opened, by rw [ho]⟩
      have hd := dispatch_of_ne_exit b hne c.background
        { s with host := host, streams := s.streams.replace opened }
      rw [single, redirected_of_ok ho, within]
      simp only
      cases hr : dispatch b c c.background
          { s with host := host, streams := s.streams.replace opened } with
      | mk result t =>
        rw [hr] at hd
        obtain ⟨hm, -, he⟩ := hd
        cases result with
        | ok more =>
          cases more with
          | false => exact absurd rfl hm
          | true => exact ⟨rfl, rfl, he⟩
        | error f =>
          have hf := (stepClosed_sameControl.report t f).2
          cases f with
          | notFound program =>
            exact ⟨rfl, rfl, (stepClosed_sameControl.printAll t .stdout _).2.trans he⟩
          | process program cause => exact ⟨rfl, rfl, hf.trans he⟩
          | redirect path cause => exact ⟨rfl, rfl, hf.trans he⟩
          | builtin program cause => exact ⟨rfl, rfl, hf.trans he⟩

/-- The code that an `exit` sets in a stage is taken back with the stage. -/
theorem stage_sameControl (b : Behaviour) (c : Command) {s : Shell} (hs : s.exitCode = none) :
    s.SameControl (s.stage b c) := by
  unfold stage
  cases ho : s.host.openTargets c.redirects with
  | mk opened host =>
    cases opened with
    | error f =>
      rw [redirected_of_error ho]
      exact stepClosed_sameControl.report { s with host := host } f
    | ok opened =>
      rw [redirected_of_ok ho, within]
      simp only
      by_cases hc : c.program = "exit"
      · have hd := dispatch_exit b hc false
          { s with host := host, streams := s.streams.replace opened }
        cases hr : dispatch b c false
            { s with host := host, streams := s.streams.replace opened } with
        | mk result t =>
          rw [hr] at hd
          obtain ⟨rfl, -⟩ := hd
          exact ⟨rfl, hs.symm⟩
      · have hd := dispatch_of_ne_exit b hc false
          { s with host := host, streams := s.streams.replace opened }
        cases hr : dispatch b c false
            { s with host := host, streams := s.streams.replace opened } with
        | mk result t =>
          rw [hr] at hd
          obtain ⟨hm, -, he⟩ := hd
          cases result with
          | ok more =>
            cases more with
            | false => exact absurd rfl hm
            | true => exact ⟨rfl, he⟩
          | error f => exact ⟨rfl, (stepClosed_sameControl.report t f).2.trans he⟩

theorem within_stage_sameControl (b : Behaviour) (c : Command) {s : Shell} (hs : s.exitCode = none)
    (r : Replacement) : s.SameControl (s.within r fun s => ((), s.stage b c)).2 := by
  have hc := stage_sameControl b c (s := { s with streams := s.streams.replace r }) hs
  exact ⟨rfl, hc.2⟩

theorem captured_sameControl (b : Behaviour) (c : Command) (input : Option Bytes) {s : Shell}
    (hs : s.exitCode = none) : s.SameControl (s.captured b c input).2 :=
  within_stage_sameControl b c (s := { s with host := s.host.newBuffer.2 }) hs _

theorem stages_sameControl (b : Behaviour) (cs : List Command) (input : Option Bytes) {s : Shell}
    (hs : s.exitCode = none) : s.SameControl (s.stages b cs input) := by
  fun_induction stages b cs input s with
  | case1 input s => exact stepClosed_sameControl.refl s
  | case2 c input s => exact within_stage_sameControl b c hs _
  | case3 c rest input s hne data t ht ih =>
    have hc := captured_sameControl b c input hs
    rw [ht] at hc
    exact stepClosed_sameControl.trans hc (ih (hc.2.trans hs))

theorem mixed_sameControl (b : Behaviour) (cs : List Command) {s : Shell}
    (hs : s.exitCode = none) : s.SameControl (s.mixed b cs) := by
  unfold mixed
  simp only
  split_ifs
  · exact stages_sameControl b cs none (s := s.note _) hs
  · exact stages_sameControl b cs none hs

theorem resolve_sameControl (cs : List Command) (s : Shell) :
    s.SameControl (s.resolve cs).2 := by
  induction cs generalizing s with
  | nil => exact stepClosed_sameControl.refl s
  | cons c cs ih =>
    have hf := stepClosed_sameControl.find s c.program
    unfold resolve
    cases hr : s.findProgram c.program with
    | mk found t =>
      rw [hr] at hf
      cases found with
      | none => exact hf
      | some path => exact stepClosed_sameControl.trans hf (ih t)

theorem external_sameControl (b : Behaviour) (cs : List Command) (s : Shell) :
    s.SameControl (s.external b cs) := by
  have hc := resolve_sameControl cs s
  unfold external
  cases hr : s.resolve cs with
  | mk found t =>
    rw [hr] at hc
    cases found with
    | error f => exact stepClosed_sameControl.trans hc (stepClosed_sameControl.report t f)
    | ok found =>
      simp only [launch]
      cases (Host.machine b).runPipeline t.streams found (runsInBackground cs) t.host with
      | mk result host =>
        cases result with
        | ok u => exact hc
        | error f =>
          exact stepClosed_sameControl.trans hc
            (stepClosed_sameControl.report { t with host := host } f)

theorem pipeline_sameControl (b : Behaviour) (cs : List Command) {s : Shell}
    (hs : s.exitCode = none) : s.SameControl (s.pipeline b cs) := by
  unfold pipeline
  split_ifs
  · exact mixed_sameControl b cs (s := s.note _) hs
  · exact external_sameControl b cs (s.note _)

def StopsOn (s : Shell) (job : Job) : Prop :=
  ∃ c, job = .command c ∧ c.program = "exit" ∧ s.Opens c

theorem execute_of_stopsOn (b : Behaviour) {job : Job} {s : Shell} (h : s.StopsOn job) :
    (s.execute b job).1 = false ∧ (s.execute b job).2.streams = s.streams ∧
      ∃ c code, job = .command c ∧ (s.execute b job).2.exitCode = some code ∧
        Builtin.Asked c.arguments code := by
  obtain ⟨c, rfl, hc, ho⟩ := h
  obtain ⟨hf, hst, he⟩ := single_exit b hc ho
  exact ⟨hf, hst, c, _, rfl, he, Builtin.asked_exitCode c.arguments⟩

theorem execute_of_not_stopsOn (b : Behaviour) {job : Job} {s : Shell} (hs : s.exitCode = none)
    (h : ¬ s.StopsOn job) :
    (s.execute b job).1 = true ∧ s.SameControl (s.execute b job).2 := by
  cases job with
  | command c =>
    refine single_of_not_exit b ?_
    rintro ⟨hc, ho⟩
    exact h ⟨c, rfl, hc, ho⟩
  | pipeline cs => exact ⟨rfl, pipeline_sameControl b cs hs⟩

end Shell

end PipeShell
