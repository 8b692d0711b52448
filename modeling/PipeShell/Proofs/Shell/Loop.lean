import PipeShell.Proofs.Shell.Readings
import PipeShell.Session

/-!
# Runs of the loop

The loop handles line after line until one of them is an `exit` on its own, the input ends, or a
line cannot be read.
-/

namespace PipeShell.Shell

structure Exits (s : Shell) (line : String) (c : Command) : Prop where
  job : Job.ofLine line = .ok (some (.command c))
  exit : c.program = "exit"
  opens : s.Opens c

theorem opens_record (s : Shell) (line : String) (c : Command) :
    (s.record line).Opens c ↔ s.Opens c := by
  rw [Opens, Opens, record]

theorem Exits.handle (b : Behaviour) {line : String} {c : Command} {s : Shell}
    (hx : s.Exits line c) :
    (s.handle b line).1 = false ∧
      (s.handle b line).2.exitCode = some (Builtin.exitCode c.arguments) := by
  have hs := single_exit b hx.exit ((opens_record s line c).2 hx.opens)
  simp only [Shell.handle, hx.job]
  exact ⟨hs.1, hs.2.2⟩

theorem sameControl_record (s : Shell) (line : String) : s.SameControl (s.record line) :=
  stepClosed_sameControl.record line s

theorem sameControl_refuse (s : Shell) (line : String) (e : SyntaxError) :
    s.SameControl (s.refuse line e) :=
  stepClosed_sameControl.trans (stepClosed_sameControl.note _ _)
    (stepClosed_sameControl.complain _ _)

theorem handle_of_not_exits (b : Behaviour) {line : String} {s : Shell} (hs : s.exitCode = none)
    (hn : ∀ c, ¬ s.Exits line c) :
    (s.handle b line).1 = true ∧ s.SameControl (s.handle b line).2 := by
  have hrec := sameControl_record s line
  unfold handle
  simp only
  split
  · next job hj =>
    have hstop : ¬ (s.record line).StopsOn job := by
      rintro ⟨c, rfl, hc, ho⟩
      exact hn c ⟨hj, hc, (opens_record s line c).1 ho⟩
    obtain ⟨hm, hc⟩ := execute_of_not_stopsOn b (hrec.2.trans hs) hstop
    exact ⟨hm, stepClosed_sameControl.trans hrec hc⟩
  · exact ⟨rfl, hrec⟩
  · next e _ =>
    exact ⟨rfl, stepClosed_sameControl.trans hrec (sameControl_refuse (s.record line) line e)⟩

theorem Exits.respond (b : Behaviour) {line : String} {c : Command} {s : Shell}
    (hx : s.Exits line c) :
    s.respond b (.line line) = (.stop (Builtin.exitCode c.arguments), (s.handle b line).2) := by
  obtain ⟨hf, hcode⟩ := hx.handle b
  cases hr : s.handle b line with
  | mk more t =>
    rw [hr] at hf hcode
    obtain rfl : more = false := hf
    simp only at hcode
    simp only [Shell.respond, hr, hcode, Option.getD_some]

theorem respond_of_not_exits (b : Behaviour) {line : String} {s : Shell} (hs : s.exitCode = none)
    (hn : ∀ c, ¬ s.Exits line c) :
    s.respond b (.line line) = (.again, (s.handle b line).2) := by
  obtain ⟨hm, -⟩ := handle_of_not_exits b hs hn
  cases hr : s.handle b line with
  | mk more t =>
    rw [hr] at hm
    obtain rfl : more = true := hm
    simp only [respond, hr]

inductive Response (b : Behaviour) (t : Shell) : Reading → Turn → Shell → Prop
  | stop {line : String} {c : Command} {code : Nat} (hx : t.Exits line c)
      (ha : Builtin.Asked c.arguments code) :
      Response b t (.line line) (.stop code) (t.handle b line).2
  | next {line : String} (hn : ∀ c, ¬ t.Exits line c)
      (hc : t.SameControl (t.handle b line).2) :
      Response b t (.line line) .again (t.handle b line).2
  | ended {h : Host} (hn : t.host.Noted h) : Response b t .ended (.stop 0) { t with host := h }
  | interrupted {h : Host} (hn : t.host.Noted h) :
      Response b t .interrupted .again { t with host := h }
  | failed {h : Host} {fault : Fault} (hn : t.host.Noted h) :
      Response b t (.failed fault) (.failed fault) { t with host := h }
  | unprepared {fault : Fault} : Response b t (.unprepared fault) (.failed fault) t

theorem response_respond (b : Behaviour) {t : Shell} (ht : t.exitCode = none) (reading : Reading) :
    Response b t reading (t.respond b reading).1 (t.respond b reading).2 := by
  cases reading with
  | line line =>
    by_cases hx : ∃ c, t.Exits line c
    · obtain ⟨c, hx⟩ := hx
      rw [hx.respond b]
      exact .stop hx (Builtin.asked_exitCode c.arguments)
    · rw [respond_of_not_exits b ht (not_exists.1 hx)]
      exact .next (not_exists.1 hx) (handle_of_not_exits b ht (not_exists.1 hx)).2
  | ended => exact .ended (t.host.noted_note _)
  | interrupted => exact .interrupted (t.host.noted_note _)
  | failed fault =>
    cases fault with
    | input cause => exact .failed (t.host.noted_note _)
    | output cause => exact .failed (.refl t.host)
    | unreported cause => exact .failed (.refl t.host)
    | splitCharacter => exact .failed (.refl t.host)
    | badVariable name value => exact .failed (.refl t.host)
  | unprepared fault => exact .unprepared

/-- What readings lead to. An `exit` on its own is the last line that is handled, and its code is
the answer. Behind every other line and behind an interruption the next reading follows. -/
inductive Run (b : Behaviour) :
    Editor → Shell → List Reading → Except Fault Nat → Shell → Prop
  | ended {e : Editor} {s t : Shell} {h : Host} (ho : s.Obtains e .ended t)
      (hn : t.host.Noted h) : Run b e s [.ended] (.ok 0) { t with host := h }
  | failed {e : Editor} {s t : Shell} {h : Host} {fault : Fault}
      (ho : s.Obtains e (.failed fault) t) (hn : t.host.Noted h) :
      Run b e s [.failed fault] (.error fault) { t with host := h }
  | stop {e : Editor} {s t : Shell} {line : String} {c : Command} {code : Nat}
      (ho : s.Obtains e (.line line) t) (hx : t.Exits line c)
      (ha : Builtin.Asked c.arguments code) :
      Run b e s [.line line] (.ok code) (t.handle b line).2
  | interrupted {e : Editor} {s t u : Shell} {h : Host} {readings : List Reading}
      {result : Except Fault Nat} (known : Editor) (ho : s.Obtains e .interrupted t)
      (hn : t.host.Noted h) (hrest : Run b known { t with host := h } readings result u) :
      Run b e s (.interrupted :: readings) result u
  | next {e : Editor} {s t u : Shell} {line : String} {readings : List Reading}
      {result : Except Fault Nat} (known : Editor) (ho : s.Obtains e (.line line) t)
      (hn : ∀ c, ¬ t.Exits line c) (hrest : Run b known (t.handle b line).2 readings result u) :
      Run b e s (.line line :: readings) result u

theorem Attends.run {b : Behaviour} {e : Editor} {s t : Shell} {readings : List Reading}
    {result : Except Fault Nat} (ha : Attends b e s readings result t) (hs : s.exitCode = none)
    (hp : ∀ fault, .unprepared fault ∉ readings) : Run b e s readings result t := by
  have hresponse {e : Editor} {s t u : Shell} {reading : Reading} {turn : Turn}
      (hs : s.exitCode = none) (ho : s.Obtains e reading t)
      (hr : t.respond b reading = (turn, u)) : Response b t reading turn u := by
    have h := response_respond b (ho.sameControl.2.trans hs) reading
    rwa [hr] at h
  induction ha with
  | stop ho hr =>
    cases hresponse hs ho hr with
    | stop hx ha => exact .stop ho hx ha
    | ended hn => exact .ended ho hn
  | failed ho hr =>
    cases hresponse hs ho hr with
    | failed hn => exact .failed ho hn
    | unprepared => exact absurd (List.mem_singleton_self _) (hp _)
  | again known ho hr hrest ih =>
    have hrestp := fun fault hm => hp fault (List.mem_cons_of_mem _ hm)
    have ht := ho.sameControl.2.trans hs
    cases hresponse hs ho hr with
    | next hn hc => exact .next known ho hn (ih (hc.2.trans ht) hrestp)
    | interrupted hn => exact .interrupted known ho hn (ih ht hrestp)

theorem Exits.unique {s : Shell} {line : String} {c d : Command} (hc : s.Exits line c)
    (hd : s.Exits line d) : c = d := by
  have hj := hc.job.symm.trans hd.job
  simpa using hj

theorem Run.of_exits {b : Behaviour} {e : Editor} {s u : Shell} {line : String} {c : Command}
    {readings : List Reading} {result : Except Fault Nat} {code : Nat}
    (hr : Run b e s (.line line :: readings) result u) (hx : ∀ t : Shell, t.Exits line c)
    (ha : Builtin.Asked c.arguments code) : readings = [] ∧ result = .ok code := by
  cases hr with
  | stop ho hx' ha' =>
    obtain rfl := hx'.unique (hx _)
    exact ⟨rfl, by rw [ha'.unique ha]⟩
  | next known ho hn hrest => exact absurd (hx _) (hn c)

/-- Only an `exit` on its own stops the shell. Every job gives the streams back; one that does not
stop the shell leaves no code behind. The loop therefore ends with the first such `exit`, with its
code, or with the input, unless a reading fails. What it reads are the lines of its input, as long
as programs leave these alone. -/
theorem only_exit_stops (b : Behaviour) :
    (∀ (job : Job) (s : Shell), s.exitCode = none →
      (s.execute b job).2.streams = s.streams ∧
      ((s.execute b job).1 = false ↔ s.StopsOn job) ∧
      (s.StopsOn job → ∃ c code, job = .command c ∧ code ≤ 255 ∧
        (s.execute b job).2.exitCode = some code ∧ Builtin.Asked c.arguments code) ∧
      (¬ s.StopsOn job → (s.execute b job).2.exitCode = none)) ∧
    (∀ (e : Editor) (s t : Shell) (readings : List Reading) (result : Except Fault Nat),
      s.exitCode = none → Attends b e s readings result t →
      (∀ fault, .unprepared fault ∉ readings) → Run b e s readings result t) ∧
    (b.Consumes → ∀ (e : Editor) (s : Shell),
      ∃ readings, Attends b e s readings (s.loop b e).1 (s.loop b e).2) ∧
    (b.Abstains → ∀ (e : Editor) (s : Shell) (lines : List String), s.exitCode = none →
      s.host.blockedOut = none → (∀ line ∈ lines, LineReader.Plain line) →
      e.reader.ahead ++ s.host.terminalIn = inputOf lines →
      ∃ readings, readings <+: lines.map .line ++ [.ended] ∧
        Run b e s readings (s.loop b e).1 (s.loop b e).2) := by
  refine ⟨?_, ?_, ?_, ?_⟩
  · intro job s hs
    by_cases hstop : s.StopsOn job
    · obtain ⟨hf, hst, c, code, hj, hcode, ha⟩ := execute_of_stopsOn b hstop
      exact ⟨hst, iff_of_true hf hstop, fun _ => ⟨c, code, hj, ha.le, hcode, ha⟩,
        fun h => absurd hstop h⟩
    · obtain ⟨hm, hst, hcode⟩ := execute_of_not_stopsOn b hs hstop
      refine ⟨hst, iff_of_false ?_ hstop, fun h => absurd h hstop, fun _ => hcode.trans hs⟩
      rw [hm]
      exact Bool.noConfusion
  · intro e s t readings result hs ha hp
    exact ha.run hs hp
  · intro hb e s
    exact attends_loop hb e s
  · intro hb e s lines hs ho hl hp
    have hn : lines.length ≤ e.reader.ahead.length + s.host.terminalIn.length := by
      rw [← List.length_append, hp]
      exact length_le_inputOf lines
    obtain ⟨readings, hprefix, ha⟩ := attends_lines hb hl hn ho hp
    refine ⟨readings, hprefix, ha.run hs ?_⟩
    intro fault hm
    have hmem := hprefix.subset hm
    simp at hmem

/-- After `exit 7` nothing is read, and after an interruption it stops the loop as well. -/
theorem only_exit_stops_seven :
    let b : Behaviour := fun _ h => (.exited 0, h)
    let e : Editor := { prompts := false }
    let s := Session.start (Settings.ofEnvironment []) false
      { files := Files.empty, terminalIn := Text.encode "exit 7\necho\n" }
    let job : Job := .command { program := "exit", arguments := ["7"] }
    b.Consumes ∧ b.Abstains ∧ s.StopsOn job ∧ (s.execute b job).1 = false ∧
      (s.execute b job).2.exitCode = some 7 ∧
      Run b e s [.line "exit 7"] (.ok 7) (s.loop b e).2 ∧ (s.loop b e).1 = .ok 7 ∧
      ∃ t, Run b e s [.interrupted, .line "exit 7"] (.ok 7) t := by
  intro b e s job
  have hb : b.Abstains := fun _ h => .refl h
  have hstop : s.StopsOn job := ⟨_, rfl, rfl, {}, rfl⟩
  obtain ⟨hjob, hany, -, hloop⟩ := only_exit_stops b
  obtain ⟨-, hmore, hcode, -⟩ := hjob job s rfl
  have hseven : Builtin.Asked ["7"] 7 := Builtin.asked_exitCode ["7"]
  have hexits : ∀ t : Shell, t.Exits "exit 7" { program := "exit", arguments := ["7"] } :=
    fun t => ⟨by decide +kernel, rfl, {}, rfl⟩
  have hplain : ∀ line ∈ ["exit 7", "echo"], LineReader.Plain line := by
    intro line hl
    rcases List.mem_pair.1 hl with rfl | rfl
    · exact ⟨by decide, by decide, by decide⟩
    · exact ⟨by decide, by decide, by decide⟩
  obtain ⟨readings, hprefix, hrun⟩ :=
    hloop hb e s ["exit 7", "echo"] rfl rfl hplain (by decide +kernel)
  refine ⟨fun _ _ => Nat.le_refl _, hb, hstop, hmore.2 hstop, ?_, ?_⟩
  · obtain ⟨c, code, hc, -, hexit, ha⟩ := hcode hstop
    obtain rfl := Job.command.inj hc
    rw [hexit, ha.unique hseven]
  · have hbreak : s.Obtains e .interrupted _ := obtains_of_blockedOut rfl (by simp) [] [] none
    obtain ⟨u, hu⟩ : ∃ u, u = (s.prepare e).2.2.leaving [] [] none := ⟨_, rfl⟩
    have hopen : (u.note (Log.debug "接收到中断信号...")).host.blockedOut = none := by
      exact (u.host.noted_note _).blockedOut.trans (by rw [hu]; rfl)
    have hline : Obtains _ e (.line "exit 7") _ := obtains_of_blockedOut hopen (by simp) [] [] none
    rw [← hu] at hbreak
    have hend : Attends b e s [.interrupted, .line "exit 7"] (.ok 7) _ :=
      .again e hbreak rfl (.stop hline ((hexits _).respond b))
    have hlong := hany e s _ _ _ rfl hend (by simp)
    cases readings with
    | nil => cases hrun
    | cons reading readings =>
      obtain ⟨rfl, -⟩ := List.cons_prefix_cons.1 hprefix
      obtain ⟨rfl, hresult⟩ := hrun.of_exits hexits hseven
      exact ⟨hresult ▸ hrun, hresult, _, hlong⟩

/-- A line that is not text ends the loop before the `exit` in the line after it. -/
theorem exit_unread_after_invalid_text :
    let b : Behaviour := fun _ h => (.exited 0, h)
    let e : Editor := { prompts := false }
    let s := Session.start (Settings.ofEnvironment []) false
      { files := Files.empty, terminalIn := 0xFF :: Text.encode "\nexit 7\n" }
    s.Exits "exit 7" { program := "exit", arguments := ["7"] } ∧
      Builtin.Asked ["7"] 7 ∧ (s.loop b e).1 = .error (.input .invalidText) ∧
      (s.loop b e).2.history.entries = [] := by
  intro b e s
  exact ⟨⟨by decide +kernel, rfl, {}, rfl⟩, Builtin.asked_exitCode ["7"], by decide +kernel,
    by decide +kernel⟩

end PipeShell.Shell
