import PipeShell.Proofs.Shell.Control
import PipeShell.Proofs.Shell.Input
import PipeShell.Proofs.Shell.Terminal
import PipeShell.Shell.Loop

/-!
# Readings of the loop

The loop is described here with any readings, whether or not they can be made on a terminal. Those
that it makes are the lines of its input, if programs leave the input alone; otherwise programs may
take part of it away. The number of turns that the loop allows itself is always enough, since a
program cannot give input back.
-/

namespace PipeShell

namespace LineReader

theorem length_pending_next {r : LineReader} {h : Host} (hl : (r.next h).1 ≠ none) :
    ((r.next h).2.1.pending (r.next h).2.2).length < (r.pending h).length := by
  have hf := congrArg List.length (fill_append r.ahead h.terminalIn)
  have hne : (fill r.ahead h.terminalIn).1.length ≠ 0 := by
    intro he
    refine hl ?_
    simp [next, List.eq_nil_of_length_eq_zero he]
  simp only [List.length_append] at hf
  simp only [next, pending, List.length_append, List.length_drop]
  omega

end LineReader

namespace Shell

def leaving (s : Shell) (input shown : Bytes) (blocked : Option Blocked) : Shell :=
  { s with host := { s.host with terminalIn := input, terminalOut := shown, blockedOut := blocked } }

/-- A reading that the shell can come to, with the shell after it. It is as good as any other,
unless the shell cannot be prepared for it. -/
structure Obtains (s : Shell) (e : Editor) (reading : Reading) (t : Shell) : Prop where
  unprepared : ∀ fault, reading = .unprepared fault ↔ (s.prepare e).1 = .error fault
  rest : ∃ input shown blocked, t = (s.prepare e).2.2.leaving input shown blocked

/-- The loop with any readings. Nothing is said of what the editor knows after a reading. -/
inductive Attends (b : Behaviour) :
    Editor → Shell → List Reading → Except Fault Nat → Shell → Prop
  | stop {e : Editor} {s t u : Shell} {reading : Reading} {code : Nat}
      (ho : s.Obtains e reading t) (hr : t.respond b reading = (.stop code, u)) :
      Attends b e s [reading] (.ok code) u
  | failed {e : Editor} {s t u : Shell} {reading : Reading} {fault : Fault}
      (ho : s.Obtains e reading t) (hr : t.respond b reading = (.failed fault, u)) :
      Attends b e s [reading] (.error fault) u
  | again {e : Editor} {s t u v : Shell} {reading : Reading} {readings : List Reading}
      {result : Except Fault Nat} (known : Editor) (ho : s.Obtains e reading t)
      (hr : t.respond b reading = (.again, u)) (hrest : Attends b known u readings result v) :
      Attends b e s (reading :: readings) result v

theorem sync_reader (s : Shell) (e : Editor) : (s.sync e).1.reader = e.reader := by
  unfold sync
  split_ifs <;> rfl

theorem sameControl_sync (s : Shell) (e : Editor) : s.SameControl (s.sync e).2 := by
  unfold sync
  split_ifs
  · exact ⟨rfl, rfl⟩
  · exact ⟨rfl, rfl⟩

theorem steady_sync (s : Shell) (e : Editor) : s.host.Steady (s.sync e).2.host := by
  unfold sync
  split_ifs
  · exact .refl _
  · exact (s.host.noted_note _).steady

theorem prepare_reader (s : Shell) (e : Editor) : (s.prepare e).2.1.reader = e.reader :=
  sync_reader _ e

theorem sameControl_prepare (s : Shell) (e : Editor) : s.SameControl (s.prepare e).2.2 :=
  sameControl_sync { s with host := s.host.reap.2 } e

theorem steady_prepare (s : Shell) (e : Editor) : s.host.Steady (s.prepare e).2.2.host := by
  have hreap : s.host.Steady s.host.reap.2 := .of_eq rfl rfl
  exact hreap.trans (steady_sync { s with host := s.host.reap.2 } e)

theorem Obtains.sameControl {s t : Shell} {e : Editor} {reading : Reading}
    (ho : s.Obtains e reading t) : s.SameControl t := by
  obtain ⟨input, shown, blocked, rfl⟩ := ho.rest
  exact sameControl_prepare s e

theorem showPrompt_rest (s : Shell) (e : Editor) :
    ∃ shown blocked, (s.showPrompt e).2 = s.leaving s.host.terminalIn shown blocked := by
  unfold showPrompt
  simp only
  generalize Text.encode (if e.prompts then s.theme.styledPrompt s.colours else "") = data
  have hsay : ∃ shown blocked, (s.host.say .terminalOut data).2 =
      { s.host with terminalOut := shown, blockedOut := blocked } := by
    rcases s.host.say_cases .terminalOut data with hw | ⟨b, -, hb, hw⟩
    · rw [hw, Host.write_terminalOut]
      exact ⟨_, _, rfl⟩
    · rw [hw]
      exact ⟨_, _, rfl⟩
  obtain ⟨shown, blocked, hs⟩ := hsay
  refine ⟨shown, blocked, ?_⟩
  rcases hr : s.host.say .terminalOut data with ⟨_ | _, host⟩
  · rw [hr] at hs
    obtain rfl : host = _ := hs
    rfl
  · rw [hr] at hs
    obtain rfl : host = _ := hs
    rfl

theorem readLine_rest (s : Shell) (e : Editor) :
    (s.readLine e).2.2 = s.leaving (e.reader.next s.host).2.2.terminalIn s.host.terminalOut
      s.host.blockedOut := rfl

theorem readLine_ne_unprepared (s : Shell) (e : Editor) (fault : Fault) :
    (s.readLine e).1 ≠ .unprepared fault := by
  simp only [readLine]
  split <;> simp

theorem obtains_attend (s : Shell) (e : Editor) :
    s.Obtains e (s.attend e).1 (s.attend e).2.2 := by
  unfold attend
  rcases hp : s.prepare e with ⟨result, e', t⟩
  cases result with
  | error fault =>
    exact ⟨by simp [hp], t.host.terminalIn, t.host.terminalOut, t.host.blockedOut, by rw [hp]; rfl⟩
  | ok u =>
    obtain ⟨shown, blocked, hprompt⟩ := t.showPrompt_rest e'
    simp only [read]
    rcases hs : t.showPrompt e' with ⟨_ | _, v⟩
    · rw [hs] at hprompt
      obtain rfl : v = _ := hprompt
      exact ⟨by simp [hp], _, shown, blocked, by rw [hp]⟩
    · rw [hs] at hprompt
      obtain rfl : v = _ := hprompt
      refine ⟨?_, _, shown, blocked, by rw [hp, readLine_rest]; rfl⟩
      intro fault
      simp [hp, readLine_ne_unprepared]

theorem flush_of_blockedOut {h : Host} (hb : h.blockedOut = none) : h.flush = .ok () := by
  rw [Host.flush, hb]

theorem prepare_of_blockedOut {s : Shell} (e : Editor) (hb : s.host.blockedOut = none) :
    (s.prepare e).1 = .ok () := by
  have hp := (steady_prepare s e).blockedOut hb
  change ((s.prepare e).2.2.host.flush).mapError Fault.output = .ok ()
  rw [flush_of_blockedOut hp]
  rfl

theorem obtains_of_blockedOut {s : Shell} {e : Editor} (hb : s.host.blockedOut = none)
    {reading : Reading} (hr : ∀ fault, reading ≠ .unprepared fault) (input shown : Bytes)
    (blocked : Option Blocked) :
    s.Obtains e reading ((s.prepare e).2.2.leaving input shown blocked) := by
  refine ⟨?_, input, shown, blocked, rfl⟩
  intro fault
  rw [prepare_of_blockedOut e hb]
  exact iff_of_false (hr fault) nofun

def answered (b : Behaviour) (e : Editor) (s : Shell) (reading : Reading) : Turn × Shell :=
  ((s.prepare e).2.2.leaving [] [] none).respond b reading

theorem Attends.of_answered_stop {b : Behaviour} {e : Editor} {s : Shell} {reading : Reading}
    {code : Nat} (hb : s.host.blockedOut = none) (hr : ∀ fault, reading ≠ .unprepared fault)
    (ha : (answered b e s reading).1 = .stop code) :
    Attends b e s [reading] (.ok code) (answered b e s reading).2 :=
  .stop (obtains_of_blockedOut hb hr [] [] none) (Prod.ext ha rfl)

theorem Attends.of_answered_again {b : Behaviour} {e : Editor} {s v : Shell} {reading : Reading}
    {readings : List Reading} {result : Except Fault Nat} (hb : s.host.blockedOut = none)
    (hr : ∀ fault, reading ≠ .unprepared fault) (ha : (answered b e s reading).1 = .again)
    (hrest : Attends b (.new []) (answered b e s reading).2 readings result v) :
    Attends b e s (reading :: readings) result v :=
  .again (.new []) (obtains_of_blockedOut hb hr [] [] none) (Prod.ext ha rfl) hrest

theorem steady_showPrompt (s : Shell) (e : Editor) : s.host.Steady (s.showPrompt e).2.host := by
  have hs := s.host.steady_say .terminalOut
    (Text.encode (if e.prompts then s.theme.styledPrompt s.colours else ""))
  simp only [showPrompt]
  split
  · next h => rwa [h] at hs
  · next h => rwa [h] at hs

theorem showPrompt_of_blockedOut {s : Shell} (e : Editor) (hb : s.host.blockedOut = none) :
    (s.showPrompt e).1 = .ok () := by
  have hw := (s.host.steady_say .terminalOut
    (Text.encode (if e.prompts then s.theme.styledPrompt s.colours else ""))).blockedOut hb
  simp only [showPrompt]
  split
  · next h => simp [Host.say, Host.write, hb] at h
  · next h =>
    rw [h] at hw
    exact flush_of_blockedOut hw

/-- A line is only read once the output is out and the prompt is shown, for which a terminal that
takes output is enough. -/
theorem attend_cases (s : Shell) (e : Editor) :
    (s.host.blockedOut ≠ none ∧
        ∃ fault, (s.attend e).1 = .unprepared fault ∨ (s.attend e).1 = .failed fault) ∨
      ∃ (e' : Editor) (t : Shell), e'.reader = e.reader ∧ s.host.Steady t.host ∧
        s.attend e = t.readLine e' := by
  have hp := @prepare_of_blockedOut s e
  have hready := steady_prepare s e
  have hreader := prepare_reader s e
  unfold attend
  rcases hr : s.prepare e with ⟨result, e', t⟩
  rw [hr] at hp hready hreader
  cases result with
  | error fault => exact Or.inl ⟨fun hb => by simpa using hp hb, fault, Or.inl rfl⟩
  | ok u =>
    have hs := @showPrompt_of_blockedOut t e'
    have hprompt := steady_showPrompt t e'
    simp only [read]
    rcases hr : t.showPrompt e' with ⟨_ | _, v⟩
    · rw [hr] at hs
      exact Or.inl ⟨fun hb => by simpa using hs (hready.blockedOut hb), _, Or.inr rfl⟩
    · rw [hr] at hprompt
      exact Or.inr ⟨e', v, hreader, hready.trans hprompt, rfl⟩

theorem turn_eq (b : Behaviour) (e : Editor) (s : Shell) :
    s.turn b e = (((s.attend e).2.2.respond b (s.attend e).1).1, (s.attend e).2.1,
      ((s.attend e).2.2.respond b (s.attend e).1).2) := rfl

theorem respond_line_host (b : Behaviour) (s : Shell) (line : String) :
    (s.respond b (.line line)).2 = (s.handle b line).2 := by
  rcases hh : s.handle b line with ⟨_ | _, u⟩ <;> simp [respond, hh]

theorem respond_failed_ne (b : Behaviour) (s : Shell) (fault : Fault) :
    (s.respond b (.failed fault)).1 ≠ .again := by
  cases fault <;> simp [respond]

theorem pending_congr {e e' : Editor} {s t : Shell} (hr : e'.reader = e.reader)
    (hs : s.host.Steady t.host) : e'.reader.pending t.host = e.reader.pending s.host := by
  rw [LineReader.pending, LineReader.pending, hr, hs.terminalIn]

theorem length_pending_turn {b : Behaviour} (hb : b.Consumes) {e : Editor} {s : Shell}
    (h : (s.turn b e).1 = .again) :
    ((s.turn b e).2.1.reader.pending (s.turn b e).2.2.host).length <
      (e.reader.pending s.host).length := by
  rw [turn_eq] at h ⊢
  rcases attend_cases s e with ⟨-, fault, hf | hf⟩ | ⟨e', t, hr, hs, ha⟩
  · rw [hf] at h
    cases h
  · rw [hf] at h
    exact absurd h (respond_failed_ne b _ fault)
  · rw [ha] at h ⊢
    rw [← pending_congr hr hs]
    cases hl : (t.readLine e').1 with
    | ended => rw [hl] at h; cases h
    | interrupted =>
      simp only [readLine] at hl
      split at hl <;> cases hl
    | failed fault => rw [hl] at h; exact absurd h (respond_failed_ne b _ fault)
    | unprepared fault => exact absurd hl (readLine_ne_unprepared t e' fault)
    | line line =>
      have hn : (e'.reader.next t.host).1 ≠ none := by
        intro hn
        simp [readLine, hn] at hl
      have hlt := LineReader.length_pending_next hn
      have hd := hb.follower.jobClosed.handle line (t.readLine e').2.2
      simp only [respond_line_host]
      simp only [LineReader.pending, List.length_append] at hlt ⊢
      exact Nat.lt_of_le_of_lt (Nat.add_le_add_left hd _) hlt

/-- One turn is one reading, and the others are those of the turns after it. -/
theorem attends_succ {b : Behaviour} {n : Nat} {e : Editor} {s : Shell}
    {P : List Reading → Prop}
    (hrest : (s.turn b e).1 = .again → ∃ readings, P readings ∧
      Attends b (s.turn b e).2.1 (s.turn b e).2.2 readings
        (turns b n (s.turn b e).2.1 (s.turn b e).2.2).1
        (turns b n (s.turn b e).2.1 (s.turn b e).2.2).2) :
    ∃ readings, (readings = [] ∨ P readings) ∧
      Attends b e s ((s.attend e).1 :: readings) (turns b (n + 1) e s).1
        (turns b (n + 1) e s).2 := by
  have ho := obtains_attend s e
  have hr : (s.attend e).2.2.respond b (s.attend e).1 = ((s.turn b e).1, (s.turn b e).2.2) := rfl
  unfold turns
  rcases ht : s.turn b e with ⟨turn, e', t⟩
  rw [ht] at hr hrest
  cases turn with
  | stop code => exact ⟨[], Or.inl rfl, .stop ho hr⟩
  | failed fault => exact ⟨[], Or.inl rfl, .failed ho hr⟩
  | again =>
    obtain ⟨readings, hp, hrest⟩ := hrest rfl
    exact ⟨readings, Or.inr hp, .again _ ho hr hrest⟩

/-- The turns that are allowed are enough to see the run to its end. -/
theorem attends_turns {b : Behaviour} (hb : b.Consumes) (n : Nat) {e : Editor} {s : Shell}
    (hn : (e.reader.pending s.host).length < n) :
    ∃ readings, Attends b e s readings (turns b n e s).1 (turns b n e s).2 := by
  induction n generalizing e s with
  | zero => omega
  | succ n ih =>
    obtain ⟨readings, -, ha⟩ := attends_succ (n := n) (e := e) (s := s) (P := fun _ => True) (by
      intro ht
      have hless := length_pending_turn hb ht
      obtain ⟨readings, hrest⟩ := ih (Nat.lt_of_lt_of_le hless (Nat.le_of_lt_succ hn))
      exact ⟨readings, trivial, hrest⟩)
    exact ⟨_, ha⟩

theorem attends_loop {b : Behaviour} (hb : b.Consumes) (e : Editor) (s : Shell) :
    ∃ readings, Attends b e s readings (s.loop b e).1 (s.loop b e).2 := by
  refine attends_turns hb _ ?_
  rw [LineReader.pending, List.length_append]
  exact Nat.lt_succ_self _

def inputOf (lines : List String) : Bytes := lines.flatMap fun line => Text.encode (line ++ "\n")

theorem inputOf_cons (line : String) (lines : List String) :
    inputOf (line :: lines) = Text.encode (line ++ "\n") ++ inputOf lines := rfl

theorem length_le_inputOf (lines : List String) : lines.length ≤ (inputOf lines).length := by
  induction lines with
  | nil => exact Nat.le_refl _
  | cons line lines ih =>
    have hend : 0 < (Text.encode (line ++ "\n")).length := by
      rw [Text.encode_append, List.length_append]
      exact Nat.add_pos_right _ (by decide)
    rw [inputOf_cons, List.length_append, List.length_cons]
    omega

theorem readLine_of_line {t : Shell} {e : Editor} {line : String} {rest : Bytes}
    (hl : LineReader.Plain line)
    (hp : e.reader.pending t.host = Text.encode (line ++ "\n") ++ rest) :
    (t.readLine e).1 = .line line ∧
      (t.readLine e).2.1.reader.pending (t.readLine e).2.2.host = rest := by
  have hfeed : LineReader.feed ∉ Text.encode line := Text.feed_notMem_encode hl.feed
  have hend : Text.encode (line ++ "\n") = Text.encode line ++ [LineReader.feed] := by
    rw [Text.encode_append]
    rfl
  have htext := hl.text
  rw [hend, List.append_assoc] at hp
  rw [hend] at htext
  obtain ⟨hn, hrest⟩ := LineReader.next_line hfeed hp
  simp only [readLine, hn, Option.map_some, htext]
  exact ⟨trivial, hrest⟩

theorem readLine_of_end {t : Shell} {e : Editor} (hp : e.reader.pending t.host = []) :
    (t.readLine e).1 = .ended := by
  simp [readLine, LineReader.next_end hp]

theorem attend_of_blockedOut {s : Shell} (e : Editor) (hb : s.host.blockedOut = none) :
    ∃ (e' : Editor) (t : Shell), t.host.blockedOut = none ∧
      e'.reader.pending t.host = e.reader.pending s.host ∧ s.attend e = t.readLine e' := by
  rcases attend_cases s e with ⟨hne, -⟩ | ⟨e', t, hr, hs, ha⟩
  · exact absurd hb hne
  · exact ⟨e', t, hs.blockedOut hb, pending_congr hr hs, ha⟩

/-- If programs leave the input alone, the readings are its lines, as far as the loop gets. -/
theorem attends_lines {b : Behaviour} (hb : b.Abstains) {lines : List String}
    (hl : ∀ line ∈ lines, LineReader.Plain line) {n : Nat} (hn : lines.length ≤ n) {e : Editor}
    {s : Shell} (ho : s.host.blockedOut = none) (hp : e.reader.pending s.host = inputOf lines) :
    ∃ readings, readings <+: lines.map .line ++ [.ended] ∧
      Attends b e s readings (turns b (n + 1) e s).1 (turns b (n + 1) e s).2 := by
  induction lines generalizing n e s with
  | nil =>
    obtain ⟨e', t, -, hpt, ha⟩ := attend_of_blockedOut e ho
    have hended : (s.attend e).1 = .ended := by
      rw [ha]
      exact readLine_of_end (hpt.trans hp)
    obtain ⟨readings, rfl | hf, hrun⟩ := attends_succ (b := b) (n := n) (e := e) (s := s)
      (P := fun _ => False) (by
        intro ht
        rw [turn_eq, hended] at ht
        cases ht)
    · rw [hended] at hrun
      exact ⟨_, List.prefix_refl _, hrun⟩
    · exact hf.elim
  | cons line lines ih =>
    obtain ⟨n, rfl⟩ := Nat.exists_eq_succ_of_ne_zero (Nat.ne_of_gt (Nat.lt_of_lt_of_le
      (Nat.succ_pos _) hn))
    obtain ⟨e', t, htb, hpt, ha⟩ := attend_of_blockedOut e ho
    rw [inputOf_cons] at hp
    obtain ⟨hline, hrest⟩ := readLine_of_line (hl line List.mem_cons_self) (hpt.trans hp)
    rw [← ha] at hline hrest
    have hafter : (s.attend e).2.2.host.Steady (s.turn b e).2.2.host := by
      rw [turn_eq, hline, respond_line_host]
      exact hb.follower.jobClosed.handle line (s.attend e).2.2
    have hopen : (s.attend e).2.2.host.blockedOut = none := by
      rw [ha]
      exact htb
    obtain ⟨readings, hreadings, hrun⟩ := attends_succ (b := b) (n := n + 1) (e := e) (s := s)
      (P := fun readings => readings <+: lines.map .line ++ [.ended]) (by
        intro _
        refine ih (fun l hm => hl l (List.mem_cons_of_mem _ hm)) (Nat.le_of_succ_le_succ hn)
          (hafter.blockedOut hopen) ?_
        exact (pending_congr rfl hafter).trans hrest)
    rw [hline] at hrun
    refine ⟨_, ?_, hrun⟩
    rw [List.map_cons, List.cons_append, List.prefix_cons_inj]
    rcases hreadings with rfl | hreadings
    · exact List.nil_prefix
    · exact hreadings

end Shell

end PipeShell
