import PipeShell.Proofs.Host.Frame

/-!
# What reaches the sinks

A run of the shell is seen here through the sinks that a host had at some earlier point, the base.
Between writes to these sinks, other things happen: files change, further files are opened and
written to, the log grows. A delivery keeps only the writes.
-/

namespace PipeShell.Host

def Has (h : Host) : Sink → Prop
  | .terminalOut => True
  | .terminalErr => True
  | .file handle => handle < h.opened.size
  | .buffer n => n < h.buffers.size

instance (h : Host) (sink : Sink) : Decidable (h.Has sink) := by
  cases sink <;> unfold Has <;> infer_instance

/-- Every sink of the base is there. -/
structure Within (base h : Host) : Prop where
  opened : base.opened.size ≤ h.opened.size
  buffers : base.buffers.size ≤ h.buffers.size

theorem Within.of_eq {h k : Host} (ho : k.opened = h.opened) (hb : k.buffers = h.buffers) :
    Within h k := ⟨Nat.le_of_eq (by rw [ho]), Nat.le_of_eq (by rw [hb])⟩

theorem Within.refl (h : Host) : Within h h := Within.of_eq rfl rfl

theorem Within.trans {h k l : Host} (hk : Within h k) (hl : Within k l) : Within h l :=
  ⟨Nat.le_trans hk.opened hl.opened, Nat.le_trans hk.buffers hl.buffers⟩

theorem Within.has {base h : Host} (hw : Within base h) {sink : Sink} (hs : base.Has sink) :
    h.Has sink := by
  cases sink with
  | terminalOut => trivial
  | terminalErr => trivial
  | file handle => exact Nat.lt_of_lt_of_le hs hw.opened
  | buffer n => exact Nat.lt_of_lt_of_le hs hw.buffers

/-- Nothing is written to the sinks of the base, lines of the log apart. -/
structure Quiet (base h k : Host) : Prop where
  within : Within h k
  opened : ∀ n, n < base.opened.size → k.opened[n]? = h.opened[n]?
  buffers : ∀ n, n < base.buffers.size → k.buffers[n]? = h.buffers[n]?
  terminalOut : k.terminalOut = h.terminalOut
  terminalErr : ∃ echoed, Echo h echoed ∧ k.terminalErr = h.terminalErr ++ echoed
  takes : k.takes = h.takes
  logFile : k.logFile = h.logFile

theorem takes_eq {h k : Host} (ho : k.blockedOut.isNone = h.blockedOut.isNone)
    (he : k.blockedErr = h.blockedErr) : k.takes = h.takes := by
  funext sink
  cases sink with
  | terminalOut => exact ho
  | terminalErr => exact congrArg Option.isNone he
  | file handle => rfl
  | buffer n => rfl

namespace Quiet

theorem of_eq {base h k : Host} (ho : k.opened = h.opened) (hb : k.buffers = h.buffers)
    (hto : k.terminalOut = h.terminalOut) (hte : k.terminalErr = h.terminalErr)
    (ht : k.takes = h.takes) (hl : k.logFile = h.logFile) : Quiet base h k where
  within := Within.of_eq ho hb
  opened _ _ := by rw [ho]
  buffers _ _ := by rw [hb]
  terminalOut := hto
  terminalErr := ⟨[], Echo.nil h, by rw [hte, List.append_nil]⟩
  takes := ht
  logFile := hl

theorem refl (base h : Host) : Quiet base h h := of_eq rfl rfl rfl rfl rfl rfl

theorem trans {base h k l : Host} (hk : Quiet base h k) (hl : Quiet base k l) : Quiet base h l where
  within := hk.within.trans hl.within
  opened n hn := (hl.opened n hn).trans (hk.opened n hn)
  buffers n hn := (hl.buffers n hn).trans (hk.buffers n hn)
  terminalOut := hl.terminalOut.trans hk.terminalOut
  terminalErr := by
    obtain ⟨echoed, he, hek⟩ := hk.terminalErr
    obtain ⟨echoed', he', hel⟩ := hl.terminalErr
    refine ⟨echoed ++ echoed', he.append ?_, by rw [hel, hek, List.append_assoc]⟩
    intro hf
    refine he' ?_
    rw [echoes, hk.logFile]
    exact hf
  takes := hl.takes.trans hk.takes
  logFile := hl.logFile.trans hk.logFile

theorem lower {base base' h k : Host} (hw : Within base base') (hq : Quiet base' h k) :
    Quiet base h k where
  within := hq.within
  opened n hn := hq.opened n (Nat.lt_of_lt_of_le hn hw.opened)
  buffers n hn := hq.buffers n (Nat.lt_of_lt_of_le hn hw.buffers)
  terminalOut := hq.terminalOut
  terminalErr := hq.terminalErr
  takes := hq.takes
  logFile := hq.logFile

end Quiet

section Steps

variable {base h : Host}

theorem quiet_of_opening {k : Host} (hw : Within base h) (ho : Opening h k) : Quiet base h k := by
  obtain ⟨files, new, echoed, he, rfl⟩ := ho
  refine ⟨⟨by simp, Nat.le_refl _⟩, ?_, fun _ _ => rfl, rfl, ⟨echoed, he, rfl⟩, rfl, rfl⟩
  intro n hn
  exact Array.getElem?_append_left (Nat.lt_of_lt_of_le hn hw.opened)

theorem quiet_of_noted {k : Host} (base : Host) (hn : Noted h k) : Quiet base h k where
  within := Within.of_eq hn.opened hn.buffers
  opened _ _ := by rw [hn.opened]
  buffers _ _ := by rw [hn.buffers]
  terminalOut := hn.terminalOut
  terminalErr := hn.terminalErr
  takes := takes_eq (congrArg Option.isNone hn.blockedOut) hn.blockedErr
  logFile := hn.logFile

theorem quiet_note (base h : Host) (e : Log.Entry) : Quiet base h (h.note e) :=
  quiet_of_noted base (noted_note h e)

theorem quiet_openTargets (hw : Within base h) (r : Redirects) :
    Quiet base h (h.openTargets r).2 := quiet_of_opening hw (opening_openTargets h r)

theorem quiet_of_launched {l : Launch} {image : Image} {k : Host} (base : Host)
    (hk : Launched l image h k) : Quiet base h k where
  within := Within.of_eq hk.opened hk.buffers
  opened _ _ := by rw [hk.opened]
  buffers _ _ := by rw [hk.buffers]
  terminalOut := hk.terminalOut
  terminalErr := hk.terminalErr
  takes := takes_eq (congrArg Option.isNone hk.blockedOut) hk.blockedErr
  logFile := hk.logFile

theorem quiet_start (base : Host) (l : Launch) (h : Host) : Quiet base h (start l h).2 := by
  rcases start_cases l h with ⟨e, hs, -⟩ | ⟨image, k, hs, hk⟩
  · rw [hs]
    exact Quiet.refl base h
  · rw [hs]
    exact quiet_of_launched base hk

theorem quiet_newBuffer (hw : Within base h) : Quiet base h h.newBuffer.2 where
  within := ⟨Nat.le_refl _, by simp [newBuffer]⟩
  opened _ _ := rfl
  buffers n hn := by
    have hne : n ≠ h.buffers.size := Nat.ne_of_lt (Nat.lt_of_lt_of_le hn hw.buffers)
    simp [newBuffer, Array.getElem?_push, hne]
  terminalOut := rfl
  terminalErr := ⟨[], Echo.nil h, by simp [newBuffer]⟩
  takes := rfl
  logFile := rfl

theorem write_of_not_takes {h : Host} {sink : Sink} (ht : h.takes sink = false) (data : Bytes) :
    ∃ result, h.write sink data = (result, h) := by
  cases sink with
  | terminalOut =>
    cases hb : h.blockedOut with
    | none => simp [takes, hb] at ht
    | some b => exact ⟨refusal b.cause data, by simp only [write, hb]⟩
  | terminalErr =>
    cases hb : h.blockedErr with
    | none => simp [takes, hb] at ht
    | some cause => exact ⟨refusal cause data, by simp only [write, hb]⟩
  | file handle => cases ht
  | buffer n => cases ht

theorem write_terminalOut (h : Host) (data : Bytes) :
    (h.write .terminalOut data).2 =
      { h with terminalOut := h.terminalOut ++ if h.takes .terminalOut then data else [] } := by
  cases ht : h.takes .terminalOut with
  | true =>
    have hb : h.blockedOut = none := Option.isNone_iff_eq_none.1 ht
    simp [write, hb]
  | false =>
    obtain ⟨result, hw⟩ := write_of_not_takes ht data
    simp [hw]

theorem write_terminalErr (h : Host) (data : Bytes) :
    (h.write .terminalErr data).2 =
      { h with terminalErr := h.terminalErr ++ if h.takes .terminalErr then data else [] } := by
  cases ht : h.takes .terminalErr with
  | true =>
    have hb : h.blockedErr = none := Option.isNone_iff_eq_none.1 ht
    simp [write, hb]
  | false =>
    obtain ⟨result, hw⟩ := write_of_not_takes ht data
    simp [hw]

theorem within_write (h : Host) (sink : Sink) (data : Bytes) : Within h (h.write sink data).2 := by
  cases sink with
  | terminalOut =>
    rw [write_terminalOut]
    exact Within.of_eq rfl rfl
  | terminalErr =>
    rw [write_terminalErr]
    exact Within.of_eq rfl rfl
  | buffer n => exact ⟨Nat.le_refl _, by simp [write]⟩
  | file handle =>
    obtain ⟨files, opened, hsize, -, hw⟩ := writeFile_eq h handle data
    rw [write, hw]
    exact ⟨Nat.le_of_eq hsize.symm, Nat.le_refl _⟩

theorem write_rest (h : Host) (sink : Sink) (data : Bytes) :
    ∃ files opened buffers out err, (h.write sink data).2 = { h with
      files := files, opened := opened, buffers := buffers, terminalOut := out,
      terminalErr := err } := by
  cases sink with
  | terminalOut => exact ⟨_, _, _, _, _, write_terminalOut h data⟩
  | terminalErr => exact ⟨_, _, _, _, _, write_terminalErr h data⟩
  | buffer n => exact ⟨_, _, _, _, _, rfl⟩
  | file handle =>
    obtain ⟨files, opened, -, -, hw⟩ := writeFile_eq h handle data
    exact ⟨files, opened, _, _, _, hw⟩

theorem logFile_write (h : Host) (sink : Sink) (data : Bytes) :
    (h.write sink data).2.logFile = h.logFile := by
  obtain ⟨_, _, _, _, _, hw⟩ := write_rest h sink data
  rw [hw]

theorem takes_write (h : Host) (sink : Sink) (data : Bytes) :
    (h.write sink data).2.takes = h.takes := by
  obtain ⟨_, _, _, _, _, hw⟩ := write_rest h sink data
  rw [hw]
  rfl

theorem quiet_write {sink : Sink} (hs : ¬ base.Has sink) (data : Bytes) :
    Quiet base h (h.write sink data).2 := by
  cases sink with
  | terminalOut => exact absurd trivial hs
  | terminalErr => exact absurd trivial hs
  | buffer m =>
    refine ⟨within_write h _ data, fun _ _ => rfl, ?_, rfl, ⟨[], Echo.nil h, by simp [write]⟩,
      rfl, rfl⟩
    intro n hn
    have hne : m ≠ n := by
      rintro rfl
      exact hs hn
    simp [write, Array.getElem?_modify, hne]
  | file handle =>
    obtain ⟨files, opened, hsize, hother, hw⟩ := writeFile_eq h handle data
    rw [write, hw]
    refine ⟨⟨Nat.le_of_eq hsize.symm, Nat.le_refl _⟩, ?_, fun _ _ => rfl, rfl,
      ⟨[], Echo.nil h, by simp⟩, rfl, rfl⟩
    intro n hn
    refine hother n ?_
    rintro rfl
    exact hs hn

theorem quiet_take {sink : Sink} (hs : ¬ base.Has sink) : Quiet base h (h.take sink).2 := by
  cases sink with
  | terminalOut => exact Quiet.refl base h
  | terminalErr => exact Quiet.refl base h
  | file handle => exact Quiet.refl base h
  | buffer m =>
    refine ⟨⟨Nat.le_refl _, by simp [take]⟩, fun _ _ => rfl, ?_, rfl,
      ⟨[], Echo.nil h, by simp [take]⟩, rfl, rfl⟩
    intro n hn
    have hne : m ≠ n := by
      rintro rfl
      exact hs hn
    simp [take, hne]

end Steps

structure Redirected (h : Host) (r : Redirects) (opened : Replacement) (k : Host) : Prop where
  input : opened.input = none
  out : opened.out.isSome = r.stdout.isSome
  err : opened.err.isSome = r.stderr.isSome
  fresh : ∀ sink, opened.out = some sink ∨ opened.err = some sink → ¬ h.Has sink ∧ k.Has sink

theorem openOptional_ok {h k : Host} {t : Option Target} {sink : Option Sink}
    (ho : h.openOptional t = (.ok sink, k)) :
    sink.isSome = t.isSome ∧ Within h k ∧ ∀ x, sink = some x → ¬ h.Has x ∧ k.Has x := by
  rcases openOptional_cases h t with ⟨rfl, hn⟩ | ⟨target, e, -, -, hf⟩ | ⟨target, node, files, rfl, -, hf⟩
  · rw [hn] at ho
    obtain ⟨rfl, rfl⟩ : none = sink ∧ h = k := by simpa using ho
    exact ⟨rfl, Within.refl h, by simp⟩
  · rw [hf] at ho
    simp at ho
  · rw [hf] at ho
    simp only [Prod.mk.injEq, Except.ok.injEq] at ho
    obtain ⟨rfl, rfl⟩ := ho
    refine ⟨rfl, ⟨by simp, Nat.le_refl _⟩, ?_⟩
    rintro x ⟨⟩
    exact ⟨Nat.lt_irrefl _, by simp [Has]⟩

theorem isSome_of_samePath {r : Redirects} (hp : samePath r = true) :
    r.stdout.isSome = r.stderr.isSome := by
  unfold samePath at hp
  cases ho : r.stdout <;> cases he : r.stderr <;> simp [ho, he] at hp ⊢

theorem openTargets_ok {h k : Host} {r : Redirects} {opened : Replacement}
    (ho : h.openTargets r = (.ok opened, k)) : Redirected h r opened k := by
  unfold openTargets at ho
  cases hout : h.openOptional r.stdout with
  | mk out l =>
    cases out with
    | error f => simp [hout] at ho
    | ok out =>
      obtain ⟨hsome, hwithin, hnew⟩ := openOptional_ok hout
      have hnote : ∀ m : Host, Within m (if r.hasAny then m.note (redirectEntry r) else m) := by
        intro m
        split_ifs
        · exact (quiet_note m m _).within
        · exact Within.refl m
      by_cases hp : samePath r
      · simp only [hout, hp, if_true, Prod.mk.injEq, Except.ok.injEq] at ho
        obtain ⟨rfl, rfl⟩ := ho
        refine ⟨rfl, hsome, hsome.trans (isSome_of_samePath hp), ?_⟩
        intro sink hs
        obtain ⟨hold, hin⟩ := hnew sink (hs.elim id id)
        exact ⟨hold, (hnote l).has hin⟩
      · cases herr : l.openOptional r.stderr with
        | mk err m =>
          cases err with
          | error f => simp [hout, hp, herr] at ho
          | ok err =>
            obtain ⟨hsome', hwithin', hnew'⟩ := openOptional_ok herr
            simp only [hout, hp, herr, Bool.false_eq_true, if_false, Prod.mk.injEq,
              Except.ok.injEq] at ho
            obtain ⟨rfl, rfl⟩ := ho
            refine ⟨rfl, hsome, hsome', ?_⟩
            rintro sink (hs | hs)
            · obtain ⟨hold, hin⟩ := hnew sink hs
              exact ⟨hold, (hnote m).has (hwithin'.has hin)⟩
            · obtain ⟨hold, hin⟩ := hnew' sink hs
              exact ⟨fun hh => hold (hwithin.has hh), (hnote m).has hin⟩

/-- The first target that cannot be opened, as the failure. The target for the errors comes second,
and is not opened at all if the output goes to the same path. -/
inductive Unopenable (h : Host) (r : Redirects) : Failure → Prop
  | out {out : Target} {e : OsError} (hout : r.stdout = some out)
      (hf : h.files.openForWriting out.path out.append = .error e) :
      Unopenable h r (.redirect out.path e)
  | err {err : Target} {e : OsError} (hout : r.stdout = none) (herr : r.stderr = some err)
      (hf : h.files.openForWriting err.path err.append = .error e) :
      Unopenable h r (.redirect err.path e)
  | second {out err : Target} {node : Inode} {files : Files} {e : OsError}
      (hout : r.stdout = some out) (herr : r.stderr = some err) (hne : out.path ≠ err.path)
      (ho : h.files.openForWriting out.path out.append = .ok (node, files))
      (hf : files.openForWriting err.path err.append = .error e) :
      Unopenable h r (.redirect err.path e)

theorem openTargets_error {h k : Host} {r : Redirects} {f : Failure}
    (ho : h.openTargets r = (.error f, k)) : h.Unopenable r f := by
  unfold openTargets at ho
  rcases openOptional_cases h r.stdout with ⟨hout, hn⟩ | ⟨out, e, hout, hf, hn⟩ |
    ⟨out, node, files, hout, hopen, hn⟩
  · have hp : samePath r = false := by simp [samePath, hout]
    rcases openOptional_cases h r.stderr with ⟨-, hm⟩ | ⟨err, e, herr, hf, hm⟩ | ⟨err, _, _, -, -, hm⟩
    · simp [hn, hp, hm] at ho
    · simp only [hn, hp, hm, Bool.false_eq_true, if_false, Prod.mk.injEq, Except.error.injEq] at ho
      obtain ⟨rfl, -⟩ := ho
      exact .err hout herr hf
    · simp [hn, hp, hm] at ho
  · simp only [hn, Prod.mk.injEq, Except.error.injEq] at ho
    obtain ⟨rfl, -⟩ := ho
    exact .out hout hf
  · cases hp : samePath r with
    | true => simp [hn, hp] at ho
    | false =>
      generalize hk : ({ h with files := files, opened := _ } : Host) = opened at hn
      have hfiles : opened.files = files := by rw [← hk]
      rcases openOptional_cases opened r.stderr with ⟨-, hm⟩ | ⟨err, e, herr, hf, hm⟩ |
        ⟨err, _, _, -, -, hm⟩
      · simp [hn, hp, hm] at ho
      · simp only [hn, hp, hm, Bool.false_eq_true, if_false, Prod.mk.injEq, Except.error.injEq] at ho
        obtain ⟨rfl, -⟩ := ho
        have hne : out.path ≠ err.path := by simpa [samePath, hout, herr] using hp
        exact .second hout herr hne hopen (hfiles ▸ hf)
      · simp [hn, hp, hm] at ho

theorem Unopenable.openTargets {h : Host} {r : Redirects} {f : Failure} (hu : h.Unopenable r f) :
    (h.openTargets r).1 = .error f := by
  cases hu with
  | out hout hf => simp only [Host.openTargets, openOptional, openTarget, openFile, hout, hf]
  | err hout herr hf =>
    simp only [Host.openTargets, openOptional, openTarget, openFile, samePath, hout, herr, hf,
      Bool.false_eq_true, if_false]
  | second hout herr hne ho hf =>
    simp only [Host.openTargets, openOptional, openTarget, openFile, samePath, hout, herr, ho, hf,
      beq_iff_eq, hne, if_false]

/-- The sinks of the base are written to, in this order and by nothing else. -/
inductive Delivers (base : Host) : Host → List (Sink × Bytes) → Host → Prop
  | done (h : Host) : Delivers base h [] h
  | quiet {h k l : Host} {ws : List (Sink × Bytes)} (hq : Quiet base h k)
      (hd : Delivers base k ws l) : Delivers base h ws l
  | write {h l : Host} {sink : Sink} {data : Bytes} {ws : List (Sink × Bytes)}
      (hs : base.Has sink) (hd : Delivers base (h.write sink data).2 ws l) :
      Delivers base h ((sink, data) :: ws) l

def received (sink : Sink) : List (Sink × Bytes) → Bytes
  | [] => []
  | (target, data) :: ws => (if target = sink then data else []) ++ received sink ws

theorem received_append (sink : Sink) (ws vs : List (Sink × Bytes)) :
    received sink (ws ++ vs) = received sink ws ++ received sink vs := by
  induction ws with
  | nil => rfl
  | cons w ws ih =>
    obtain ⟨target, data⟩ := w
    rw [List.cons_append, received, ih, received, List.append_assoc]

def admits (h : Host) (sink : Sink) (data : Bytes) : Bytes := if h.takes sink then data else []

theorem admits_append (h : Host) (sink : Sink) (a b : Bytes) :
    h.admits sink (a ++ b) = h.admits sink a ++ h.admits sink b := by
  unfold admits
  split_ifs
  · rfl
  · rfl

theorem admits_congr {h k : Host} (ht : k.takes = h.takes) (sink : Sink) (data : Bytes) :
    k.admits sink data = h.admits sink data := by
  rw [admits, admits, ht]

section Write

variable (h : Host) (sink : Sink) (data : Bytes)

theorem buffers_write (n : Nat) :
    (h.write sink data).2.buffers[n]? =
      h.buffers[n]?.map (· ++ if sink = .buffer n then data else []) := by
  cases sink with
  | terminalOut => simp [write_terminalOut]
  | terminalErr => simp [write_terminalErr]
  | file handle =>
    obtain ⟨files, opened, -, -, hw⟩ := writeFile_eq h handle data
    rw [write, hw]
    simp
  | buffer m =>
    by_cases hm : m = n <;> simp [write, Array.getElem?_modify, hm]

theorem terminalOut_write :
    (h.write sink data).2.terminalOut =
      h.terminalOut ++ h.admits .terminalOut (if sink = .terminalOut then data else []) := by
  cases sink with
  | terminalOut => simp [write_terminalOut, admits]
  | terminalErr => simp [write_terminalErr, admits]
  | buffer m => simp [write, admits]
  | file handle =>
    obtain ⟨files, opened, -, -, hw⟩ := writeFile_eq h handle data
    rw [write, hw]
    simp [admits]

theorem terminalErr_write :
    (h.write sink data).2.terminalErr =
      h.terminalErr ++ h.admits .terminalErr (if sink = .terminalErr then data else []) := by
  cases sink with
  | terminalOut => simp [write_terminalOut, admits]
  | terminalErr => simp [write_terminalErr, admits]
  | buffer m => simp [write, admits]
  | file handle =>
    obtain ⟨files, opened, -, -, hw⟩ := writeFile_eq h handle data
    rw [write, hw]
    simp [admits]

/-- The shell's own writes are writes, but for the line that it keeps for the terminal. -/
theorem say_cases :
    h.say sink data = h.write sink data ∨
      ∃ b, sink = .terminalOut ∧ h.blockedOut = some b ∧
        h.say sink data =
          (.ok (), { h with blockedOut := some { b with begun := b.begun ++ data } }) := by
  unfold say
  split
  · split_ifs
    · exact Or.inr ⟨_, rfl, ‹_›, rfl⟩
    · exact Or.inl rfl
  · exact Or.inl rfl

theorem say_of_line (hl : 0x0A ∈ data) : h.say sink data = h.write sink data := by
  unfold say
  split
  · rw [Blocked.fits, List.contains_iff_mem.2 hl]
    rfl
  · rfl

theorem quiet_say (base : Host) : Quiet base (h.write sink data).2 (h.say sink data).2 := by
  rcases say_cases h sink data with hw | ⟨b, rfl, hb, hw⟩
  · rw [hw]
    exact Quiet.refl base _
  · have hr : (h.write .terminalOut data).2 = h := by simp [write, hb]
    rw [hw, hr]
    exact Quiet.of_eq rfl rfl rfl rfl (takes_eq (by rw [hb]; rfl) rfl) rfl

theorem within_say : Within h (h.say sink data).2 :=
  (within_write h sink data).trans (quiet_say h sink data h).within

theorem buffers_say (n : Nat) :
    (h.say sink data).2.buffers[n]? =
      h.buffers[n]?.map (· ++ if sink = .buffer n then data else []) := by
  rw [← buffers_write]
  rcases say_cases h sink data with hw | ⟨b, rfl, hb, hw⟩
  · rw [hw]
  · simp [hw, write, hb]

end Write

namespace Delivers

variable {base h k l : Host} {ws vs : List (Sink × Bytes)}

theorem of_quiet (hq : Quiet base h k) : Delivers base h [] k := .quiet hq (.done k)

theorem single {sink : Sink} (hs : base.Has sink) (h : Host) (data : Bytes) :
    Delivers base h [(sink, data)] (h.write sink data).2 := .write hs (.done _)

theorem say {sink : Sink} (hs : base.Has sink) (h : Host) (data : Bytes) :
    Delivers base h [(sink, data)] (h.say sink data).2 :=
  .write hs (of_quiet (quiet_say h sink data base))

theorem trans (hk : Delivers base h ws k) (hl : Delivers base k vs l) :
    Delivers base h (ws ++ vs) l := by
  induction hk with
  | done h => exact hl
  | quiet hq _ ih => exact .quiet hq (ih hl)
  | write hs _ ih => exact .write hs (ih hl)

theorem trans_quiet (hk : Delivers base h ws k) (hq : Quiet base k l) : Delivers base h ws l := by
  have ht := hk.trans (of_quiet hq)
  rwa [List.append_nil] at ht

theorem within (hd : Delivers base h ws k) : Within h k := by
  induction hd with
  | done h => exact Within.refl h
  | quiet hq _ ih => exact hq.within.trans ih
  | write hs _ ih => exact (within_write _ _ _).trans ih

/-- A smaller base sees the writes to its own sinks. -/
theorem lower {base' : Host} (hw : Within base base') (hd : Delivers base' h ws k) :
    Delivers base h (ws.filter fun w => base.Has w.1) k := by
  induction hd with
  | done h => exact .done h
  | quiet hq _ ih => exact .quiet (hq.lower hw) ih
  | @write h l sink data ws hs _ ih =>
    by_cases hb : base.Has sink
    · rw [List.filter_cons_of_pos (by simpa using hb)]
      exact .write hb ih
    · rw [List.filter_cons_of_neg (by simpa using hb)]
      exact .quiet (quiet_write hb data) ih

theorem buffer (hd : Delivers base h ws k) {n : Nat} (hn : n < base.buffers.size) :
    k.buffers[n]? = h.buffers[n]?.map (· ++ received (.buffer n) ws) := by
  induction hd with
  | done h => simp [received]
  | quiet hq _ ih => rw [ih, hq.buffers n hn]
  | write hs _ ih =>
    rw [ih, buffers_write, Option.map_map]
    simp [received, Function.comp_def]

theorem terminalOut (hd : Delivers base h ws k) :
    k.terminalOut = h.terminalOut ++ h.admits .terminalOut (received .terminalOut ws) := by
  induction hd with
  | done h => simp [received, admits]
  | quiet hq _ ih => rw [ih, hq.terminalOut, admits_congr hq.takes]
  | write hs _ ih =>
    rw [ih, terminalOut_write, admits_congr (takes_write _ _ _), List.append_assoc,
      ← admits_append, received]

theorem terminalErr (hd : Delivers base h ws k) (he : h.echoes = false) :
    k.terminalErr = h.terminalErr ++ h.admits .terminalErr (received .terminalErr ws) := by
  induction hd with
  | done h => simp [received, admits]
  | @quiet h k l ws hq _ ih =>
    obtain ⟨echoed, hecho, hk⟩ := hq.terminalErr
    have hek : k.echoes = false := by
      rw [echoes, hq.logFile]
      exact he
    rw [ih hek, hk, hecho he, List.append_nil, admits_congr hq.takes]
  | @write h l sink data ws hs _ ih =>
    have hew : (h.write sink data).2.echoes = false := by
      rw [echoes, logFile_write]
      exact he
    rw [ih hew, terminalErr_write, admits_congr (takes_write _ _ _), List.append_assoc,
      ← admits_append, received]

end Delivers

end PipeShell.Host
