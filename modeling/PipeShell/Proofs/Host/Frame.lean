import Mathlib.Tactic.Common
import PipeShell.Launch.Host

/-!
# What the operations of the host change

Each operation changes only some parts of the host. The lemmas say which, by writing the host after
the operation as the host before it with these parts replaced. What the log adds to the terminal is
told apart from what is written there: `echoed` stands for lines of the log, and there are none
unless the log is shown on the terminal.
-/

namespace PipeShell.Host

def echoes (h : Host) : Bool := (h.logFile.map LogFile.toStderr).getD false

def Echo (h : Host) (echoed : Bytes) : Prop := h.echoes = false → echoed = []

theorem Echo.nil (h : Host) : Echo h [] := fun _ => rfl

theorem Echo.append {h : Host} {a b : Bytes} (ha : Echo h a) (hb : Echo h b) : Echo h (a ++ b) := by
  intro he
  rw [ha he, hb he]
  rfl

inductive Logged (log : Option LogFile) : Files → Files → Prop
  | same (f : Files) : Logged log f f
  | line {l : LogFile} {f g : Files} (hl : log = some l) (text : Bytes)
      (hg : Logged log (f.writeAt l.node none text).2 g) : Logged log f g

theorem Logged.trans {log : Option LogFile} {f g k : Files} (hg : Logged log f g)
    (hk : Logged log g k) : Logged log f k := by
  induction hg with
  | same f => exact hk
  | line hl text _ ih => exact .line hl text (ih hk)

/-- Only the log has grown, and what is remembered of searches may differ. -/
structure Noted (h k : Host) : Prop where
  files : Logged h.logFile h.files k.files
  terminalErr : ∃ echoed, Echo h echoed ∧ k.terminalErr = h.terminalErr ++ echoed
  terminalIn : k.terminalIn = h.terminalIn
  terminalOut : k.terminalOut = h.terminalOut
  blockedOut : k.blockedOut = h.blockedOut
  blockedErr : k.blockedErr = h.blockedErr
  opened : k.opened = h.opened
  buffers : k.buffers = h.buffers
  environment : k.environment = h.environment
  processes : k.processes = h.processes
  started : k.started = h.started
  pipes : k.pipes = h.pipes
  logFile : k.logFile = h.logFile

theorem Noted.refl (h : Host) : Noted h h :=
  ⟨.same _, ⟨[], Echo.nil h, by rw [List.append_nil]⟩, rfl, rfl, rfl, rfl, rfl, rfl, rfl, rfl, rfl,
    rfl, rfl⟩

theorem Noted.trans {h k l : Host} (hk : Noted h k) (hl : Noted k l) : Noted h l where
  files := hk.files.trans (hk.logFile ▸ hl.files)
  terminalErr := by
    obtain ⟨a, ha, hka⟩ := hk.terminalErr
    obtain ⟨b, hb, hlb⟩ := hl.terminalErr
    have hb' : Echo h b := by
      intro he
      refine hb ?_
      rw [echoes, hk.logFile]
      exact he
    exact ⟨a ++ b, ha.append hb', by rw [hlb, hka, List.append_assoc]⟩
  terminalIn := hl.terminalIn.trans hk.terminalIn
  terminalOut := hl.terminalOut.trans hk.terminalOut
  blockedOut := hl.blockedOut.trans hk.blockedOut
  blockedErr := hl.blockedErr.trans hk.blockedErr
  opened := hl.opened.trans hk.opened
  buffers := hl.buffers.trans hk.buffers
  environment := hl.environment.trans hk.environment
  processes := hl.processes.trans hk.processes
  started := hl.started.trans hk.started
  pipes := hl.pipes.trans hk.pipes
  logFile := hl.logFile.trans hk.logFile

theorem note_eq (h : Host) (e : Log.Entry) :
    ∃ files echoed, Logged h.logFile h.files files ∧ Echo h echoed ∧
      h.note e = { h with files := files, terminalErr := h.terminalErr ++ echoed } := by
  unfold note
  cases hl : h.logFile with
  | none => exact ⟨h.files, [], .same _, Echo.nil h, by simp [← hl]⟩
  | some log =>
    simp only
    split
    · have hg := Logged.line (f := h.files) hl (Text.encode (logLine h.stamp e)) (.same _)
      rw [hl] at hg
      cases hw : h.files.writeAt log.node none (Text.encode (logLine h.stamp e)) with
      | mk result files =>
        rw [hw] at hg
        cases result with
        | error cause => exact ⟨files, [], hg, Echo.nil h, by simp [← hl]⟩
        | ok offset =>
          cases ht : log.toStderr && h.takes .terminalErr with
          | false => exact ⟨files, [], hg, Echo.nil h, by simp [← hl]⟩
          | true =>
            refine ⟨files, Text.encode (logLine h.stamp e), hg, ?_, by simp [← hl]⟩
            intro he
            simp_all [echoes]
    · exact ⟨h.files, [], .same _, Echo.nil h, by simp [← hl]⟩

theorem noted_note (h : Host) (e : Log.Entry) : Noted h (h.note e) := by
  obtain ⟨files, echoed, hg, he, hn⟩ := note_eq h e
  rw [hn]
  exact ⟨hg, ⟨echoed, he, rfl⟩, rfl, rfl, rfl, rfl, rfl, rfl, rfl, rfl, rfl, rfl, rfl⟩

theorem noted_noteAll (h : Host) (es : List Log.Entry) : Noted h (h.noteAll es) := by
  induction es generalizing h with
  | nil => exact Noted.refl h
  | cons e es ih => exact (noted_note h e).trans (ih (h.note e))

theorem noted_findProgram (h : Host) (name : String) : Noted h (h.findProgram name).2 := by
  obtain ⟨hg, he, hti, hto, hbo, hbe, ho, hb, hv, hp, hs, hpi, hl⟩ := noted_noteAll
    { h with cache := (h.cache.lookup h.files h.environment.searchPath name).2 }
    ((h.cache.events h.files h.environment.searchPath name).map searchEntry)
  exact ⟨hg, he, hti, hto, hbo, hbe, ho, hb, hv, hp, hs, hpi, hl⟩

theorem writeFile_eq (h : Host) (handle : Nat) (data : Bytes) :
    ∃ files opened, opened.size = h.opened.size ∧
      (∀ k, k ≠ handle → opened[k]? = h.opened[k]?) ∧
      (h.writeFile handle data).2 = { h with files := files, opened := opened } := by
  unfold writeFile
  split
  · exact ⟨h.files, h.opened, rfl, fun _ _ => rfl, rfl⟩
  · split
    · exact ⟨_, h.opened, rfl, fun _ _ => rfl, rfl⟩
    · refine ⟨_, _, by simp, ?_, rfl⟩
      intro k hk
      rw [Array.getElem?_setIfInBounds_ne (Ne.symm hk)]

theorem openOptional_cases (h : Host) (t : Option Target) :
    (t = none ∧ h.openOptional t = (.ok none, h)) ∨
      (∃ target e, t = some target ∧
        h.files.openForWriting target.path target.append = .error e ∧
        h.openOptional t = (.error (.redirect target.path e), h)) ∨
      ∃ target node files, t = some target ∧
        h.files.openForWriting target.path target.append = .ok (node, files) ∧
        h.openOptional t = (.ok (some (.file h.opened.size)),
          { h with files := files, opened := h.opened.push ⟨node, 0, target.append⟩ }) := by
  cases t with
  | none => exact Or.inl ⟨rfl, rfl⟩
  | some target =>
    right
    cases hf : h.files.openForWriting target.path target.append with
    | error e =>
      left
      exact ⟨target, e, rfl, hf, by simp only [openOptional, openTarget, openFile, hf]⟩
    | ok made =>
      obtain ⟨node, files⟩ := made
      right
      exact ⟨target, node, files, rfl, hf, by simp only [openOptional, openTarget, openFile, hf]⟩

/-- The host has the open files of another one and perhaps more, and the log may have grown. -/
def Opening (h k : Host) : Prop :=
  ∃ files new echoed, Echo h echoed ∧ k =
    { h with
      files := files
      opened := h.opened ++ new
      terminalErr := h.terminalErr ++ echoed }

theorem opening_openOptional (h : Host) (t : Option Target) : Opening h (h.openOptional t).2 := by
  rcases openOptional_cases h t with ⟨-, ho⟩ | ⟨target, e, -, -, ho⟩ | ⟨target, node, files, -, -, ho⟩
  · exact ⟨h.files, #[], [], Echo.nil h, by simp [ho]⟩
  · exact ⟨h.files, #[], [], Echo.nil h, by simp [ho]⟩
  · exact ⟨files, #[⟨node, 0, target.append⟩], [], Echo.nil h, by simp [ho]⟩

theorem opening_note (h : Host) (e : Log.Entry) : Opening h (h.note e) := by
  obtain ⟨files, echoed, -, he, hn⟩ := note_eq h e
  exact ⟨files, #[], echoed, he, by simp [hn]⟩

theorem Opening.trans {h k l : Host} (hk : Opening h k) (hl : Opening k l) : Opening h l := by
  obtain ⟨files, new, echoed, he, rfl⟩ := hk
  obtain ⟨files', new', echoed', he', rfl⟩ := hl
  refine ⟨files', new ++ new', echoed ++ echoed', he.append he', ?_⟩
  simp [Array.append_assoc, List.append_assoc]

theorem opening_openTargets (h : Host) (r : Redirects) : Opening h (h.openTargets r).2 := by
  have ho := opening_openOptional h r.stdout
  unfold openTargets
  cases hout : h.openOptional r.stdout with
  | mk out k =>
    rw [hout] at ho
    cases out with
    | error f => exact ho
    | ok out =>
      have he : Opening k (if samePath r then ((.ok out : Except Failure _), k)
          else k.openOptional r.stderr).2 := by
        split_ifs
        · exact ⟨k.files, #[], [], Echo.nil k, by simp⟩
        · exact opening_openOptional k r.stderr
      simp only
      cases herr : (if samePath r then ((.ok out : Except Failure _), k)
          else k.openOptional r.stderr) with
      | mk err l =>
        rw [herr] at he
        cases err with
        | error f => exact ho.trans he
        | ok err =>
          simp only
          split_ifs
          · exact (ho.trans he).trans (opening_note l _)
          · exact ho.trans he

def outlet (out : Option Sink) (number : Nat) : Outlet :=
  match out with
  | some sink => .sink sink
  | none => .pipe number

def child (l : Launch) (image : Image) (number : Nat) : Process :=
  ⟨number, image.program, image.argv, l.input, outlet l.out number, .sink l.err⟩

def Cleared (h : Host) : Prop := ∀ b, h.blockedOut = some b → b.begun = []

theorem flush_of_cleared {h : Host} (hc : h.Cleared) : h.flush = .ok () := by
  unfold flush
  cases hb : h.blockedOut with
  | none => rfl
  | some b => simp [refusal, hc b hb]

theorem flush_cases (h : Host) :
    h.Cleared ∧ h.flush = .ok () ∨
      ∃ b, h.blockedOut = some b ∧ b.begun ≠ [] ∧ h.flush = .error b.cause := by
  by_cases hc : h.Cleared
  · exact Or.inl ⟨hc, flush_of_cleared hc⟩
  · right
    unfold Cleared at hc
    push Not at hc
    obtain ⟨b, hb, hn⟩ := hc
    refine ⟨b, hb, hn, ?_⟩
    simp [flush, hb, refusal, hn]

inductive Unstartable (h : Host) (path : String) (argv : List String) : OsError → Prop
  | begun {b : Blocked} (hb : h.blockedOut = some b) (hn : b.begun ≠ []) :
      Unstartable h path argv b.cause
  | zero (hc : h.Cleared) (hz : holdsZero (path :: argv) = true) :
      Unstartable h path argv .nulInArgument
  | image {e : OsError} (hc : h.Cleared) (hz : holdsZero (path :: argv) = false)
      (hl : Image.load h.files Image.chainLimit path argv = .error e) : Unstartable h path argv e

structure Startable (h : Host) (path : String) (argv : List String) (image : Image) : Prop where
  cleared : h.Cleared
  words : holdsZero (path :: argv) = false
  loaded : Image.load h.files Image.chainLimit path argv = .ok image

theorem Startable.unique {h : Host} {path : String} {argv : List String} {image image' : Image}
    (hs : h.Startable path argv image) (hs' : h.Startable path argv image') : image = image' := by
  have hl := hs.loaded
  rw [hs'.loaded] at hl
  exact (Except.ok.inj hl).symm

theorem Unstartable.not_startable {h : Host} {path : String} {argv : List String} {e : OsError}
    (hu : h.Unstartable path argv e) (image : Image) : ¬ h.Startable path argv image := by
  intro hs
  cases hu with
  | begun hb hn => exact hn (hs.cleared _ hb)
  | zero _ hz => exact absurd (hz.symm.trans hs.words) nofun
  | image _ _ hl => exact absurd (hl.symm.trans hs.loaded) nofun

theorem Startable.prepareImage {h : Host} {path : String} {argv : List String} {image : Image}
    (hs : h.Startable path argv image) : prepareImage path argv h = .ok image := by
  rw [Host.prepareImage, flush_of_cleared hs.cleared]
  simp only [hs.words, Bool.false_eq_true, if_false, hs.loaded]

theorem prepareImage_cases (path : String) (argv : List String) (h : Host) :
    (∃ e, prepareImage path argv h = .error e ∧ h.Unstartable path argv e) ∨
      ∃ image, prepareImage path argv h = .ok image ∧ h.Startable path argv image := by
  unfold prepareImage
  rcases flush_cases h with ⟨hc, hf⟩ | ⟨b, hb, hn, hf⟩
  · rw [hf]
    cases hz : holdsZero (path :: argv) with
    | true => exact Or.inl ⟨_, rfl, .zero hc hz⟩
    | false =>
      cases hl : Image.load h.files Image.chainLimit path argv with
      | error e => exact Or.inl ⟨e, rfl, .image hc hz hl⟩
      | ok image => exact Or.inr ⟨image, rfl, hc, hz, hl⟩
  · rw [hf]
    exact Or.inl ⟨_, rfl, .begun hb hn⟩

structure Launched (l : Launch) (image : Image) (h k : Host) : Prop where
  startable : h.Startable l.stage.path (l.stage.command.program :: l.stage.command.arguments) image
  started : k.started = h.started ++ [child l image h.processes]
  processes : k.processes = h.processes + 1
  pipes : k.pipes = (h.processes, {}) :: h.pipes
  files : Logged h.logFile h.files k.files
  terminalErr : ∃ echoed, Echo h echoed ∧ k.terminalErr = h.terminalErr ++ echoed
  terminalIn : k.terminalIn = h.terminalIn
  terminalOut : k.terminalOut = h.terminalOut
  blockedOut : k.blockedOut = h.blockedOut
  blockedErr : k.blockedErr = h.blockedErr
  opened : k.opened = h.opened
  buffers : k.buffers = h.buffers
  cache : k.cache = h.cache
  environment : k.environment = h.environment
  logFile : k.logFile = h.logFile

theorem start_cases (l : Launch) (h : Host) :
    (∃ e, start l h = (.error e, h) ∧
        h.Unstartable l.stage.path (l.stage.command.program :: l.stage.command.arguments) e) ∨
      ∃ image k, start l h = (.ok h.processes, k) ∧ Launched l image h k := by
  unfold start
  rcases prepareImage_cases l.stage.path (l.stage.command.program :: l.stage.command.arguments) h
    with ⟨e, hp, hu⟩ | ⟨image, hp, hs⟩
  · left
    exact ⟨e, by simp only [hp], hu⟩
  · right
    obtain ⟨files, echoed, hg, he, hn⟩ := note_eq
      { h with
        processes := h.processes + 1
        pipes := (h.processes, {}) :: h.pipes
        started := h.started ++ [child l image h.processes] }
      (Log.debug s!"已启动进程 {h.processes} ({l.stage.path})")
    refine ⟨image, _, by simp only [hp]; rfl, ?_⟩
    refine Eq.subst (motive := Launched l image h) hn.symm ?_
    exact ⟨hs, rfl, rfl, rfl, hg, ⟨echoed, he, rfl⟩, rfl, rfl, rfl, rfl, rfl, rfl, rfl, rfl, rfl⟩

end PipeShell.Host
