import PipeShell.Proofs.Command.Grammar
import PipeShell.Proofs.Command.Reading
import PipeShell.Proofs.History.Generation
import PipeShell.Session

/-!
# Lines in the history

A line is offered to the history before anything is done with it. The history and the word reader
have different notions of a blank line: for the history it has nothing but blank characters, for the
word reader it has no words. A line of blank characters that are not all separators is a command for
the one and blank for the other. It is carried out without being recorded, and no other line is.
-/

namespace PipeShell

namespace History

theorem toList_eq_stripEnd_append (line : String) :
    ∃ ends, line.toList = (stripEnd line).toList ++ ends ∧ (∀ c ∈ ends, c ∈ ['\n', '\r']) ∧
      ∀ c, (stripEnd line).toList.getLast? = some c → c ∉ ['\n', '\r'] := by
  have hstrip : (stripEnd line).toList =
      line.toList.rdropWhile fun c => c == '\n' || c == '\r' := by
    rw [stripEnd, String.toList_ofList]
    rfl
  rw [hstrip]
  refine ⟨line.toList.rtakeWhile fun c => c == '\n' || c == '\r',
    List.rdropWhile_append_rtakeWhile.symm, ?_, ?_⟩
  · intro c hc
    simpa using List.mem_rtakeWhile_imp hc
  · intro c hc
    obtain ⟨hne, rfl⟩ := List.mem_getLast?_eq_getLast hc
    simpa using List.rdropWhile_last_not _ _ hne

theorem isBlankLine_stripEnd (line : String) :
    isBlankLine (stripEnd line) = isBlankLine line := by
  obtain ⟨ends, hline, hends, -⟩ := toList_eq_stripEnd_append line
  have hblank : Text.allBlank ends = true := by
    rw [Text.allBlank, List.all_eq_true]
    intro c hc
    have hall : ∀ d ∈ ['\n', '\r'], Text.isBlank d = true := List.all_eq_true.1 (by decide)
    exact hall c (hends c hc)
  rw [isBlankLine, isBlankLine, hline, Text.allBlank_append, hblank, Bool.and_true]

theorem getLast?_add {h : History} (hpos : 0 < h.limit) {line : String}
    (hb : isBlankLine line = false) :
    (h.add line).2.entries.getLast? = some (stripEnd line) := by
  rcases h.add_cases line with ⟨-, hadd⟩ | ⟨hacc, hadd⟩
  · rw [hadd]
    exact getLast?_push hpos _
  · rw [hadd]
    have hskip := mt (h.accepts_iff (stripEnd line)).2 (by rw [hacc]; exact Bool.false_ne_true)
    rw [not_not, isBlankLine_stripEnd, hb] at hskip
    exact hskip.resolve_left Bool.false_ne_true

theorem add_of_isBlankLine (h : History) {line : String} (hb : isBlankLine line = true) :
    h.add line = (false, h) := by
  have hrefused : h.accepts (stripEnd line) = false := by simp [accepts, isBlankLine_stripEnd, hb]
  simp [add, hrefused]

end History

namespace Job

open Command

theorem ofWord?_of_isBlank {word : String} (h : ∀ c ∈ word.toList, Text.isBlank c = true) :
    Operator.ofWord? word = none := by
  have hseen : ∀ op ∈ Grammar.operators, Text.allBlank op.toList = false := by decide
  refine Grammar.ofWord?_eq_none fun hop => ?_
  have hblank : Text.allBlank word.toList = true := List.all_eq_true.2 h
  rw [hseen word hop] at hblank
  cases hblank

theorem words_of_isBlank {line : String} (h : ∀ c ∈ line.toList, Text.isBlank c = true) :
    words line = .ok ((cut line.toList).map String.ofList) := by
  have hordinary : ∀ c ∈ line.toList, isOrdinary c := by
    intro c hc
    have hblank := h c hc
    have hq : c ≠ '\\' ∧ c ≠ '"' ∧ c ≠ '\x27' := by
      refine ⟨?_, ?_, ?_⟩ <;> rintro rfl <;> exact absurd hblank (by decide)
    simp [isOrdinary, hq]
  rw [words, wordsOf_ordinary hordinary]
  rfl

/-- Blank characters make no operators, so that a line of them is blank or one simple command. -/
theorem ofLine_of_isBlank {line : String} (h : ∀ c ∈ line.toList, Text.isBlank c = true)
    (hacts : ofLine line ≠ .ok none) :
    ∃ program arguments, ofLine line = .ok (some (.command ⟨program, arguments, {}, false⟩)) := by
  have hwords := words_of_isBlank h
  cases hcut : cut line.toList with
  | nil =>
    rw [hcut] at hwords
    exact absurd (by rw [ofLine, hwords]; rfl) hacts
  | cons piece pieces =>
    have harguments : ∀ a ∈ pieces.map String.ofList, Operator.ofWord? a = none := by
      intro a ha
      obtain ⟨cs, hcs, rfl⟩ := List.mem_map.1 ha
      refine ofWord?_of_isBlank ?_
      rw [String.toList_ofList]
      exact forall_mem_of_mem_cut (fun c hc _ => h c hc) (hcut ▸ List.mem_cons_of_mem piece hcs)
    have hstages := stagesFrom_arguments { program := String.ofList piece } _ [] harguments
    rw [List.append_nil] at hstages
    rw [hcut, List.map_cons] at hwords
    refine ⟨String.ofList piece, pieces.map String.ofList, ?_⟩
    rw [ofLine_of_words (List.cons_ne_nil _ _) hwords, ofWords, hstages]
    rfl

theorem exists_not_separator {line : String} (h : ∀ c ∈ line.toList, Text.isBlank c = true)
    (hacts : ofLine line ≠ .ok none) : ∃ c ∈ line.toList, c ∉ [' ', '\t', '\n', '\r'] := by
  by_contra hnot
  push Not at hnot
  have hcut : cut line.toList = [] :=
    cut_eq_nil_iff.2 fun c hc => (Quoting.isSeparator_iff c).2 (hnot c hc)
  have hwords := words_of_isBlank h
  rw [hcut] at hwords
  exact hacts (by rw [ofLine, hwords]; rfl)

end Job

namespace Shell

theorem history_record (s : Shell) (line : String) :
    (s.record line).history = (s.history.add line).2 := by
  rw [record]

theorem record_of_isBlankLine (s : Shell) {line : String}
    (hb : History.isBlankLine line = true) : s.record line = s := by
  rw [record, s.history.add_of_isBlankLine hb]

/-- A line that is acted on is recorded first: the last entry is then the line without the carriage
returns and line feeds at its end. The only exception is a line of blank characters that are not all
separators. That one is read as a command and leaves no trace in the history, so that a line which
cannot be read is always recorded. -/
theorem recorded_unless_blank (b : Behaviour) (s : Shell) (line : String)
    (hlimit : 0 < s.history.limit) (hacts : Job.ofLine line ≠ .ok none) :
    (s.handle b line =
      match Job.ofLine line with
      | .ok (some job) => (s.record line).execute b job
      | .ok none => (true, s.record line)
      | .error e => (true, (s.record line).refuse line e)) ∧
    ((∃ c ∈ line.toList, Text.isBlank c = false) →
      ∃ kept ends, line.toList = kept ++ ends ∧ (∀ c ∈ ends, c ∈ ['\n', '\r']) ∧
        (∀ c, kept.getLast? = some c → c ∉ ['\n', '\r']) ∧
        (s.record line).history.entries.getLast? = some (String.ofList kept)) ∧
    ((∀ c ∈ line.toList, Text.isBlank c = true) →
      s.record line = s ∧ (∃ c ∈ line.toList, c ∉ [' ', '\t', '\n', '\r']) ∧
        ∃ program arguments,
          Job.ofLine line = .ok (some (.command ⟨program, arguments, {}, false⟩))) := by
  refine ⟨rfl, ?_, ?_⟩
  · rintro ⟨c, hc, hseen⟩
    have hb : History.isBlankLine line = false := by
      rw [History.isBlankLine, Text.allBlank, List.all_eq_false]
      exact ⟨c, hc, by simp [hseen]⟩
    obtain ⟨ends, hline, hends, hlast⟩ := History.toList_eq_stripEnd_append line
    refine ⟨_, ends, hline, hends, hlast, ?_⟩
    rw [String.ofList_toList, history_record]
    exact History.getLast?_add hlimit hb
  · intro hblank
    exact ⟨s.record_of_isBlankLine (List.all_eq_true.2 hblank),
      Job.exists_not_separator hblank hacts, Job.ofLine_of_isBlank hblank hacts⟩

/-- In a full history a line with an open quote takes the place of the entry that was there, and an
ideographic space leaves it. -/
theorem recorded_unless_blank_full :
    let b : Behaviour := fun _ h => (.exited 0, h)
    let s := { Session.start (Settings.ofEnvironment []) false { files := Files.empty } with
      history := { History.new 1 with entries := ["ls"] } }
    0 < s.history.limit ∧ Job.ofLine "'\r\n" = .error .unclosedSingle ∧
      s.handle b "'\r\n" = (true, (s.record "'\r\n").refuse "'\r\n" .unclosedSingle) ∧
      (∃ kept ends, "'\r\n".toList = kept ++ ends ∧ (∀ c ∈ ends, c ∈ ['\n', '\r']) ∧
        (∀ c, kept.getLast? = some c → c ∉ ['\n', '\r']) ∧
        (s.record "'\r\n").history.entries.getLast? = some (String.ofList kept)) ∧
      Job.ofLine "\u3000" ≠ .ok none ∧ s.record "\u3000" = s := by
  intro b s
  have hlimit : 0 < s.history.limit := by decide
  have hopen : Job.ofLine "'\r\n" = .error .unclosedSingle := by decide
  have hacts : Job.ofLine "\u3000" ≠ .ok none := by decide
  obtain ⟨hhandle, hkept, -⟩ := recorded_unless_blank b s "'\r\n" hlimit (by rw [hopen]; simp)
  simp only [hopen] at hhandle
  obtain ⟨-, -, hblank⟩ := recorded_unless_blank b s "\u3000" hlimit hacts
  obtain ⟨hsame, -⟩ := hblank (List.all_eq_true.1 (by decide))
  exact ⟨hlimit, hopen, hhandle, hkept ⟨'\x27', by decide, by decide⟩, hacts, hsame⟩

/-- A new shell takes an ideographic space for the name of a program, which it does not find. The
history stays empty. -/
theorem blank_command_not_recorded :
    let b : Behaviour := fun _ h => (.exited 0, h)
    let s := Session.start (Settings.ofEnvironment []) false { files := Files.empty }
    0 < s.history.limit ∧
      Job.ofLine "\u3000" = .ok (some (.command { program := "\u3000" })) ∧
      (s.handle b "\u3000").2.host.terminalOut = Text.encode "\u3000: command not found\n" ∧
      History.stripEnd "\u3000" = "\u3000" ∧
      (s.record "\u3000").history.entries.getLast? ≠ some "\u3000" := by
  intro b s
  refine ⟨?_, ?_, ?_, ?_, ?_⟩
  · decide
  · decide
  · decide +kernel
  · decide
  · decide

end Shell

end PipeShell
