import PipeShell.Proofs.Command.RoundTrip

/-!
# Lines joined by a pipe

A line that is parsed to a job has no open quote, no waiting backslash and no operator without its
operand. So what comes behind a pipe operator at its end is read and parsed as if it stood alone:
the stages of both lines make one pipeline, and a mistake in the second line is the mistake of the
whole.
-/

namespace PipeShell

namespace Command

def stagesBehindPipe : List String → Except SyntaxError (List Command)
  | [] => .error .missingStage
  | program :: rest => stagesFrom { program := program } rest

theorem stagesFrom_pipe_cons (c : Command) (ws : List String) :
    stagesFrom c ("|" :: ws) = (stagesBehindPipe ws).map (c :: ·) := by
  cases ws with
  | nil => rfl
  | cons program ws => exact stagesFrom_pipe c program ws

-- The first words are used up one by one, and each use ends before the pipe operator.
theorem stagesFrom_append_pipe {c : Command} {ws : List String} {cs : List Command}
    (h : stagesFrom c ws = .ok cs) (vs : List String) :
    stagesFrom c (ws ++ "|" :: vs) = (stagesBehindPipe vs).map (cs ++ ·) := by
  fun_induction stagesFrom c ws generalizing cs with
  | case1 c =>
    obtain rfl : [c] = cs := by simpa using h
    exact stagesFrom_pipe_cons c vs
  | case2 c word rest ho ih =>
    rw [List.cons_append, stagesFrom_argument c _ ho]
    exact ih h
  | case3 c word rest ho ih =>
    rw [List.cons_append, stagesFrom.eq_def]
    simp only [ho]
    exact ih h
  | case4 c word channel append ho => simp at h
  | case5 c word channel append ho path rest ih =>
    rw [List.cons_append, List.cons_append, stagesFrom.eq_def]
    simp only [ho]
    exact ih h
  | case6 c word ho => simp at h
  | case7 c word ho program rest ih =>
    cases hs : stagesFrom { program := program } rest with
    | error e => simp [hs, Except.map] at h
    | ok ds =>
      obtain rfl : c :: ds = cs := by simpa [hs, Except.map] using h
      rw [List.cons_append, List.cons_append, stagesFrom.eq_def]
      simp only [ho]
      rw [ih hs]
      cases stagesBehindPipe vs <;> rfl

theorem words_pipe {s t : String} {ws : List String} (h : words s = .ok ws) :
    words (s ++ " | " ++ t) = (words t).map (ws ++ "|" :: ·) := by
  have hj : s ++ " | " ++ t = s ++ " " ++ ("|" ++ " " ++ t) := by
    rw [show (" | " : String) = " " ++ ("|" ++ " ") from rfl]
    simp only [String.append_assoc]
  have hp : words "|" = .ok ["|"] := by decide
  rw [hj, words_append h, words_append hp]
  cases words t <;> simp [Except.map]

end Command

namespace Job

open Command

theorem ofWords_append_pipe {ws vs : List String} {job : Job} (h : ofWords ws = .ok job) :
    ofWords (ws ++ "|" :: vs) =
      (stagesBehindPipe vs).map fun cs => ofStages (job.stages ++ cs) := by
  cases ws with
  | nil => simp [ofWords] at h
  | cons program ws =>
    cases hs : stagesFrom { program := program } ws with
    | error e => simp [ofWords, hs, Except.map] at h
    | ok cs =>
      obtain rfl : ofStages cs = job := by simpa [ofWords, hs, Except.map] using h
      rw [List.cons_append, ofWords, stagesFrom_append_pipe hs, stages_ofStages]
      cases stagesBehindPipe vs <;> rfl

theorem stages_ne_nil {ws : List String} {job : Job} (h : ofWords ws = .ok job) :
    job.stages ≠ [] := by
  obtain ⟨c, cs, rfl, -⟩ := ofWords_eq_ok h
  simp

theorem ofStages_append {cs ds : List Command} (hc : cs ≠ []) (hd : ds ≠ []) :
    ofStages (cs ++ ds) = .pipeline (cs ++ ds) := by
  obtain ⟨c, cs, rfl⟩ := List.exists_cons_of_ne_nil hc
  obtain ⟨d, ds, rfl⟩ := List.exists_cons_of_ne_nil hd
  cases cs <;> rfl

/-- A pipe operator between two lines joins the stages of their jobs. -/
theorem ofLine_pipe {first second : String} {job : Job} (h : ofLine first = .ok (some job)) :
    ofLine (first ++ " | " ++ second) =
      match ofLine second with
      | .ok (some next) => .ok (some (.pipeline (job.stages ++ next.stages)))
      | .ok none => .error .missingStage
      | .error e => .error e := by
  obtain ⟨ws, hws, hjob⟩ := ofLine_eq_some h
  have hjoined := words_pipe (t := second) hws
  cases hvs : words second with
  | error e =>
    rw [hvs] at hjoined
    simp only [ofLine, hjoined, hvs, Except.map]
  | ok vs =>
    rw [hvs] at hjoined
    have hne : ws ++ "|" :: vs ≠ [] := by simp
    rw [ofLine_of_words hne hjoined, ofWords_append_pipe hjob]
    cases vs with
    | nil => simp [ofLine, hvs, stagesBehindPipe, Except.map]
    | cons program vs =>
      rw [ofLine_of_words (List.cons_ne_nil program vs) hvs]
      cases hs : stagesFrom { program := program } vs with
      | error e => simp [ofWords, stagesBehindPipe, hs, Except.map]
      | ok cs =>
        have hnext : ofWords (program :: vs) = .ok (ofStages cs) := by
          simp [ofWords, hs, Except.map]
        have hcs : cs ≠ [] := by simpa using stages_ne_nil hnext
        simp only [hnext, stagesBehindPipe, hs, Except.map, stages_ofStages,
          ofStages_append (stages_ne_nil hjob) hcs]

/-- The first line has a pipe operator between quotes, an operator as a target and a background
mark. It is joined with a command whose program is the pipe operator, with a blank line, with an
open quote and with an operator that lacks its operand. -/
theorem ofLine_pipe_quoted :
    ofLine "echo 'a | b' > '|' &" =
        .ok (some (.command ⟨"echo", ["a | b"], ⟨some ⟨"|", false⟩, none⟩, true⟩)) ∧
      ofLine ("echo 'a | b' > '|' &" ++ " | " ++ "| x|wc") =
        .ok (some (.pipeline [⟨"echo", ["a | b"], ⟨some ⟨"|", false⟩, none⟩, true⟩,
          ⟨"|", ["x|wc"], {}, false⟩])) ∧
      ofLine ("echo 'a | b' > '|' &" ++ " | " ++ " \t") = .error .missingStage ∧
      ofLine ("echo 'a | b' > '|' &" ++ " | " ++ "cat \"x") = .error .unclosedDouble ∧
      ofLine ("echo 'a | b' > '|' &" ++ " | " ++ "cat 2>>") =
        .error (.missingTarget .stderr true) := by
  have h : ofLine "echo 'a | b' > '|' &" =
      .ok (some (.command ⟨"echo", ["a | b"], ⟨some ⟨"|", false⟩, none⟩, true⟩)) := by decide
  refine ⟨h, ?_, ?_, ?_, ?_⟩
  · exact (ofLine_pipe h).trans (by decide)
  · exact (ofLine_pipe h).trans (by decide)
  · exact (ofLine_pipe h).trans (by decide)
  · exact (ofLine_pipe h).trans (by decide)

end Job

end PipeShell
