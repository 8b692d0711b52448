import PipeShell.Command.Parser
import PipeShell.Command.Printer
import PipeShell.Proofs.Command.Words

/-!
# Reading printed jobs

A printed job stands for a list of words: of each stage the program, the arguments, the targets
behind their operators and the background mark, with the pipe operator between stages. Parsing this
list gives the job back. Reading the printed line gives this list back word by word, except that a
word with a carriage return in it falls into pieces if nothing in it makes the printer quote it.
-/

namespace PipeShell

namespace Command

open WordReader

def texts (c : Command) : List String :=
  c.program :: c.arguments ++ (c.redirects.stdout.map Target.path).toList ++
    (c.redirects.stderr.map Target.path).toList

def targetSpelling (plain append : String) : Option Target → List String
  | none => []
  | some t => [if t.append then append else plain, t.path]

def spelling (c : Command) : List String :=
  c.program :: (c.arguments ++ (targetSpelling ">" ">>" c.redirects.stdout ++
    (targetSpelling "2>" "2>>" c.redirects.stderr ++ if c.background then ["&"] else [])))

def readBack (word : String) : List String :=
  if word.toList.any isSpecial then [word] else (cut word.toList).map String.ofList

theorem isOrdinary_of_not_isSpecial {c : Char} (h : isSpecial c = false) : isOrdinary c := by
  have hq : c ≠ '\\' ∧ c ≠ '"' ∧ c ≠ '\x27' := by
    refine ⟨?_, ?_, ?_⟩ <;> rintro rfl <;> exact absurd h (by decide)
  simp [isOrdinary, hq]

theorem eq_return_of_isSeparator {c : Char} (hs : isSeparator c) (h : isSpecial c = false) :
    c = '\r' := by
  simp only [isSeparator, Bool.or_eq_true, beq_iff_eq] at hs
  rcases hs with ((rfl | rfl) | rfl) | rfl
  · exact absurd h (by decide)
  · exact absurd h (by decide)
  · exact absurd h (by decide)
  · rfl

theorem scan_quoteChar (word pending : List Char) (done : List (List Char)) :
    scan ⟨.single, pending, done⟩ (word.flatMap quoteChar) =
      ⟨.single, word.reverse ++ pending, done⟩ := by
  induction word generalizing pending with
  | nil => rfl
  | cons c word ih =>
    rw [List.flatMap_cons, scan_append]
    have hc : scan ⟨.single, pending, done⟩ (quoteChar c) = ⟨.single, c :: pending, done⟩ := by
      by_cases h : c = '\x27'
      · subst h; rfl
      · simp [quoteChar, h, step, push]
    rw [hc, ih]
    simp

theorem wordsOf_quoteChars (word : List Char) :
    wordsOf (quoteChars word) = .ok (if word.any isSpecial then [word] else cut word) := by
  by_cases hq : word.isEmpty || word.any isSpecial
  · have hr : scan {} (quoteChars word) = ⟨.plain, word.reverse, []⟩ := by
      simp only [quoteChars, hq, if_true, scan_cons, scan_append]
      change scan (scan ⟨.single, [], []⟩ (word.flatMap quoteChar)) ['\x27'] = _
      rw [scan_quoteChar]
      simp [step, enter]
    rw [wordsOf, hr]
    cases word with
    | nil => rfl
    | cons c word =>
      have hs : (c :: word).any isSpecial := by simpa using hq
      rw [if_pos hs]
      simp [finish, finishWord]
  · have hb : word.any isSpecial = false := by simp_all
    have ho : ∀ c ∈ word, isOrdinary c := by
      intro c hc
      exact isOrdinary_of_not_isSpecial (by simpa using List.any_eq_false.1 hb c hc)
    rw [quoteChars, if_neg hq, if_neg (by simp [hb])]
    exact wordsOf_ordinary ho

theorem words_quote (word : String) : words (quote word) = .ok (readBack word) := by
  simp only [words, quote, String.toList_ofList, wordsOf_quoteChars, readBack]
  split_ifs <;> simp [Except.map]

theorem readBack_of_isSpecial {word : String} (h : word.toList.any isSpecial) :
    readBack word = [word] := if_pos h

theorem words_quoteAll (word : String) (rest : List String) :
    words (" ".intercalate ((word :: rest).map quote)) = .ok ((word :: rest).flatMap readBack) := by
  induction rest generalizing word with
  | nil => simp [words_quote]
  | cons next rest ih =>
    rw [List.map_cons, List.map_cons, String.intercalate_cons_cons, words_append (words_quote word),
      ← List.map_cons, ih]
    simp [Except.map]

theorem words_operator {line : String} {ws : List String} (operator path : String)
    (h : words line = .ok ws) (ho : words operator = .ok [operator]) :
    words (line ++ (" " ++ operator ++ " " ++ quote path)) =
      .ok (ws ++ operator :: readBack path) := by
  have hj : line ++ (" " ++ operator ++ " " ++ quote path) =
      line ++ " " ++ (operator ++ " " ++ quote path) := by
    simp [String.append_assoc]
  rw [hj, words_append h, words_append ho, words_quote]
  simp [Except.map]

theorem words_renderTarget {line : String} {ws : List String} (plain append : String)
    (t : Option Target) (h : words line = .ok ws) (hp : words plain = .ok [plain])
    (ha : words append = .ok [append]) (hps : plain.toList.any isSpecial)
    (has : append.toList.any isSpecial) :
    words (line ++ renderTarget (" " ++ plain ++ " ") (" " ++ append ++ " ") t) =
      .ok (ws ++ (targetSpelling plain append t).flatMap readBack) := by
  cases t with
  | none => simp [renderTarget, targetSpelling, h]
  | some t =>
    obtain ⟨path, app⟩ := t
    cases app with
    | false =>
      have hw := words_operator plain path h hp
      simpa [renderTarget, targetSpelling, readBack_of_isSpecial hps] using hw
    | true =>
      have hw := words_operator append path h ha
      simpa [renderTarget, targetSpelling, readBack_of_isSpecial has] using hw

theorem words_render (c : Command) : words c.render = .ok (c.spelling.flatMap readBack) := by
  have hw := words_quoteAll c.program c.arguments
  have ho := words_renderTarget ">" ">>" c.redirects.stdout hw (by decide) (by decide) (by decide)
    (by decide)
  have he := words_renderTarget "2>" "2>>" c.redirects.stderr ho (by decide) (by decide) (by decide)
    (by decide)
  unfold render spelling
  cases hb : c.background with
  | false => simpa using he
  | true =>
    have hm := words_append (t := "&") he
    have hr : words "&" = .ok (readBack "&") := by decide
    simpa [hr, Except.map, String.append_assoc] using hm

theorem words_renderStages (c : Command) (cs : List Command) :
    words (" | ".intercalate ((c :: cs).map render)) =
      .ok ((["|"].intercalate ((c :: cs).map spelling)).flatMap readBack) := by
  induction cs generalizing c with
  | nil => simp [words_render]
  | cons d cs ih =>
    have hj : c.render ++ " | " ++ " | ".intercalate ((d :: cs).map render) =
        c.render ++ " " ++ ("|" ++ " " ++ " | ".intercalate ((d :: cs).map render)) := by
      rw [show (" | " : String) = " " ++ ("|" ++ " ") from rfl]
      simp only [String.append_assoc]
    have hp : words "|" = .ok (readBack "|") := by decide
    rw [List.map_cons, List.map_cons, String.intercalate_cons_cons, ← List.map_cons, hj,
      words_append (words_render c), words_append hp, ih]
    simp [Except.map, List.flatMap_append]

theorem stagesFrom_forall {P : Command → Prop} {Q : String → Prop}
    (new : ∀ w, Q w → P { program := w })
    (argument : ∀ c w, P c → Q w → Operator.ofWord? w = none → P (c.addArgument w))
    (background : ∀ c, P c → P { c with background := true })
    (redirect : ∀ c channel target, P c → Q target.path → P (c.redirect channel target))
    {c : Command} {ws : List String} {cs : List Command} (h : stagesFrom c ws = .ok cs) (hc : P c)
    (hw : ∀ w ∈ ws, Q w) : cs ≠ [] ∧ ∀ d ∈ cs, P d := by
  fun_induction stagesFrom c ws generalizing cs with
  | case1 c =>
    obtain rfl : [c] = cs := by simpa using h
    simpa using hc
  | case2 c word rest ho ih =>
    simp only [List.forall_mem_cons] at hw
    exact ih h (argument c word hc hw.1 ho) hw.2
  | case3 c word rest ho ih =>
    simp only [List.forall_mem_cons] at hw
    exact ih h (background c hc) hw.2
  | case4 c word channel append ho => simp at h
  | case5 c word channel append ho path rest ih =>
    simp only [List.forall_mem_cons] at hw
    exact ih h (redirect c channel ⟨path, append⟩ hc hw.2.1) hw.2.2
  | case6 c word ho => simp at h
  | case7 c word ho program rest ih =>
    simp only [List.forall_mem_cons] at hw
    cases hs : stagesFrom { program := program } rest with
    | error e => simp [hs, Except.map] at h
    | ok ds =>
      obtain rfl : c :: ds = cs := by simpa [hs, Except.map] using h
      rw [List.forall_mem_cons]
      exact ⟨List.cons_ne_nil c ds, hc, (ih hs (new program hw.2.1) hw.2.2).2⟩

/-- An operator among the arguments would act, so that a parsed command has none there. -/
def PlainArguments (c : Command) : Prop := ∀ a ∈ c.arguments, Operator.ofWord? a = none

theorem stagesFrom_argument (c : Command) {word : String} (rest : List String)
    (h : Operator.ofWord? word = none) :
    stagesFrom c (word :: rest) = stagesFrom (c.addArgument word) rest := by
  rw [stagesFrom.eq_def]
  simp only [h]

theorem stagesFrom_background (c : Command) (rest : List String) :
    stagesFrom c ("&" :: rest) = stagesFrom { c with background := true } rest := by
  rw [stagesFrom.eq_def]
  simp only [show Operator.ofWord? "&" = some .background by decide]

theorem stagesFrom_pipe (c : Command) (program : String) (rest : List String) :
    stagesFrom c ("|" :: program :: rest) =
      (stagesFrom { program := program } rest).map (c :: ·) := by
  rw [stagesFrom.eq_def]
  simp only [show Operator.ofWord? "|" = some .pipe by decide]

theorem stagesFrom_arguments (c : Command) (arguments rest : List String)
    (h : ∀ a ∈ arguments, Operator.ofWord? a = none) :
    stagesFrom c (arguments ++ rest) =
      stagesFrom { c with arguments := c.arguments ++ arguments } rest := by
  induction arguments generalizing c with
  | nil => simp
  | cons a arguments ih =>
    simp only [List.forall_mem_cons] at h
    rw [List.cons_append, stagesFrom_argument c _ h.1, ih (c.addArgument a) h.2]
    simp [addArgument]

theorem stagesFrom_stdout (c : Command) (t : Option Target) (rest : List String)
    (h : c.redirects.stdout = none) :
    stagesFrom c (targetSpelling ">" ">>" t ++ rest) =
      stagesFrom { c with redirects := { c.redirects with stdout := t } } rest := by
  cases t with
  | none => simp [targetSpelling, ← h]
  | some t =>
    obtain ⟨path, append⟩ := t
    cases append <;> simp [targetSpelling, stagesFrom, Operator.ofWord?, redirect, Redirects.set]

theorem stagesFrom_stderr (c : Command) (t : Option Target) (rest : List String)
    (h : c.redirects.stderr = none) :
    stagesFrom c (targetSpelling "2>" "2>>" t ++ rest) =
      stagesFrom { c with redirects := { c.redirects with stderr := t } } rest := by
  cases t with
  | none => simp [targetSpelling, ← h]
  | some t =>
    obtain ⟨path, append⟩ := t
    cases append <;> simp [targetSpelling, stagesFrom, Operator.ofWord?, redirect, Redirects.set]

theorem stagesFrom_spelling {c : Command} (h : c.PlainArguments) (rest : List String) :
    stagesFrom { program := c.program } (c.spelling.tail ++ rest) = stagesFrom c rest := by
  obtain ⟨program, arguments, ⟨out, err⟩, background⟩ := c
  simp only [spelling, List.tail_cons, List.append_assoc]
  rw [stagesFrom_arguments _ _ _ h, stagesFrom_stdout _ _ _ rfl, stagesFrom_stderr _ _ _ rfl]
  cases background with
  | false => simp
  | true => simp [stagesFrom_background]

theorem stagesFrom_spellings {c : Command} {cs : List Command}
    (h : ∀ d ∈ c :: cs, d.PlainArguments) :
    stagesFrom { program := c.program } (["|"].intercalate ((c :: cs).map spelling)).tail =
      .ok (c :: cs) := by
  induction cs generalizing c with
  | nil =>
    have hs := stagesFrom_spelling (h c List.mem_cons_self) []
    simpa [stagesFrom] using hs
  | cons d cs ih =>
    rw [List.forall_mem_cons] at h
    have hd := ih h.2
    have hs := stagesFrom_spelling h.1 (["|"] ++ ["|"].intercalate ((d :: cs).map spelling))
    have hcons : ["|"].intercalate ((d :: cs).map spelling) =
        d.program :: (["|"].intercalate ((d :: cs).map spelling)).tail := by
      simp [spelling]
    have htail : (["|"].intercalate ((c :: d :: cs).map spelling)).tail =
        c.spelling.tail ++ (["|"] ++ ["|"].intercalate ((d :: cs).map spelling)) := by
      simp [spelling]
    rw [htail, hs, hcons, List.singleton_append, stagesFrom_pipe, hd]
    rfl

theorem mem_texts_addArgument {c : Command} {a w : String} (h : w ∈ (c.addArgument a).texts) :
    w ∈ c.texts ∨ w = a := by
  simp only [texts, addArgument, List.mem_append, List.mem_cons, List.not_mem_nil, or_false] at h ⊢
  tauto

theorem mem_texts_redirect {c : Command} {channel : Channel} {t : Target} {w : String}
    (h : w ∈ (c.redirect channel t).texts) : w ∈ c.texts ∨ w = t.path := by
  cases channel <;>
    simp only [texts, redirect, Redirects.set, Option.map_some, Option.toList_some, List.mem_append,
      List.mem_cons, List.not_mem_nil, or_false] at h ⊢ <;>
    tauto

theorem mem_targetSpelling {plain append : String} {t : Option Target} {w : String}
    (hp : plain.toList.any isSpecial) (ha : append.toList.any isSpecial)
    (h : w ∈ targetSpelling plain append t) :
    w.toList.any isSpecial ∨ w ∈ (t.map Target.path).toList := by
  cases t with
  | none => simp [targetSpelling] at h
  | some t =>
    obtain ⟨path, app⟩ := t
    simp only [targetSpelling, List.mem_cons, List.not_mem_nil, or_false] at h
    rcases h with rfl | rfl
    · left
      cases app
      · exact hp
      · exact ha
    · right
      simp

theorem mem_spelling {c : Command} {w : String} (h : w ∈ c.spelling) :
    w.toList.any isSpecial ∨ w ∈ c.texts := by
  simp only [spelling, texts, List.mem_cons, List.mem_append] at h ⊢
  rcases h with h | h | h | h | h
  · exact Or.inr (Or.inl (Or.inl (Or.inl h)))
  · exact Or.inr (Or.inl (Or.inl (Or.inr h)))
  · rcases mem_targetSpelling (by decide) (by decide) h with h | h
    · exact Or.inl h
    · exact Or.inr (Or.inl (Or.inr h))
  · rcases mem_targetSpelling (by decide) (by decide) h with h | h
    · exact Or.inl h
    · exact Or.inr (Or.inr h)
  · left
    obtain ⟨-, rfl⟩ : c.background ∧ w = "&" := by
      cases hb : c.background <;> simp_all
    decide

theorem mem_spellings {cs : List Command} {w : String}
    (h : w ∈ ["|"].intercalate (cs.map spelling)) :
    w.toList.any isSpecial ∨ ∃ c ∈ cs, w ∈ c.texts := by
  induction cs with
  | nil => simp at h
  | cons c cs ih =>
    have hw : w ∈ c.spelling ∨ w = "|" ∨ w ∈ ["|"].intercalate (cs.map spelling) := by
      cases cs with
      | nil => exact Or.inl (by simpa using h)
      | cons d cs =>
        simp only [List.map_cons, List.intercalate_cons_cons, List.mem_append, List.mem_cons,
          List.not_mem_nil, or_false] at h ⊢
        tauto
    rcases hw with hw | rfl | hw
    · rcases mem_spelling hw with hs | ht
      · exact Or.inl hs
      · exact Or.inr ⟨c, List.mem_cons_self, ht⟩
    · exact Or.inl (by decide)
    · rcases ih hw with hs | ⟨d, hd, ht⟩
      · exact Or.inl hs
      · exact Or.inr ⟨d, List.mem_cons_of_mem c hd, ht⟩

/-- A printed word is read as itself unless it has a carriage return and no quotes. -/
theorem readBack_eq_self {word : String} (hne : word ≠ "")
    (h : '\r' ∈ word.toList → word.toList.any isSpecial) : readBack word = [word] := by
  by_cases hs : word.toList.any isSpecial
  · exact readBack_of_isSpecial hs
  · have hsep : ∀ c ∈ word.toList, isSeparator c = false := by
      intro c hc
      by_contra hsep
      have hq : isSpecial c = false := by simpa using List.any_eq_false.1 (by simpa using hs) c hc
      have hr := eq_return_of_isSeparator (by simpa using hsep) hq
      exact hs (h (hr ▸ hc))
    have hcut : cut word.toList = [word.toList] := by
      rw [cut_of_not_separator hsep]
      simpa using hne
    rw [readBack, if_neg hs, hcut]
    simp

theorem isSpecial_of_mem_readBack {word piece : String} (h : piece ∈ readBack word)
    (hr : '\r' ∈ piece.toList) : piece.toList.any isSpecial := by
  by_cases hs : word.toList.any isSpecial
  · rw [readBack_of_isSpecial hs, List.mem_singleton] at h
    exact h ▸ hs
  · rw [readBack, if_neg hs] at h
    obtain ⟨cs, hcs, rfl⟩ := List.mem_map.1 h
    rw [String.toList_ofList] at hr
    have hn := forall_mem_of_mem_cut (fun _ _ hd => hd) hcs '\r' hr
    exact absurd hn (by decide)

end Command

namespace Job

open Command

theorem ofWords_eq_ok {ws : List String} {job : Job} (h : ofWords ws = .ok job) :
    ∃ c cs, job = ofStages (c :: cs) ∧
      ∀ d ∈ c :: cs, d.PlainArguments ∧ ∀ w ∈ d.texts, w ∈ ws := by
  cases ws with
  | nil => simp [ofWords] at h
  | cons program rest =>
    cases hs : stagesFrom { program := program } rest with
    | error e => simp [ofWords, hs, Except.map] at h
    | ok cs =>
      obtain rfl : ofStages cs = job := by simpa [ofWords, hs, Except.map] using h
      obtain ⟨hne, hall⟩ :
          cs ≠ [] ∧ ∀ d ∈ cs, d.PlainArguments ∧ ∀ w ∈ d.texts, w ∈ program :: rest := by
        refine stagesFrom_forall (Q := (· ∈ program :: rest)) ?_ ?_ ?_ ?_ hs ?_ ?_
        · intro w hw
          simpa [PlainArguments, texts] using hw
        · intro c w hc hw ho
          refine ⟨?_, ?_⟩
          · intro a ha
            rcases List.mem_append.1 ha with ha | ha
            · exact hc.1 a ha
            · exact (List.mem_singleton.1 ha) ▸ ho
          · intro v hv
            rcases mem_texts_addArgument hv with hv | rfl
            · exact hc.2 v hv
            · exact hw
        · intro c hc
          exact hc
        · intro c channel target hc hw
          refine ⟨hc.1, ?_⟩
          intro v hv
          rcases mem_texts_redirect hv with hv | rfl
          · exact hc.2 v hv
          · exact hw
        · simp [PlainArguments, texts]
        · intro w hw
          exact List.mem_cons_of_mem program hw
      cases cs with
      | nil => exact absurd rfl hne
      | cons c cs => exact ⟨c, cs, rfl, hall⟩

theorem ofLine_of_words {line : String} {ws : List String} (hne : ws ≠ [])
    (h : words line = .ok ws) : ofLine line = (ofWords ws).map some := by
  cases ws with
  | nil => exact absurd rfl hne
  | cons w ws => rw [ofLine, h]

theorem ofLine_eq_some {line : String} {job : Job} (h : ofLine line = .ok (some job)) :
    ∃ ws, words line = .ok ws ∧ ofWords ws = .ok job := by
  unfold ofLine at h
  split at h
  · simp at h
  · simp at h
  · next ws hne hws =>
    refine ⟨ws, hws, ?_⟩
    cases hj : ofWords ws <;> simp_all [Except.map]

theorem ofWords_spellings {c : Command} {cs : List Command}
    (h : ∀ d ∈ c :: cs, d.PlainArguments) :
    ofWords (["|"].intercalate ((c :: cs).map spelling)) = .ok (ofStages (c :: cs)) := by
  have hcons : ["|"].intercalate ((c :: cs).map spelling) =
      c.program :: (["|"].intercalate ((c :: cs).map spelling)).tail := by
    simp [spelling]
  rw [hcons, ofWords, stagesFrom_spellings h]
  rfl

/-- A parsed job is read back from its printed form exactly if every word in it that has a carriage
return also has a character for which the printer puts it between quotes. -/
theorem ofLine_render_iff {ws : List String} {job : Job} (hne : ∀ w ∈ ws, w ≠ "")
    (hjob : ofWords ws = .ok job) :
    ofLine job.render = .ok (some job) ↔
      ∀ c ∈ job.stages, ∀ w ∈ c.texts, '\r' ∈ w.toList → w.toList.any isSpecial := by
  obtain ⟨c, cs, rfl, hall⟩ := ofWords_eq_ok hjob
  have hw := words_renderStages c cs
  have hr : (ofStages (c :: cs)).render = " | ".intercalate ((c :: cs).map Command.render) := by
    rw [Job.render, stages_ofStages]
  rw [hr, stages_ofStages]
  constructor
  · -- What is read holds no such word, and every word of the job is among what is read.
    intro hl d hd w hwd hret
    obtain ⟨read, hread, hparsed⟩ := ofLine_eq_some hl
    rw [hw, Except.ok.injEq] at hread
    obtain ⟨c', cs', hsame, hmem⟩ := ofWords_eq_ok hparsed
    have hstages : c :: cs = c' :: cs' := by simpa using congrArg Job.stages hsame
    have hwread := (hmem d (hstages ▸ hd)).2 w hwd
    rw [← hread] at hwread
    obtain ⟨v, -, hv⟩ := List.mem_flatMap.1 hwread
    exact isSpecial_of_mem_readBack hv hret
  · intro hq
    have hsteady : ∀ w ∈ ["|"].intercalate ((c :: cs).map spelling), readBack w = [w] := by
      intro w hwm
      rcases mem_spellings hwm with hs | ⟨d, hd, ht⟩
      · exact readBack_of_isSpecial hs
      · exact readBack_eq_self (hne w ((hall d hd).2 w ht)) (hq d hd w ht)
    rw [List.flatMap_def, List.map_congr_left hsteady, ← List.flatMap_def,
      List.flatMap_singleton'] at hw
    rw [ofLine_of_words (by simp [spelling]) hw, ofWords_spellings fun d hd => (hall d hd).1]
    rfl

/-- The first job has an operator as its program, a redirection that is overwritten, an operator as a
target, a background mark in the middle, and carriage returns that are quoted. In the second job the
carriage return parts its argument in two. -/
theorem ofLine_render_of_returns :
    (ofWords ["|", "a\r b", ">", "x", "&", "it's", ">>", "2>", "|", "cat", "2>", "\r&"] =
        .ok (ofStages [⟨"|", ["a\r b", "it's"], ⟨some ⟨"2>", true⟩, none⟩, true⟩,
          ⟨"cat", [], ⟨none, some ⟨"\r&", false⟩⟩, false⟩]) ∧
      ofLine (ofStages [⟨"|", ["a\r b", "it's"], ⟨some ⟨"2>", true⟩, none⟩, true⟩,
          ⟨"cat", [], ⟨none, some ⟨"\r&", false⟩⟩, false⟩]).render =
        .ok (some (ofStages [⟨"|", ["a\r b", "it's"], ⟨some ⟨"2>", true⟩, none⟩, true⟩,
          ⟨"cat", [], ⟨none, some ⟨"\r&", false⟩⟩, false⟩]))) ∧
    ofWords ["echo", "a\rb"] = .ok (.command ⟨"echo", ["a\rb"], {}, false⟩) ∧
      ofLine (Job.command ⟨"echo", ["a\rb"], {}, false⟩).render ≠
        .ok (some (.command ⟨"echo", ["a\rb"], {}, false⟩)) := by
  have hquoted : ofWords ["|", "a\r b", ">", "x", "&", "it's", ">>", "2>", "|", "cat", "2>", "\r&"] =
      .ok (ofStages [⟨"|", ["a\r b", "it's"], ⟨some ⟨"2>", true⟩, none⟩, true⟩,
        ⟨"cat", [], ⟨none, some ⟨"\r&", false⟩⟩, false⟩]) := by decide
  have hbare : ofWords ["echo", "a\rb"] = .ok (.command ⟨"echo", ["a\rb"], {}, false⟩) := by decide
  refine ⟨⟨hquoted, (ofLine_render_iff (by decide) hquoted).2 (by decide)⟩, hbare, ?_⟩
  intro h
  exact absurd ((ofLine_render_iff (by decide) hbare).1 h) (by decide)

end Job

end PipeShell
