import PipeShell.Proofs.Command.RoundTrip

/-!
# The grammar of word lists

A row is one stage or several with the pipe operator between them. A stage is a program, whatever
word that is, and items behind it: redirections with their operands, background marks, arguments. A
list of words that is no row is empty, or it is a row with one operator too many at its end. Parsing
gives the commands of the stages, or the error of that operator.
-/

namespace PipeShell.Grammar

inductive Arrow
  | out (numbered append : Bool)
  | err (append : Bool)

namespace Arrow

def token : Arrow → String
  | .out false false => ">"
  | .out true false => "1>"
  | .out false true => ">>"
  | .out true true => "1>>"
  | .err false => "2>"
  | .err true => "2>>"

def channel : Arrow → Channel
  | .out _ _ => .stdout
  | .err _ => .stderr

def append : Arrow → Bool
  | .out _ append => append
  | .err append => append

end Arrow

def operators : List String := [">", "1>", ">>", "1>>", "2>", "2>>", "|", "&"]

inductive Item
  | redirect (arrow : Arrow) (operand : String)
  | background
  | argument (word : String) (h : word ∉ operators)

namespace Item

def tokens : Item → List String
  | .redirect arrow operand => [arrow.token, operand]
  | .background => ["&"]
  | .argument word _ => [word]

def argument? : Item → Option String
  | .argument word _ => some word
  | _ => none

def target? (channel : Channel) : Item → Option Target
  | .redirect arrow operand =>
    if arrow.channel = channel then some ⟨operand, arrow.append⟩ else none
  | _ => none

def isBackground : Item → Bool
  | .background => true
  | _ => false

end Item

structure Stage where
  program : String
  items : List Item

namespace Stage

def tokens (s : Stage) : List String := s.program :: s.items.flatMap Item.tokens

/-- Of several redirections of one channel the last one counts. -/
def command (s : Stage) : Command where
  program := s.program
  arguments := s.items.filterMap Item.argument?
  redirects :=
    { stdout := (s.items.filterMap (Item.target? .stdout)).getLast?
      stderr := (s.items.filterMap (Item.target? .stderr)).getLast? }
  background := s.items.any Item.isBackground

end Stage

structure Row where
  first : Stage
  rest : List Stage

namespace Row

def stages (r : Row) : List Stage := r.first :: r.rest

def tokens (r : Row) : List String := r.first.tokens ++ r.rest.flatMap fun s => "|" :: s.tokens

end Row

inductive Dangling
  | arrow (a : Arrow)
  | pipe

namespace Dangling

def token : Dangling → String
  | .arrow a => a.token
  | .pipe => "|"

def error : Dangling → SyntaxError
  | .arrow a => .missingTarget a.channel a.append
  | .pipe => .missingStage

end Dangling

theorem ofWord?_token (a : Arrow) :
    Operator.ofWord? a.token = some (.redirect a.channel a.append) := by
  rcases a with ⟨_ | _, _ | _⟩ | _ | _ <;> decide

theorem ofWord?_eq_none {word : String} (h : word ∉ operators) :
    Operator.ofWord? word = none := by
  simp only [operators, List.mem_cons, List.not_mem_nil, or_false, not_or] at h
  simp [Operator.ofWord?, h]

theorem word_cases (word : String) :
    word ∉ operators ∨ word = "&" ∨ word = "|" ∨ ∃ a : Arrow, a.token = word := by
  by_cases h : word ∈ operators
  · right
    simp only [operators, List.mem_cons, List.not_mem_nil, or_false] at h
    rcases h with rfl | rfl | rfl | rfl | rfl | rfl | rfl | rfl
    · exact Or.inr (Or.inr ⟨.out false false, rfl⟩)
    · exact Or.inr (Or.inr ⟨.out true false, rfl⟩)
    · exact Or.inr (Or.inr ⟨.out false true, rfl⟩)
    · exact Or.inr (Or.inr ⟨.out true true, rfl⟩)
    · exact Or.inr (Or.inr ⟨.err false, rfl⟩)
    · exact Or.inr (Or.inr ⟨.err true, rfl⟩)
    · exact Or.inr (Or.inl rfl)
    · exact Or.inl rfl
  · exact Or.inl h

structure Tail where
  items : List Item := []
  rest : List Stage := []
  dangling : Option Dangling := none

namespace Tail

def tokens (t : Tail) : List String :=
  t.items.flatMap Item.tokens ++
    ((t.rest.flatMap fun s => "|" :: s.tokens) ++ t.dangling.toList.map Dangling.token)

theorem tokens_item (i : Item) (t : Tail) :
    tokens { t with items := i :: t.items } = i.tokens ++ t.tokens := by
  simp [tokens]

theorem tokens_stage (program : String) (t : Tail) :
    tokens ⟨[], ⟨program, t.items⟩ :: t.rest, t.dangling⟩ = "|" :: program :: t.tokens := by
  simp [tokens, Stage.tokens]

-- An operator takes the word behind it along, so the induction goes on behind both.
theorem exists_tokens (ws : List String) : ∃ t : Tail, t.tokens = ws := by
  induction hn : ws.length using Nat.strongRecOn generalizing ws with
  | ind n ih =>
    cases ws with
    | nil => exact ⟨{}, rfl⟩
    | cons word ws =>
      have hws : ws.length < n := by
        rw [← hn, List.length_cons]
        omega
      rcases word_cases word with h | rfl | rfl | ⟨a, rfl⟩
      · obtain ⟨t, rfl⟩ := ih _ hws ws rfl
        exact ⟨_, tokens_item (.argument word h) t⟩
      · obtain ⟨t, rfl⟩ := ih _ hws ws rfl
        exact ⟨_, tokens_item .background t⟩
      · cases ws with
        | nil => exact ⟨{ dangling := some .pipe }, rfl⟩
        | cons program ws =>
          have hrest : ws.length < n := by
            rw [List.length_cons] at hws
            omega
          obtain ⟨t, rfl⟩ := ih _ hrest ws rfl
          exact ⟨_, tokens_stage program t⟩
      · cases ws with
        | nil => exact ⟨{ dangling := some (.arrow a) }, rfl⟩
        | cons operand ws =>
          have hrest : ws.length < n := by
            rw [List.length_cons] at hws
            omega
          obtain ⟨t, rfl⟩ := ih _ hrest ws rfl
          exact ⟨_, tokens_item (.redirect a operand) t⟩

end Tail

theorem words_cases (ws : List String) :
    ws = [] ∨ (∃ row : Row, row.tokens = ws) ∨
      ∃ (row : Row) (d : Dangling), row.tokens ++ [d.token] = ws := by
  cases ws with
  | nil => exact Or.inl rfl
  | cons program ws =>
    right
    obtain ⟨⟨items, rest, dangling⟩, rfl⟩ := Tail.exists_tokens ws
    cases dangling with
    | none =>
      left
      exact ⟨⟨⟨program, items⟩, rest⟩, by simp [Row.tokens, Stage.tokens, Tail.tokens]⟩
    | some d =>
      right
      exact ⟨⟨⟨program, items⟩, rest⟩, d, by simp [Row.tokens, Stage.tokens, Tail.tokens]⟩

def Item.add (c : Command) : Item → Command
  | .redirect arrow operand => c.redirect arrow.channel ⟨operand, arrow.append⟩
  | .background => { c with background := true }
  | .argument word _ => c.addArgument word

theorem Item.add_eq (c : Command) (i : Item) :
    i.add c =
      { c with
        arguments := c.arguments ++ i.argument?.toList
        redirects :=
          { stdout := (i.target? .stdout).or c.redirects.stdout
            stderr := (i.target? .stderr).or c.redirects.stderr }
        background := c.background || i.isBackground } := by
  cases i with
  | redirect arrow operand =>
    cases arrow <;>
      simp [Item.add, Command.redirect, Redirects.set, Arrow.channel, Item.argument?, Item.target?,
        Item.isBackground]
  | background => simp [Item.add, Item.argument?, Item.target?, Item.isBackground]
  | argument word h =>
    simp [Item.add, Command.addArgument, Item.argument?, Item.target?, Item.isBackground]

theorem getLast?_filterMap_cons {f : Item → Option Target} (i : Item) (items : List Item)
    (t : Option Target) :
    ((i :: items).filterMap f).getLast?.or t = (items.filterMap f).getLast?.or ((f i).or t) := by
  cases hi : f i with
  | none => simp [hi]
  | some target => cases h : (items.filterMap f).getLast? <;> simp [hi, List.getLast?_cons, h]

theorem filterMap_argument?_cons (i : Item) (items : List Item) :
    (i :: items).filterMap Item.argument? =
      i.argument?.toList ++ items.filterMap Item.argument? := by
  cases hi : i.argument? <;> simp [hi]

theorem foldl_add (c : Command) (items : List Item) :
    items.foldl Item.add c =
      { c with
        arguments := c.arguments ++ items.filterMap Item.argument?
        redirects :=
          { stdout := (items.filterMap (Item.target? .stdout)).getLast?.or c.redirects.stdout
            stderr := (items.filterMap (Item.target? .stderr)).getLast?.or c.redirects.stderr }
        background := c.background || items.any Item.isBackground } := by
  induction items generalizing c with
  | nil => simp
  | cons i items ih =>
    rw [List.foldl_cons, ih, Item.add_eq]
    simp only [getLast?_filterMap_cons, filterMap_argument?_cons, List.append_assoc, List.any_cons,
      Bool.or_assoc]

theorem foldl_add_program (s : Stage) :
    s.items.foldl Item.add { program := s.program } = s.command := by
  simp [foldl_add, Stage.command]

end PipeShell.Grammar

namespace PipeShell.Command

open Grammar

theorem stagesFrom_item (c : Command) (i : Item) (ws : List String) :
    stagesFrom c (i.tokens ++ ws) = stagesFrom (i.add c) ws := by
  cases i with
  | redirect arrow operand =>
    rw [Item.tokens, List.cons_append, List.singleton_append, stagesFrom.eq_def]
    simp only [ofWord?_token]
    rfl
  | background => exact stagesFrom_background c ws
  | argument word h => exact stagesFrom_argument c ws (ofWord?_eq_none h)

theorem stagesFrom_items (c : Command) (items : List Item) (ws : List String) :
    stagesFrom c (items.flatMap Item.tokens ++ ws) = stagesFrom (items.foldl Item.add c) ws := by
  induction items generalizing c with
  | nil => rfl
  | cons i items ih =>
    rw [List.flatMap_cons, List.append_assoc, stagesFrom_item, ih, List.foldl_cons]

theorem stagesFrom_dangling (c : Command) (d : Dangling) :
    stagesFrom c [d.token] = .error d.error := by
  cases d with
  | arrow a =>
    rw [Dangling.token, stagesFrom.eq_def]
    simp only [ofWord?_token]
    rfl
  | pipe => rfl

/-- What parsing a row gives if this operator stands behind it. -/
def outcome {α : Type} (dangling : Option Dangling) (value : α) : Except SyntaxError α :=
  match dangling with
  | none => .ok value
  | some d => .error d.error

theorem stagesFrom_rest (c : Command) (rest : List Stage) (dangling : Option Dangling) :
    stagesFrom c ((rest.flatMap fun s => "|" :: s.tokens) ++ dangling.toList.map Dangling.token) =
      outcome dangling (c :: rest.map Stage.command) := by
  induction rest generalizing c with
  | nil =>
    cases dangling with
    | none => rfl
    | some d => exact stagesFrom_dangling c d
  | cons s rest ih =>
    have hs := stagesFrom_items { program := s.program } s.items
      ((rest.flatMap fun s => "|" :: s.tokens) ++ dangling.toList.map Dangling.token)
    rw [foldl_add_program, ih] at hs
    rw [List.flatMap_cons, List.append_assoc, List.cons_append, Stage.tokens, List.cons_append,
      stagesFrom_pipe, hs]
    cases dangling <;> rfl

end PipeShell.Command

namespace PipeShell.Job

open Command Grammar

theorem ofWords_followed (row : Row) (dangling : Option Dangling) :
    ofWords (row.tokens ++ dangling.toList.map Dangling.token) =
      outcome dangling (ofStages (row.stages.map Stage.command)) := by
  have hitems := stagesFrom_items { program := row.first.program } row.first.items
    ((row.rest.flatMap fun s => "|" :: s.tokens) ++ dangling.toList.map Dangling.token)
  rw [foldl_add_program, stagesFrom_rest] at hitems
  rw [Row.tokens, List.append_assoc, Stage.tokens, List.cons_append, ofWords, hitems]
  cases dangling <;> rfl

theorem ofWords_row (row : Row) :
    ofWords row.tokens = .ok (ofStages (row.stages.map Stage.command)) := by
  simpa [outcome] using ofWords_followed row none

theorem ofWords_dangling (row : Row) (d : Dangling) :
    ofWords (row.tokens ++ [d.token]) = .error d.error := ofWords_followed row (some d)

theorem eq_ofStages_iff (job : Job) (c : Command) (cs : List Command) :
    job = ofStages (c :: cs) ↔
      job.stages = c :: cs ∧ ((∃ d, job = .command d) ↔ (c :: cs).length = 1) := by
  cases job with
  | command d => cases cs <;> simp [ofStages, stages]
  | pipeline ds => cases cs <;> simp [ofStages, stages]

theorem ofWords_eq_ok_iff (ws : List String) (job : Job) :
    ofWords ws = .ok job ↔
      ∃ row : Row, row.tokens = ws ∧ job.stages = row.stages.map Stage.command ∧
        ((∃ c, job = .command c) ↔ row.stages.length = 1) := by
  have hjob : ∀ row : Row, job = ofStages (row.stages.map Stage.command) ↔
      job.stages = row.stages.map Stage.command ∧
        ((∃ c, job = .command c) ↔ row.stages.length = 1) := by
    intro row
    have h := eq_ofStages_iff job row.first.command (row.rest.map Stage.command)
    rwa [← List.map_cons, List.length_map] at h
  constructor
  · intro h
    rcases words_cases ws with rfl | ⟨row, rfl⟩ | ⟨row, d, rfl⟩
    · exact absurd h (by simp [ofWords])
    · rw [ofWords_row, Except.ok.injEq] at h
      exact ⟨row, rfl, (hjob row).1 h.symm⟩
    · rw [ofWords_dangling] at h
      exact absurd h (by simp)
  · rintro ⟨row, rfl, h⟩
    rw [ofWords_row, (hjob row).2 h]

theorem ofWords_eq_error_iff (ws : List String) (e : SyntaxError) :
    ofWords ws = .error e ↔
      (ws = [] ∧ e = .emptyInput) ∨
      ∃ (row : Row) (d : Dangling), row.tokens ++ [d.token] = ws ∧ d.error = e := by
  constructor
  · intro h
    rcases words_cases ws with rfl | ⟨row, rfl⟩ | ⟨row, d, rfl⟩
    · exact Or.inl ⟨rfl, (Except.error.inj h).symm⟩
    · rw [ofWords_row] at h
      exact absurd h (by simp)
    · rw [ofWords_dangling] at h
      exact Or.inr ⟨row, d, rfl, Except.error.inj h⟩
  · rintro (⟨rfl, rfl⟩ | ⟨row, d, rfl, rfl⟩)
    · rfl
    · exact ofWords_dangling row d

theorem error_ne_emptyInput (d : Dangling) : d.error ≠ .emptyInput := by
  cases d <;> simp [Dangling.error]

/-- Parsing succeeds on rows alone, and gives each stage its command. It fails with the error for
empty input on the empty list alone, and otherwise with the error of the operator that stands behind
a row at the end of the list. -/
theorem ofWords_iff_grammar (ws : List String) :
    (∀ job, ofWords ws = .ok job ↔
      ∃ row : Row, row.tokens = ws ∧ job.stages = row.stages.map Stage.command ∧
        ((∃ c, job = .command c) ↔ row.stages.length = 1)) ∧
    (ofWords ws = .error .emptyInput ↔ ws = []) ∧
    ∀ e, ofWords ws = .error e ↔
      (ws = [] ∧ e = .emptyInput) ∨
      ∃ (row : Row) (d : Dangling), row.tokens ++ [d.token] = ws ∧ d.error = e := by
  refine ⟨ofWords_eq_ok_iff ws, ?_, ofWords_eq_error_iff ws⟩
  rw [ofWords_eq_error_iff]
  constructor
  · rintro (⟨hws, -⟩ | ⟨row, d, -, hd⟩)
    · exact hws
    · exact absurd hd (error_ne_emptyInput d)
  · exact fun hws => Or.inl ⟨hws, rfl⟩

end PipeShell.Job
