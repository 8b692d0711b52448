/-!
# Options of programs

Options may stand anywhere among the operands until a double dash ends them. Several options can
share one word, and an option that takes a value takes the rest of its word or the next word. An
option can also be a whole word after two dashes, and any start of that word will do that no other
option has.
-/

namespace PipeShell.Program

structure OptionWord where
  name : String
  letter : Char
  valued : Bool := false

structure OptionTable where
  plain : String := ""
  valued : String := ""
  words : List OptionWord := []

structure Options where
  given : List (Char × String) := []
  operands : List String := []

inductive OptionError
  | unknown (letter : Char)
  | unknownWord (word : String)
  | missingValue (letter : Char)
  | missingWordValue (name : String)
  | unwantedValue (name : String)
  | ambiguous (word : String) (names : List String)
  | information

def informationWords : List OptionWord := [⟨"help", '?', false⟩, ⟨"version", '?', false⟩]

def lettersOf (plain valued : List Char) : List Char → List String →
    Except OptionError (List (Char × String) × List String)
  | [], rest => .ok ([], rest)
  | c :: cs, rest =>
    if plain.contains c then
      (lettersOf plain valued cs rest).map fun (given, rest) => ((c, "") :: given, rest)
    else if valued.contains c then
      match cs, rest with
      | [], [] => .error (.missingValue c)
      | [], value :: rest => .ok ([(c, value)], rest)
      | cs, rest => .ok ([(c, String.ofList cs)], rest)
    else .error (.unknown c)

def OptionTable.find (t : OptionTable) (name : List Char) : Except OptionError OptionWord :=
  let words := t.words ++ informationWords
  match words.find? fun w => w.name.toList == name with
  | some w => .ok w
  | none =>
    match words.filter fun w => name.isPrefixOf w.name.toList with
    | [] => .error (.unknownWord (String.ofList name))
    | w :: ws =>
      if ws.all fun v => v.letter == w.letter && v.valued == w.valued && w.letter != '?' then .ok w
      else .error (.ambiguous (String.ofList name) ((w :: ws).map (·.name)))

def OptionTable.wordOf (t : OptionTable) (body : List Char) (rest : List String) :
    Except OptionError ((Char × String) × List String) :=
  let name := body.takeWhile (· != '=')
  let value := (body.drop name.length).tail?
  match t.find name, value with
  | .error (.unknownWord _), _ => .error (.unknownWord (String.ofList body))
  | .error (.ambiguous _ names), _ => .error (.ambiguous (String.ofList body) names)
  | .error e, _ => .error e
  | .ok w, some v =>
    if w.valued then .ok ((w.letter, String.ofList v), rest) else .error (.unwantedValue w.name)
  | .ok w, none =>
    if w.letter == '?' then .error .information
    else if !w.valued then .ok ((w.letter, ""), rest)
    else
      match rest with
      | v :: rest => .ok ((w.letter, v), rest)
      | [] => .error (.missingWordValue w.name)

def OptionTable.readFrom (t : OptionTable) : Nat → List String → Except OptionError Options
  | 0, _ => .ok {}
  | _ + 1, [] => .ok {}
  | n + 1, word :: rest =>
    match word.toList with
    | ['-', '-'] => .ok { operands := rest }
    | '-' :: '-' :: body =>
      match t.wordOf body rest with
      | .error e => .error e
      | .ok (option, rest) =>
        (t.readFrom n rest).map fun o => { o with given := option :: o.given }
    | '-' :: c :: cs =>
      match lettersOf t.plain.toList t.valued.toList (c :: cs) rest with
      | .error e => .error e
      | .ok (given, rest) =>
        (t.readFrom n rest).map fun o => { o with given := given ++ o.given }
    | _ => (t.readFrom n rest).map fun o => { o with operands := word :: o.operands }

def OptionTable.readLeading (t : OptionTable) (isOperand : String → Bool) :
    Nat → List String → Except OptionError Options
  | 0, words => .ok { operands := words }
  | _ + 1, [] => .ok {}
  | n + 1, word :: rest =>
    if isOperand word then .ok { operands := word :: rest }
    else
      match word.toList with
      | ['-', '-'] => .ok { operands := rest }
      | '-' :: '-' :: body =>
        match t.wordOf body rest with
        | .error e => .error e
        | .ok (option, rest) =>
          (t.readLeading isOperand n rest).map fun o => { o with given := option :: o.given }
      | '-' :: c :: cs =>
        match lettersOf t.plain.toList t.valued.toList (c :: cs) rest with
        | .error e => .error e
        | .ok (given, rest) =>
          (t.readLeading isOperand n rest).map fun o => { o with given := given ++ o.given }
      | _ => .ok { operands := word :: rest }

def OptionTable.read (t : OptionTable) (words : List String) : Except OptionError Options :=
  t.readFrom (words.length + 1) words

def Options.has (o : Options) (letter : Char) : Bool := o.given.any (·.1 == letter)

def Options.value? (o : Options) (letter : Char) : Option String :=
  (o.given.reverse.find? (·.1 == letter)).map Prod.snd

end PipeShell.Program
