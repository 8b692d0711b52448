import PipeShell.Program.Script.Condition

/-!
# The builtins of scripts

The commands that a script carries out itself. Those that the standard calls special end the script
when they are misused.
-/

namespace PipeShell.Script

def specialBuiltins : List String :=
  [":", ".", "break", "continue", "eval", "exec", "exit", "export", "readonly", "return", "set",
    "shift", "times", "trap", "unset"]

def builtinNames : List String :=
  specialBuiltins ++ ["[", "alias", "bg", "cd", "chdir", "command", "echo", "false", "fg",
    "getopts", "hash", "jobs", "kill", "local", "printf", "pwd", "read", "test", "true", "type",
    "ulimit", "umask", "unalias", "wait"]

def optionNames : List (Char × String) :=
  [('e', "errexit"), ('f', "noglob"), ('I', "ignoreeof"), ('i', "interactive"), ('m', "monitor"),
    ('n', "noexec"), ('s', "stdin"), ('x', "xtrace"), ('v', "verbose"), ('V', "vi"), ('E', "emacs"),
    ('C', "noclobber"), ('a', "allexport"), ('b', "notify"), ('u', "nounset")]

def switch (options : List Char) (letter : Char) (on : Bool) : List Char :=
  (optionNames.map Prod.fst).filter fun c => if c = letter then on else options.contains c

/-- The letters of one option word. `c` and `s` are only for the start of a script. -/
def switchAll (options : List Char) (on : Bool) (letters : List Char) :
    Except String (List Char) :=
  letters.foldlM (fun options c =>
    if (optionNames.map Prod.fst).contains c then .ok (switch options c on)
    else .error ("Illegal option -" ++ String.ofList [c])) options

structure Switched where
  options : List Char
  command : Bool := false
  rest : List String := []

def readOptions (start : Bool) (options : List Char) (command : Bool) :
    List String → Except String Switched
  | [] => .ok ⟨options, command, []⟩
  | word :: rest =>
    match word.toList with
    | ['-'] | ['-', '-'] => .ok ⟨options, command, rest⟩
    | sign :: letters =>
      if sign ≠ '-' && sign ≠ '+' then .ok ⟨options, command, word :: rest⟩
      else
        let named := letters.contains 'o'
        let asks := start && letters.contains 'c'
        let plain := letters.filter fun c => c ≠ 'o' && !(start && (c = 'c' || c = 'l'))
        match switchAll options (sign = '-') plain with
        | .error e => .error e
        | .ok options =>
          if named then
            match rest with
            | [] => .ok ⟨options, command || asks, []⟩
            | name :: rest =>
              match optionNames.find? (·.2 == name) with
              | some (letter, _) =>
                readOptions start (switch options letter (sign = '-')) (command || asks) rest
              | none => .error ("Illegal option -o " ++ name)
          else readOptions start options (command || asks) rest
    | [] => .ok ⟨options, command, word :: rest⟩

def logicalPath (location path : String) : String :=
  let above := if Path.isAbsolute path then [] else Path.pieces location
  let names := (Path.pieces path).foldl (fun (names : List String) piece =>
    if piece = "." then names
    else if piece = ".." then names.dropLast
    else names ++ [piece]) above
  "/" ++ "/".intercalate names

def changeDirectory (row : Nat) (args : List String) (s : State) : State :=
  let (physical, args) := match args with
    | "-P" :: rest => (true, rest)
    | "-L" :: rest => (false, rest)
    | "--" :: rest => (false, rest)
    | args => (false, args)
  let (target, shown) := match args with
    | "-" :: _ => ((s.bindings.get? "OLDPWD").getD "", true)
    | target :: _ => (target, false)
    | [] => ((s.bindings.get? "HOME").getD "", false)
  let target := if target.isEmpty then "." else target
  let logical := if physical || (s.location.isEmpty && !Path.isAbsolute target) then none
    else some (logicalPath s.location target)
  match s.host.files.changeDirectory (logical.getD target) with
  | .error _ => (s.complain row ("cd: can't cd to " ++ target)).done 2
  | .ok files =>
    let location := logical.getD ((files.workingPath.toOption).getD "")
    let bindings := (s.bindings.set "OLDPWD" s.location).set "PWD" location
    let s := { s with
      host := { s.host with files := files }
      location := location
      bindings := bindings
      exported := "PWD" :: "OLDPWD" :: s.exported }
    if shown then s.printFor row "cd" (Program.line location) 0 else s.done 0

def kill (s : State) (row : Nat) (args : List String) : State :=
  let number := fun (text : String) => match text with
    | "KILL" | "SIGKILL" | "9" => 9
    | "TERM" | "SIGTERM" | "15" => 15
    | "INT" | "SIGINT" | "2" => 2
    | "HUP" | "SIGHUP" | "1" => 1
    | "PIPE" | "SIGPIPE" | "13" => 13
    | "QUIT" | "SIGQUIT" | "3" => 3
    | "ABRT" | "SIGABRT" | "6" => 6
    | "ALRM" | "SIGALRM" | "14" => 14
    | "USR1" | "SIGUSR1" | "10" => 10
    | "USR2" | "SIGUSR2" | "12" => 12
    | "0" | "EXIT" => 0
    | _ => 15
  let (signal, targets) := match args with
    | "-s" :: name :: rest => (number name, rest)
    | word :: rest =>
      match word.toList with
      | '-' :: cs => (number (String.ofList cs), rest)
      | _ => (15, args)
    | [] => (15, [])
  match targets with
  | [] =>
    s.fail row ("kill: Usage: kill [-s sigspec | -signum | -sigspec] [pid | job]... or\n" ++
      "kill -l [exitstatus]")
  | _ =>
    if !targets.contains State.ownNumber then (s.complain row "kill: No such process\n").done 1
    else if signal = 0 then s.done 0
    else { s with signal := some signal, leaving := .exit, status := 128 + signal }

/-- A line of input without its end, with what is left after it. A backslash joins lines and quotes
a character, unless `raw` holds. The line is kept newest first. -/
def lineFrom (raw : Bool) : List (UInt8 × Bool) → Bytes → List (UInt8 × Bool) × Bytes × Bool
  | found, [] => (found, [], false)
  | found, 0x5C :: 0x0A :: rest => if raw then ((0x5C, false) :: found, rest, true)
    else lineFrom raw found rest
  | found, 0x5C :: x :: rest => if raw then lineFrom raw ((0x5C, false) :: found) (x :: rest)
    else lineFrom raw ((x, true) :: found) rest
  | found, x :: rest =>
    if x == 0x0A then (found, rest, true) else lineFrom raw ((x, false) :: found) rest

def valuesFor : Nat → List Char → List (UInt8 × Bool) → List Bytes
  | 0, _, _ => []
  | n + 1, separators, line =>
    let parts := fun (x : UInt8 × Bool) => !x.2 && separators.contains (Char.ofNat x.1.toNat)
    let blank := fun (x : UInt8 × Bool) => parts x && isBlankChar (Char.ofNat x.1.toNat)
    let line := line.dropWhile blank
    if n = 0 then [((line.reverse.dropWhile blank).reverse).map Prod.fst]
    else
      let word := line.takeWhile fun x => !parts x
      let rest := (line.drop word.length).dropWhile blank
      let rest := match rest with
        | x :: more => if parts x then more else rest
        | [] => []
      word.map Prod.fst :: valuesFor n separators rest

def readInto (s : State) (row : Nat) (raw : Bool) (names : List String) : State :=
  let (line, rest, ended) := lineFrom raw [] s.input.bytes
  let values := valuesFor names.length s.separators line.reverse
  let s := { s with input := { s.input with bytes := rest } }
  let s := (names.zip values).foldl (fun (s : State) (name, value) =>
    s.assign row name (Text.decodeLossy value)) s
  if s.leaving = .no then s.done (if ended then 0 else 1) else s

def declared (arg : String) : String × Option String :=
  let cs := arg.toList
  let name := cs.takeWhile (· ≠ '=')
  (String.ofList name,
    if name.length < cs.length then some (String.ofList (cs.drop (name.length + 1))) else none)

def declareAll (row : Nat) (builtin : String) (change : State → String → Option String → State)
    (args : List String) (s : State) : State :=
  args.foldl (fun (s : State) arg =>
    let (name, value) := declared arg
    if s.leaving ≠ .no then s
    else if !isName name then s.fail row (builtin ++ ": " ++ name ++ ": bad variable name")
    else
      let s := match value with
        | some v => s.assign row name v
        | none => s
      if s.leaving = .no then change s name value else s) (s.done 0)

def givenNumber (args : List String) (default : Nat) : Except String Nat :=
  match args with
  | [] => .ok default
  | a :: _ =>
    match Text.digits? a.toList with
    | some n => .ok n
    | none => .error ("Illegal number: " ++ a)

def setOptions (row : Nat) (args : List String) (s : State) : State :=
  match readOptions false s.options false args with
  | .error e => s.fail row ("set: " ++ e)
  | .ok switched =>
    let ended := args.contains "--"
    { s with
      options := switched.options
      parameters := if switched.rest.isEmpty && !ended then s.parameters else switched.rest
      status := 0 }

def describeCommand (s : State) (name : String) : Option (String × String) :=
  if keywords.contains name then some (name, name ++ " is a shell keyword")
  else if (s.functions.lookup name).isSome then some (name, name ++ " is a shell function")
  else if specialBuiltins.contains name then some (name, name ++ " is a special shell builtin")
  else if builtinNames.contains name then some (name, name ++ " is a shell builtin")
  else
    let found := if Search.hasSlash name then
        (if s.host.files.isExecutable name then some name else none)
      else Search.find? s.host.files ((s.bindings.get? "PATH").getD "") name
    found.map fun path => (path, name ++ " is " ++ path)

def printNames (row : Nat) (builtin : String) (render : String × String → String)
    (unknown : String → Option String) (names : List String) (s : State) : State :=
  names.foldl (fun (s : State) name =>
    match describeCommand s name with
    | some found => s.printFor row builtin (Program.line (render found)) s.status
    | none =>
      let s := match unknown name with
        | some text => s.printFor row builtin (Program.line text) 127
        | none => s
      s.done 127) (s.done 0)

def formatStyle : Program.FormatStyle where
  hex := false
  flags := "-+ 0#"
  lengths := ""
  letters := "bcdeEfFgGiosuxX"
  strict := false
  bits := 53
  invalid := fun text => match text.getLast? with
    | some x =>
      if text.length < 2 || Program.isOneOf "-+ 0#123456789.*" x then "missing format character"
      else Text.decodeLossy text ++ ": invalid directive"
    | none => ""
  invalidCode := 2
  notNumeric := ": expected numeric value"
  notWhole := ": not completely converted"

def builtin? (row : Nat) (words : List String) (s : State) : Option State :=
  match words with
  | "echo" :: args =>
    let (newline, args) := match args with
      | "-n" :: rest => (false, rest)
      | args => (true, args)
    let body := Text.encode (" ".intercalate args)
    let (data, stop) := Program.unescapeBytes true false (body.length + 1) body
    some (s.printFor row "echo" (data ++ (if newline && !stop then [0x0A] else [])) 0)
  | "printf" :: args =>
    let badOption := match (args.head?.getD "").toList with
      | ['-', '-'] => none
      | '-' :: letter :: _ => some letter
      | _ => none
    match badOption, (if args.head? = some "--" then args.drop 1 else args).map Text.encode with
    | some letter, _ =>
      some ((s.complain row ("printf: Illegal option -" ++ String.ofList [letter])).done 2)
    | none, [] => some ((s.complain row "printf: usage: printf format [arg ...]").done 2)
    | none, format :: args =>
      let (p, _) := Program.formatted formatStyle format args
      let s := p.complaints.foldl (fun (s : State) k =>
        s.complain row ("printf: " ++ Text.decodeLossy (k.about.getD []) ++ k.text)) s
      some (s.printFor row "printf" p.out p.code)
  | "pwd" :: args =>
    let path := if args.head? = some "-P" then (s.host.files.workingPath.toOption).getD ""
      else s.location
    some (s.printFor row "pwd" (Program.line path) 0)
  | "cd" :: args | "chdir" :: args => some (changeDirectory row args s)
  | "exit" :: args =>
    match givenNumber args s.status with
    | .ok code => some { s with leaving := .exit, status := code % 256 }
    | .error e => some (s.fail row ("exit: " ++ e))
  | "return" :: args =>
    match givenNumber args s.status with
    | .ok code => some { s with leaving := .returning, status := code % 256 }
    | .error e => some (s.fail row ("return: " ++ e))
  | "break" :: args =>
    match givenNumber args 1 with
    | .ok n => some { s with leaving := if s.loops = 0 then .no else .breaking n, status := 0 }
    | .error e => some (s.fail row ("break: " ++ e))
  | "continue" :: args =>
    match givenNumber args 1 with
    | .ok n => some { s with leaving := if s.loops = 0 then .no else .next n, status := 0 }
    | .error e => some (s.fail row ("continue: " ++ e))
  | "set" :: args => some (setOptions row args s)
  | "true" :: _ | ":" :: _ | "hash" :: _ | "alias" :: _ | "unalias" :: _ | "jobs" :: _ =>
    some (s.done 0)
  | "wait" :: args => some (s.done (if args.isEmpty then 0 else 127))
  | "umask" :: args =>
    some (if args.isEmpty then s.printFor row "umask" (Program.line "0022") 0 else s.done 0)
  | "trap" :: action :: signals =>
    let s := s.done 0
    some (if signals.contains "EXIT" || signals.contains "0" then
      { s with atExit := if action == "-" then none else some action } else s)
  | ["trap"] => some (s.done 0)
  | "false" :: _ => some (s.done 1)
  | "kill" :: args => some (kill s row args)
  | "test" :: args =>
    match test s.host.files args with
    | .ok v => some (s.done (if v then 0 else 1))
    | .error e => some ((s.complain row ("test: " ++ e)).done 2)
  | "[" :: args =>
    if args.getLast? ≠ some "]" then some ((s.complain row "[: missing ]").done 2)
    else
      match test s.host.files args.dropLast with
      | .ok v => some (s.done (if v then 0 else 1))
      | .error e => some ((s.complain row ("[: " ++ e)).done 2)
  | "shift" :: args =>
    match givenNumber args 1 with
    | .error e => some (s.fail row ("shift: " ++ e))
    | .ok n =>
      if s.parameters.length < n then some (s.fail row "shift: can't shift that many")
      else some ({ s with parameters := s.parameters.drop n }.done 0)
  | "read" :: args =>
    let (raw, names) := match args with
      | "-r" :: names => (true, names)
      | names => (false, names)
    if names.isEmpty then some ((s.complain row "read: arg count").done 2)
    else some (readInto s row raw names)
  | "export" :: args =>
    some (declareAll row "export" (fun s name _ => { s with exported := name :: s.exported })
      (args.filter (· ≠ "-p")) s)
  | "readonly" :: args =>
    some (declareAll row "readonly" (fun s name _ => { s with fixed := name :: s.fixed })
      (args.filter (· ≠ "-p")) s)
  | "local" :: args =>
    match s.hidden with
    | none => some (s.fail row "local: not in a function")
    | some hidden =>
      let names := args.map fun a => (declared a).1
      let s := { s with hidden := some (names.map (fun n => (n, s.bindings.get? n)) ++ hidden) }
      some (declareAll row "local" (fun s _ _ => s) args s)
  | "unset" :: args =>
    match args with
    | "-f" :: names =>
      some ({ s with functions := s.functions.filter fun f => !names.contains f.1 }.done 0)
    | args =>
      let names := args.filter (· ≠ "-v")
      match names.find? s.fixed.contains with
      | some name => some (s.fail row ("unset: " ++ name ++ ": is read only"))
      | none => some ({ s with
          bindings := names.foldl Environment.unset s.bindings
          exported := s.exported.filter fun n => !names.contains n }.done 0)
  | "type" :: names =>
    some (printNames row "type" Prod.snd (fun name => some (name ++ ": not found")) names s)
  | "command" :: "-v" :: name :: _ =>
    some (printNames row "command" Prod.fst (fun _ => none) [name] s)
  | _ => none

end PipeShell.Script
