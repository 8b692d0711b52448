import PipeShell.Program.Script.Arithmetic
import PipeShell.Program.Script.Builtin
import PipeShell.Program.Script.Fields

/-!
# Running scripts

Commands change the state of the script, and through it the host. The first argument of every
function bounds the number of steps.
-/

namespace PipeShell.Script

def stepLimit : Nat := 100000

def openReason (missing : String) : OsError → String
  | .noEntry | .notDirectory => missing
  | e => e.reason

def outlet? (s : State) (descriptor : Nat) : Option Outlet :=
  if descriptor = 1 then some s.out
  else if descriptor = 2 then some s.err
  else s.others.lookup descriptor

def setOutlet (s : State) (descriptor : Nat) (outlet : Outlet) : State :=
  if descriptor = 1 then { s with out := outlet }
  else if descriptor = 2 then { s with err := outlet }
  else { s with others := (descriptor, outlet) :: s.others }

def applyRedirect (row : Nat) (r : Redirection) (target : String) (s : State) :
    Except State State :=
  match r.direction with
  | .copy =>
    if target == "-" then .ok s
    else
      match target.toNat? with
      | none => .error (s.fail row "Syntax error: Bad fd number")
      | some 0 => .ok s
      | some n =>
        match outlet? s n with
        | some outlet => .ok (setOutlet s r.descriptor outlet)
        | none => .error ((s.complain row (toString n ++ ": Bad file descriptor")).done 2)
  | .read =>
    match s.host.files.read target with
    | .ok data =>
      .ok (if r.descriptor = 0 then
        { s with input := { bytes := data }, extent := some data.length } else s)
    | .error .isDirectory => .ok { s with input := {}, extent := none }
    | .error e =>
      .error ((s.complain row ("cannot open " ++ target ++ ": " ++
        openReason "No such file" e)).done 2)
  | .document =>
    .ok { s with input := { bytes := Text.encode target }, extent := none }
  | direction =>
    match s.host.openFile ⟨target, direction = .append⟩ with
    | (.ok sink, host) => .ok (setOutlet { s with host := host } r.descriptor (.sink sink))
    | (.error e, host) =>
      .error (({ s with host := host } : State).complain row
        ("cannot create " ++ target ++ ": " ++ openReason "Directory nonexistent" e) |>.done 2)

def restore (before after : State) (readsOwn : Bool) : State :=
  { after with
    out := before.out, err := before.err, others := before.others
    input := if readsOwn then before.input else after.input
    extent := before.extent }

def readsOwn (redirects : List Redirection) : Bool :=
  redirects.any fun r => r.direction = .read || r.direction = .document

def announce (s : State) (signal : Nat) : State :=
  let text := match signal with
    | 1 => "Hangup"
    | 3 => "Quit"
    | 6 => "Aborted"
    | 9 => "Killed"
    | 10 => "User defined signal 1"
    | 12 => "User defined signal 2"
    | 14 => "Alarm clock"
    | 15 => "Terminated"
    | _ => ""
  if text.isEmpty || s.commandLine then s
  else { s with host := (s.host.writeOutlet s.err (Text.encode (text ++ "\n"))).2 }

def start (external : External) (row : Nat) (label : String) (words : List String) (s : State) :
    Except (State × String) State :=
  let name := words.head?.getD ""
  let searchPath := (s.bindings.get? "PATH").getD ""
  let found := if Search.hasSlash name then some name
    else Search.find? s.host.files searchPath name
  match found with
  | none => .ok ((s.complain row (label ++ name ++ ": not found")).done 127)
  | some path =>
    match Image.load s.host.files Image.chainLimit path words with
    | .error .badFormat => .error (s, path)
    | .error .noEntry | .error .notDirectory =>
      .ok ((s.complain row (label ++ name ++ ": not found")).done 127)
    | .error e =>
      let code := if e = .tooManyLinks || e = .nameTooLong then 127 else 126
      .ok ((s.complain row (label ++ name ++ ": " ++ e.reason)).done code)
    | .ok image =>
      let call : Call := ⟨image.argv, s.input, s.extent, s.out, s.err⟩
      let (status, unread, host) := external image.program call
        { s.host with environment := s.environment }
      let s := { s with host := { host with environment := s.host.environment }, input := unread }
      match status with
      | .exited code => .ok (s.done code)
      | .signalled n => .ok ((announce s n).done (128 + n))

def expandTilde (s : State) (w : Word) : Word :=
  match w with
  | .text t false :: rest =>
    match t.toList, s.bindings.get? "HOME" with
    | ['~'], some home => if rest.isEmpty then [.text home true] else w
    | '~' :: '/' :: cs, some home =>
      .text home true :: .text (String.ofList ('/' :: cs)) false :: rest
    | _, _ => w
  | _ => w

/-- A failure ends the script if it asked for that and the failure is not looked at. -/
def checked (s : State) : State :=
  if s.has 'e' && !s.tested && s.status ≠ 0 && s.leaving = .no then { s with leaving := .exit }
  else s

def trace (s : State) (texts : List String) : State :=
  if s.has 'x' then
    { s with host := (s.host.writeOutlet s.err
        (Text.encode ("+ " ++ " ".intercalate texts ++ "\n"))).2 }
  else s

def leaveLoop (s : State) : State :=
  match s.leaving with
  | .breaking n => { s with leaving := if n ≤ 1 then .no else .breaking (n - 1) }
  | .next n => { s with leaving := if n ≤ 1 then .no else .next (n - 1) }
  | _ => s

def goesOn (s : State) : Bool :=
  match s.leaving with
  | .no => true
  | .next n => n ≤ 1
  | _ => false

mutual

def expand (external : External) : Nat → Nat → Word → State → List Segment × State
  | 0, _, _, s => ([], s)
  | _, _, [], s => ([], s)
  | n + 1, row, part :: rest, s =>
    let (segments, s) : List Segment × State := match part with
      | .text t quoted => ([.solid t quoted], s)
      | .parameter name adjustment quoted => adjusted external n row name adjustment quoted s
      | .length name quoted =>
        let value := toString (((s.parameter? name).getD "").length)
        ([if quoted then .solid value true else .loose value], s)
      | .arithmetic source quoted =>
        let (text, s) := value external n row (wordBetweenBraces source true) s
        match arithmetic s.bindings text with
        | .ok (v, bindings) =>
          ([if quoted then .solid (toString v) true else .loose (toString v)],
            { s with bindings := bindings })
        | .error e => ([], s.fail row e)
      | .command source quoted =>
        let (pipe, host) := s.host.newPipe
        let sub := runSource external n source { s with host := host, out := .pipe pipe }
        let data := (sub.host.flowOf pipe).bytes
        let data := (data.reverse.dropWhile (· == 0x0A)).reverse
        let text := Text.decodeLossy data
        ([if quoted then .solid text true else .loose text], s.rejoin sub)
      | .broken => ([], s.fail row "Bad substitution")
    if s.leaving = .exit then (segments, s)
    else
      let (more, s) := expand external n row rest s
      (segments ++ more, s)

def adjusted (external : External) : Nat → Nat → String → Adjustment → Bool → State →
    List Segment × State
  | 0, _, _, _, _, s => ([], s)
  | n + 1, row, name, adjustment, quoted, s =>
    let shown := fun (text : String) =>
      if quoted then [Segment.solid text true] else [Segment.loose text]
    let word := fun (source : String) (s : State) =>
      let (segments, s) := expand external n row (wordBetweenBraces source quoted) s
      (segments.map fun segment => match segment with
        | .solid t false => .loose t
        | segment => segment, s)
    let found := s.parameter? name
    let missing := fun (empty : Bool) => match found with
      | none => true
      | some v => empty && v.isEmpty
    let whole := fun (s : State) =>
      if name == "@" then ([Segment.several s.parameters quoted], s)
      else if name == "*" && !quoted then ([Segment.several s.parameters false], s)
      else if name == "*" then
        let mark := match s.separators with
          | [] => ""
          | c :: _ => String.ofList [c]
        ([.solid (mark.intercalate s.parameters) true], s)
      else
        match found with
        | some v => (shown v, s)
        | none =>
          if s.has 'u' && name != "!" then ([], s.fail row (name ++ ": parameter not set"))
          else (shown "", s)
    match adjustment with
    | .plain => whole s
    | .fallback empty source => if missing empty then word source s else whole s
    | .instead empty source => if missing empty then (shown "", s) else word source s
    | .assigned empty source =>
      if missing empty then
        let (text, s) := value external n row (wordBetweenBraces source quoted) s
        (shown text, s.assign row name text)
      else whole s
    | .required empty source =>
      if missing empty then
        let (text, s) := value external n row (wordBetweenBraces source quoted) s
        let text := if !source.isEmpty then text
          else if empty then "parameter not set or null" else "parameter not set"
        ([], s.fail row (name ++ ": " ++ text))
      else whole s
    | .withoutStart longest source =>
      let (pattern, s) := patternOf external n row (wordBetweenBraces source false) s
      (shown (String.ofList (dropStart longest pattern (found.getD "").toList)), s)
    | .withoutEnd longest source =>
      let (pattern, s) := patternOf external n row (wordBetweenBraces source false) s
      (shown (String.ofList (dropEnd longest pattern (found.getD "").toList)), s)

def patternOf (external : External) : Nat → Nat → Word → State → List Glyph × State
  | 0, _, _, s => ([], s)
  | n + 1, row, word, s =>
    let (segments, s) := expand external n row word s
    (segments.flatMap fun segment => match segment with
      | .solid t quoted => glyphs t quoted
      | .loose t => glyphs t false
      | .several ts quoted => glyphs (" ".intercalate ts) quoted, s)

def fields (external : External) : Nat → Nat → List Word → State → List String × State
  | 0, _, _, s => ([], s)
  | _, _, [], s => ([], s)
  | n + 1, row, word :: rest, s =>
    let (segments, s) := expand external n row (expandTilde s word) s
    if s.leaving = .exit then ([], s)
    else
      let own := (fieldsOf s.separators segments).flatMap (namesFor s.host.files !(s.has 'f'))
      let (more, s) := fields external n row rest s
      (own ++ more, s)

def value (external : External) : Nat → Nat → Word → State → String × State
  | 0, _, _, s => ("", s)
  | n + 1, row, word, s =>
    let (segments, s) := expand external n row (expandTilde s word) s
    (String.join (segments.map fun segment => match segment with
      | .solid t _ => t
      | .loose t => t
      | .several ts _ => " ".intercalate ts), s)

def redirectAll (external : External) : Nat → Nat → List Redirection → State → Except State State
  | 0, _, _, s => .ok s
  | _, _, [], s => .ok s
  | n + 1, row, r :: rest, s =>
    let (target, s) := value external n row r.word s
    if s.leaving = .exit then .error s
    else
      match applyRedirect row r target s with
      | .error s => .error s
      | .ok s => redirectAll external n row rest s

def assignAll (external : External) : Nat → Nat → List (String × Word) → State →
    List (String × String) × State
  | 0, _, _, s => ([], s)
  | _, _, [], s => ([], s)
  | n + 1, row, (name, word) :: rest, s =>
    let (text, s) := value external n row word s
    if s.leaving = .exit then ([], s)
    else
      let s := s.assign row name text
      let (more, s) := assignAll external n row rest s
      ((name, text) :: more, s)

/-- Calls a function with parameters of its own. Variables that it hides come back after it. -/
def callFunction (external : External) : Nat → Cmd → List String → State → State
  | 0, _, _, s => s
  | n + 1, body, args, s =>
    let inner := run external n body { s with parameters := args, hidden := some [] }
    let bindings := (inner.hidden.getD []).foldl (fun (vars : Environment) (name, old) =>
      match old with
      | some v => vars.set name v
      | none => vars.unset name) inner.bindings
    { inner with
      parameters := s.parameters, hidden := s.hidden, bindings := bindings
      leaving := if inner.leaving = .returning then .no else inner.leaving }

def runWords (external : External) : Nat → Nat → String → List String → State → State
  | 0, _, _, _, s => s
  | n + 1, row, label, words, s =>
    match words with
    | [] => s
    | "eval" :: args => runSource external n (" ".intercalate args) s
    | "exec" :: [] => s
    | "exec" :: args =>
      let s := runProgram external n row "exec: " args s
      { s with leaving := .exit }
    | ["."] => s.fail row ".: filename argument required"
    | "." :: file :: args =>
      match s.host.files.read file with
      | .error e =>
        s.fail row (".: cannot open " ++ file ++ ": " ++ openReason "No such file" e)
      | .ok content =>
        let own := { s with parameters := if args.isEmpty then s.parameters else args, status := 0 }
        let after := runSource external n (Text.decodeLossy content) own
        { after with
          parameters := if args.isEmpty then after.parameters else s.parameters
          leaving := if after.leaving = .returning then .no else after.leaving }
    | name :: args =>
      match s.functions.lookup name with
      | some body => callFunction external n body args s
      | none =>
        match builtin? row words s with
        | some s => s
        | none =>
          if name == "command" then
            let after := runWords external n row label args { s with functions := [] }
            { after with functions := s.functions }
          else runProgram external n row label words s

def runProgram (external : External) : Nat → Nat → String → List String → State → State
  | 0, _, _, _, s => s
  | n + 1, row, label, words, s =>
    match start external row label words s with
    | .ok s => s
    | .error (s, path) =>
      match s.host.files.read path with
      | .error e => (s.complain row (path ++ ": " ++ e.reason)).done 126
      | .ok content =>
        let sub := runSource external n (Text.decodeLossy content)
          { s with name := path, parameters := words.drop 1, functions := [] }
        s.rejoin sub

def runSimple (external : External) : Nat → List (String × Word) → List Word → List Redirection →
    Nat → State → State
  | 0, _, _, _, _, s => s
  | n + 1, assignments, words, redirects, row, s =>
    let (texts, s) := fields external n row words s
    if s.leaving = .exit then s
    else
      let special := (texts.head?.map specialBuiltins.contains).getD false
      match redirectAll external n row redirects s with
      | .error after =>
        let s := restore s after true
        if special && s.leaving = .no then { s with leaving := .exit } else s
      | .ok inner =>
        let old := inner.bindings
        let (given, inner) := assignAll external n row assignments
          (if texts.isEmpty then inner.done 0 else inner)
        if inner.leaving = .exit then restore s inner (readsOwn redirects)
        else
          let inner := if texts.isEmpty && assignments.isEmpty then inner
            else
              let traced := trace { inner with err := s.err }
                (given.map (fun (name, v) => name ++ "=" ++ v) ++ texts)
              { traced with err := inner.err }
          match texts with
          | [] => restore s inner (readsOwn redirects)
          | ["exec"] => inner
          | _ =>
            let outer := inner.exported
            let inner := { inner with exported := given.map Prod.fst ++ outer }
            let after := runWords external n row "" texts inner
            let after := if assignments.isEmpty || special then after
              else { after with
                bindings := given.foldl (fun (vars : Environment) (name, _) =>
                  match old.get? name with
                  | some v => vars.set name v
                  | none => vars.unset name) after.bindings
                exported := outer }
            restore s after (readsOwn redirects)

def run (external : External) : Nat → Cmd → State → State
  | 0, _, s => s
  | n + 1, cmd, s =>
    if s.leaving ≠ .no || s.has 'n' then s
    else
      let looked := fun (body : Cmd) (s : State) =>
        { run external n body { s with tested := true } with tested := s.tested }
      match cmd with
      | .nothing => s
      | .simple assignments words redirects row =>
        checked (runSimple external n assignments words redirects row s)
      | .pipe left right =>
        let (pipe, host) := s.host.newPipe
        let sub := run external n left { s with host := host, out := .pipe pipe }
        let s := s.rejoin sub
        let flow := s.host.flowOf pipe
        let sub := run external n right { s with input := flow, extent := none }
        checked { s.rejoin sub with input := s.input }
      | .both left right =>
        let s := looked left s
        if s.status = 0 then run external n right s else s
      | .either left right =>
        let s := looked left s
        if s.status = 0 then s else run external n right s
      | .sequence left right => run external n right (run external n left s)
      | .negate body =>
        let s := looked body s
        if s.leaving = .no then s.done (if s.status = 0 then 1 else 0) else s
      | .background body =>
        let clock := s.host.clock
        let sub := run external n body { s with input := {} }
        let back := s.rejoin sub
        { back with host := { back.host with clock := clock }, input := s.input, status := 0 }
      | .redirected body redirects row =>
        match redirectAll external n row redirects s with
        | .error after => restore s after true
        | .ok inner => restore s (run external n body inner) (readsOwn redirects)
      | .subshell body =>
        let sub := run external n body { s with atExit := none }
        checked (s.rejoin sub)
      | .branch condition yes no =>
        let s := looked condition s
        if s.leaving ≠ .no then s
        else if s.status = 0 then run external n yes s
        else
          match no with
          | .nothing => s.done 0
          | no => run external n no s
      | .loop negated condition body =>
        let inner := { s with status := 0, loops := s.loops + 1 }
        { cycle external n negated condition body inner 0 with loops := s.loops }
      | .each name words body =>
        let (values, s) := match words with
          | some ws => fields external n 1 ws s
          | none => (s.parameters, s)
        let inner := { s with status := 0, loops := s.loops + 1 }
        { visit external n name body values inner with loops := s.loops }
      | .choice word arms =>
        let (text, s) := value external n 1 word s
        choose external n text.toList arms (s.done 0)
      | .arm _ body _ => run external n body s
      | .define name body => { s with functions := (name, body) :: s.functions, status := 0 }

def choose (external : External) : Nat → List Char → Cmd → State → State
  | 0, _, _, s => s
  | n + 1, text, arms, s =>
    match arms with
    | .arm patterns body next =>
      let (found, s) := fitsAny external n text patterns s
      if found then run external n body s else choose external n text next s
    | _ => s

def fitsAny (external : External) : Nat → List Char → List Word → State → Bool × State
  | 0, _, _, s => (false, s)
  | _, _, [], s => (false, s)
  | n + 1, text, word :: rest, s =>
    let (pattern, s) := patternOf external n 1 word s
    if fitsAll pattern text then (true, s) else fitsAny external n text rest s

def cycle (external : External) : Nat → Bool → Cmd → Cmd → State → Nat → State
  | 0, _, _, _, s, _ => s
  | n + 1, negated, condition, body, s, last =>
    let s := { run external n condition { s with tested := true } with tested := s.tested }
    if s.leaving ≠ .no then leaveLoop s
    else if (s.status = 0) = !negated then
      let s := run external n body s
      if goesOn s then cycle external n negated condition body (leaveLoop s) s.status
      else leaveLoop s
    else s.done last

def visit (external : External) : Nat → String → Cmd → List String → State → State
  | 0, _, _, _, s => s
  | _, _, _, [], s => s
  | n + 1, name, body, value :: rest, s =>
    let s := run external n body (s.assign 1 name value)
    if goesOn s then visit external n name body rest (leaveLoop s) else leaveLoop s

def runSource (external : External) : Nat → String → State → State
  | 0, _, s => s
  | n + 1, source, s =>
    match tokens source with
    | [] => s.done 0
    | ts => runLines external n (newlinesIn source.toList + 1) ts s

def runLines (external : External) : Nat → Nat → Tokens → State → State
  | 0, _, _, s => s
  | _, _, [], s => s
  | n + 1, last, ts, s =>
    if s.leaving ≠ .no then s
    else
      match nextLine last ts with
      | .error fault => s.fail fault.line fault.text
      | .ok (cmd, rest) =>
        runLines external n last rest (run external n cmd s)

end

def State.ending (s : State) : Status :=
  match s.signal with
  | some n => .signalled n
  | none => .exited s.status

def conclude (external : External) (s : State) : State :=
  match s.atExit, s.signal with
  | some action, none =>
    let after := runSource external stepLimit action { s with leaving := .no, atExit := none }
    if after.leaving = .exit then after else { after with status := s.status }
  | _, _ => s

def orient (s : State) : State :=
  let files := s.host.files
  let trusted := (s.bindings.get? "PWD").filter fun path =>
    Path.isAbsolute path && (files.find path).toOption = some files.cwd
  match trusted, files.workingPath with
  | some path, _ => { s with location := path }
  | none, .ok path => { s with location := path, bindings := s.bindings.set "PWD" path }
  | none, .error e =>
    let text := "sh: 0: getcwd() failed: " ++ e.reason ++ "\n"
    { s with host := (s.host.writeOutlet s.err (Text.encode text)).2
             bindings := s.bindings.set "PWD" "" }

def shell (external : External) (h : Host) (c : Call) : Status × Flow × Host :=
  let state := orient
    { host := h, name := c.name, parameters := [], bindings := h.environment
      exported := "PWD" :: h.environment.map Prod.fst, input := c.input, extent := c.extent
      out := c.out, err := c.err }
  let finish := fun (s : State) =>
    let s := conclude external s
    let files := { s.host.files with cwd := h.files.cwd }
    (s.ending, s.input, { s.host with files := files, environment := h.environment })
  match readOptions true [] false c.arguments with
  | .error e => finish (state.fail 0 e)
  | .ok switched =>
    let state := { state with options := switched.options }
    match switched.command, switched.rest with
    | true, [] => finish (state.fail 0 "-c requires an argument")
    | true, source :: rest =>
      finish (runSource external stepLimit source
        { state with
          name := rest.head?.getD c.name, parameters := rest.drop 1, commandLine := true })
    | false, rest =>
      if rest.isEmpty || state.has 's' then
        finish (runSource external stepLimit (Text.decodeLossy c.input.bytes)
          { state with input := {}, parameters := rest, options := switch state.options 's' true })
      else
        let file := rest.head?.getD ""
        match h.files.read file with
        | .error e =>
          finish (state.fail 0 ("cannot open " ++ file ++ ": " ++ openReason "No such file" e))
        | .ok content =>
          finish (runSource external stepLimit (Text.decodeLossy content)
            { state with name := file, parameters := rest.drop 1 })

end PipeShell.Script
