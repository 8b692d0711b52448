import PipeShell.Program.Input

/-!
# Removing files and directories

The programs `rm` and `rmdir` change the tree one operand after the other and go on after a failure.
-/

namespace PipeShell.Program

/-- A changed tree, what was said about the change, and whether all of it succeeded. -/
structure TreeChange where
  files : Files
  writes : List (Channel × Bytes) := []
  succeeded : Bool := true

def TreeChange.andThen (k : TreeChange) (next : Files → TreeChange) : TreeChange :=
  let after := next k.files
  ⟨after.files, k.writes ++ after.writes, k.succeeded && after.succeeded⟩

def changeEach (h : Host) (program : String) (c : Call) (operands : List String)
    (change : String → Files → TreeChange) : Status × Flow × Host :=
  let all := operands.foldl (fun (k : TreeChange) name => k.andThen (change name))
    ⟨h.files, [], true⟩
  { h with files := all.files }.carryOut program c
    { writes := all.writes, code := if all.succeeded then 0 else 1, unread := c.input }

structure Removal where
  whole : Bool
  emptyDirectories : Bool
  force : Bool
  verbose : Bool

namespace Removal

def failed (c : Call) (name why : String) (files : Files) : TreeChange :=
  ⟨files, [complain c "cannot remove " (quoted name) (": " ++ why)], false⟩

def removed (r : Removal) (what name : String) (files : Files) : TreeChange :=
  ⟨files, if r.verbose then [(.stdout, Text.encode ("removed " ++ what) ++ quoted name ++ [0x0A])]
    else [], true⟩

def directory (r : Removal) (c : Call) (name : String) (files : Files) : TreeChange :=
  match files.removeDirectory name with
  | .ok files => r.removed "directory " name files
  | .error e => failed c name e.reason files

def remove (r : Removal) (c : Call) : Nat → String → Files → TreeChange
  | 0, _, files => ⟨files, [], true⟩
  | depth + 1, name, files =>
    match files.findEntry name with
    | .error e =>
      if r.force && (e == .noEntry || e == .notDirectory) then ⟨files, [], true⟩
      else failed c name e.reason files
    | .ok i =>
      match files.node? i with
      | some (.dir parent entries gone mode) =>
        let here := Node.dir parent entries gone mode
        if r.whole then
          if !(here.allows .read && here.allows .execute) then
            match files.removeDirectory name with
            | .ok files => r.removed "directory " name files
            | .error _ => failed c name OsError.denied.reason files
          else
            let inner := entries.foldl (fun (k : TreeChange) entry => k.andThen
              (remove r c depth (name ++ (if name.endsWith "/" then "" else "/") ++ entry.1)))
              ⟨files, [], true⟩
            if inner.succeeded then inner.andThen (r.directory c name) else inner
        else if r.emptyDirectories then r.directory c name files
        else failed c name OsError.isDirectory.reason files
      | _ =>
        match files.unlink name with
        | .ok files => r.removed "" name files
        | .error e => failed c name e.reason files

end Removal

def rmOptions : OptionTable where
  plain := "dfirvIR"
  words := [⟨"force", 'f', false⟩, ⟨"interactive", 'n', true⟩, ⟨"one-file-system", 'o', false⟩,
    ⟨"no-preserve-root", 'N', false⟩, ⟨"preserve-root", 'P', false⟩, ⟨"recursive", 'r', false⟩,
    ⟨"dir", 'd', false⟩, ⟨"verbose", 'v', false⟩]

def lastName (path : String) : String :=
  String.ofList ((path.toList.reverse.dropWhile (· == '/')).takeWhile (· != '/')).reverse

def kindText : Node → String
  | .dir .. => "directory "
  | .link _ => "symbolic link "
  | .device _ => "character special file "
  | .file content _ => if content.isEmpty then "regular empty file " else "regular file "

def confirm (c : Call) (answers : List Bytes) (name : String) (files : Files) :
    List (Channel × Bytes) × Bool × List Bytes :=
  match files.findEntry name with
  | .ok i =>
    match files.node? i with
    | some node =>
      let yes := answers.head?.any fun l => l.head? == some 0x79 || l.head? == some 0x59
      ([(.stderr, Text.encode (c.name ++ ": remove " ++ kindText node) ++ quoted name ++
        Text.encode "? ")], yes, answers.drop 1)
    | none => ([], true, answers)
  | .error _ => ([], true, answers)

def confirmed (r : Removal) (c : Call) (files : Files) : List Bytes → List String →
    List (Channel × Bytes) × List String
  | _, [] => ([], [])
  | answers, name :: rest =>
    let isEmpty := match files.stat name with
      | .ok (.dir _ entries ..) => entries.isEmpty
      | _ => false
    if files.isDirectory name && !(isEmpty && (r.whole || r.emptyDirectories)) then
      let (asked, kept) := confirmed r c files answers rest
      (asked, name :: kept)
    else
      let (question, yes, answers) := confirm c answers name files
      let (asked, kept) := confirmed r c files answers rest
      (question ++ asked, if yes then name :: kept else kept)

def rm (h : Host) (c : Call) : Status × Flow × Host :=
  match rmOptions.read c.arguments with
  | .error e => h.carryOut "rm" c (badOption c 1 e)
  | .ok o =>
    let last := ((o.given.map Prod.fst).filter fun l => l == 'f' || l == 'i' || l == 'I').getLast?
    let request : Removal :=
      ⟨o.has 'r' || o.has 'R', o.has 'd', last == some 'f', o.has 'v'⟩
    if o.operands.isEmpty then
      if request.force then (.exited 0, c.input, h)
      else h.carryOut "rm" c (Report.misuse c "missing operand" 1)
    else
      let (asked, names) := if last == some 'i'
        then confirmed request c h.files (Text.rawLines 0x0A c.input.bytes) o.operands
        else ([], o.operands)
      let h := asked.foldl (fun h (_, data) => (h.writeOutlet c.err data).2) h
      changeEach h "rm" c names fun name files =>
        if request.whole && (lastName name == "." || lastName name == "..") then
          let why := "refusing to remove '.' or '..' directory: skipping "
          ⟨files, [complain c why (quoted name) ""], false⟩
        else if request.whole && (files.find name).toOption == some Files.root then
          ⟨files, [complain c "it is dangerous to operate recursively on " (quoted name) "",
            complain c "use --no-preserve-root to override this failsafe" [] ""], false⟩
        else request.remove c (files.nodes.size + 1) name files

def rmdirOptions : OptionTable where
  plain := "pv"
  words := [⟨"ignore-fail-on-non-empty", 'i', false⟩, ⟨"path", 'p', false⟩, ⟨"parents", 'p', false⟩,
    ⟨"verbose", 'v', false⟩]

def above? (path : String) : Option String :=
  let cs := path.toList.reverse.dropWhile (· == '/')
  let up := (cs.dropWhile (· != '/')).dropWhile (· == '/')
  if up.isEmpty then none else some (String.ofList up.reverse)

def removeUpwards (c : Call) (o : Options) (what : String) : Nat → String → Files → TreeChange
  | 0, _, files => ⟨files, [], true⟩
  | n + 1, name, files =>
    let told := if o.has 'v' then
      [(Channel.stdout, Text.encode (c.name ++ ": removing directory, ") ++ quoted name ++ [0x0A])]
      else []
    match files.removeDirectory name with
    | .error e =>
      if o.has 'i' && e == .notEmpty then ⟨files, told, true⟩
      else ⟨files, told ++ [complain c ("failed to remove " ++ what) (quoted name)
        (": " ++ e.reason)], false⟩
    | .ok files =>
      let here : TreeChange := ⟨files, told, true⟩
      match o.has 'p', above? name with
      | true, some up => here.andThen (removeUpwards c o "directory " n up)
      | _, _ => here

def rmdir (h : Host) (c : Call) : Status × Flow × Host :=
  match rmdirOptions.read c.arguments with
  | .error e => h.carryOut "rmdir" c (badOption c 1 e)
  | .ok o =>
    if o.operands.isEmpty then h.carryOut "rmdir" c (Report.misuse c "missing operand" 1)
    else changeEach h "rmdir" c o.operands fun name files =>
      removeUpwards c o "" (name.length + 2) name files

end PipeShell.Program
