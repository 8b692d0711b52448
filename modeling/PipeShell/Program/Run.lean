import PipeShell.Launch.Host
import PipeShell.Program.Cat
import PipeShell.Program.Count
import PipeShell.Program.Excerpt
import PipeShell.Program.Mode
import PipeShell.Program.Script.Run
import PipeShell.Program.Sequence
import PipeShell.Program.Sort

/-!
# The programs of the host

What each program of the host does when it is called, and how a process runs: it reads what its
inlet holds, and what it leaves of the terminal's input stays there.
-/

namespace PipeShell

namespace Program

def pwd (h : Host) (c : Call) : Report :=
  match ({ plain := "LP" } : OptionTable).read c.arguments with
  | .error e => badOption c 1 e
  | .ok o =>
    let warned := if o.operands.isEmpty then []
      else [complain c "ignoring non-option arguments" [] ""]
    match h.files.workingPath with
    | .ok path => { writes := warned ++ [(.stdout, line path)], unread := c.input }
    | .error e =>
      { writes := warned ++ [complain c e.reason [] ""], code := 1, unread := c.input }

def conditionComplaint (arguments : List String) (why : String) : String :=
  let illegal := "Illegal number: "
  if why.startsWith illegal then
    "invalid integer '" ++ String.ofList (why.toList.drop illegal.length) ++ "'"
  else
    match arguments with
    | [_, b] => "missing argument after '" ++ b ++ "'"
    | [_, b, _] => "'" ++ b ++ "': binary operator expected"
    | _ => "extra argument '" ++ (arguments[1]?.getD "") ++ "'"

def condition (h : Host) (c : Call) : Report :=
  match Script.test h.files c.arguments with
  | .ok v => { code := if v then 0 else 1, unread := c.input }
  | .error e => Report.complaint c (conditionComplaint c.arguments e) 2

def sleep (h : Host) (c : Call) : Status × Flow × Host :=
  match ({} : OptionTable).read c.arguments with
  | .error e => h.carryOut "sleep" c (badOption c 1 e)
  | .ok o =>
    let bad := o.operands.filter fun w => (duration? w).isNone
    if c.arguments.isEmpty then h.carryOut "sleep" c (Report.misuse c "missing operand" 1)
    else if bad.isEmpty then
      let passed := (o.operands.filterMap duration?).foldl (· + ·) h.clock
      (.exited 0, c.input, { h with clock := passed })
    else
      let hint := "Try '" ++ c.name ++ " --help' for more information.\n"
      h.carryOut "sleep" c
        { writes := (bad.map fun w => complain c "invalid time interval " (quoted w) "") ++
            [(.stderr, Text.encode hint)]
          code := 1
          unread := c.input }

def call : Nat → Script.External
  | 0, _, c, h => (.exited 126, c.input, h)
  | depth + 1, program, c, h =>
    let reported := fun (r : Report) => h.carryOut program c r
    match program with
    | "cat" => cat h c
    | "chmod" => chmod h c
    | "dash" => Script.shell (call depth) h c
    | "echo" => reported { echo c with unread := c.input }
    | "false" => (.exited 1, c.input, h)
    | "head" => reported (head h c)
    | "printf" => reported { printf c with unread := c.input }
    | "pwd" => reported (pwd h c)
    | "rm" => rm h c
    | "rmdir" => rmdir h c
    | "seq" => reported { seq c with unread := c.input }
    | "sleep" => sleep h c
    | "sort" => sort h c
    | "tail" => reported (tail h c)
    | "test" => reported (condition h c)
    | "tr" => reported (tr c)
    | "uniq" => uniq h c
    | "wc" => reported (wc h c)
    | "yes" => reported { yes c with unread := c.input }
    | _ => (.exited 0, c.input, h)

end Program

def Program.depthLimit : Nat := 32

def Program.behaviour : Behaviour := fun p h =>
  let call := fun (input : Flow) (extent : Option Nat) =>
    Program.call Program.depthLimit p.program ⟨p.argv, input, extent, p.out, p.err⟩ h
  match p.input with
  | .null => let (status, _, h) := call {} none; (status, h)
  | .bytes data => let (status, _, h) := call { bytes := data } none; (status, h)
  | .pipe number => let (status, _, h) := call (h.flowOf number) none; (status, h)
  | .terminal =>
    let (status, unread, h) := call { bytes := h.terminalIn } h.terminalSize
    (status, { h with terminalIn := unread.bytes })

end PipeShell
