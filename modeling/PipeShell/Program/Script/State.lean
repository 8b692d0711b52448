import PipeShell.Program.Format
import PipeShell.Program.Image
import PipeShell.Program.Script.Parser
import PipeShell.Search.Basic

/-!
# The state of a running script

A script runs on the host with its own variables, parameters, functions and outlets. A subshell is
a copy of the state of which only the host and the unread input come back.
-/

namespace PipeShell.Script

inductive Leaving
  | no
  | exit
  | returning
  | breaking (loops : Nat)
  | next (loops : Nat)
  deriving Repr, DecidableEq

/-- Where a script believes to be is kept as text in `location`, links and all. `tested` holds where
a failure is only looked at and does not end the script. -/
structure State where
  host : Host
  name : String
  parameters : List String
  bindings : Environment
  exported : List String := []
  fixed : List String := []
  functions : List (String × Cmd) := []
  hidden : Option (List (String × Option String)) := none
  options : List Char := []
  location : String := ""
  status : Nat := 0
  input : Flow
  extent : Option Nat
  out : Outlet
  err : Outlet
  others : List (Nat × Outlet) := []
  commandLine : Bool := false
  loops : Nat := 0
  tested : Bool := false
  leaving : Leaving := .no
  atExit : Option String := none
  signal : Option Nat := none

abbrev External := String → Call → Host → Status × Flow × Host

namespace State

def print (s : State) (data : Bytes) : State := { s with host := (s.host.writeOutlet s.out data).2 }

def complain (s : State) (row : Nat) (text : String) : State :=
  let message := s.name ++ ": " ++ toString row ++ ": " ++ text ++ "\n"
  { s with host := (s.host.writeOutlet s.err (Text.encode message)).2 }

def done (s : State) (code : Nat) : State := { s with status := code }

def fail (s : State) (row : Nat) (text : String) : State :=
  { s.complain row text with leaving := .exit, status := 2 }

def printFor (s : State) (row : Nat) (builtin : String) (data : Bytes) (code : Nat) : State :=
  match s.host.writeOutlet s.out data with
  | (.ok (), host) => { s with host := host, status := code }
  | (.error _, host) =>
    ({ s with host := host, status := 1 } : State).complain row
      (builtin ++ ": " ++ builtin ++ ": I/O error")

def rejoin (s sub : State) : State :=
  { s with host := { sub.host with files := { sub.host.files with cwd := s.host.files.cwd } }
           input := sub.input, status := sub.status, signal := none }

def has (s : State) (option : Char) : Bool := s.options.contains option

def assign (s : State) (row : Nat) (name value : String) : State :=
  if s.fixed.contains name then s.fail row (name ++ ": is read only")
  else
    { s with
      bindings := s.bindings.set name value
      exported := if s.has 'a' then name :: s.exported else s.exported }

def environment (s : State) : Environment := s.bindings.filter fun e => s.exported.contains e.1

def ownNumber : String := "4242"

def parameter? (s : State) (name : String) : Option String :=
  match name with
  | "0" => some s.name
  | "#" => some (toString s.parameters.length)
  | "?" => some (toString s.status)
  | "$" => some ownNumber
  | "@" | "*" => if s.parameters.isEmpty then none else some (" ".intercalate s.parameters)
  | "-" => some (String.ofList s.options.reverse)
  | "!" => none
  | _ =>
    match name.toNat? with
    | some n => s.parameters[n - 1]?
    | none => s.bindings.get? name

def separators (s : State) : List Char := ((s.bindings.get? "IFS").getD " \t\n").toList

end State

end PipeShell.Script
