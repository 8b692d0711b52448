import PipeShell.Text.Bytes

/-!
# The three streams of a command

A command reads from a source and writes to two sinks. A sink is the terminal, an open file or a
buffer. Files and buffers are known by their numbers, so that two streams can share one.
-/

namespace PipeShell

inductive Sink
  | terminalOut
  | terminalErr
  | file (handle : Nat)
  | buffer (number : Nat)
  deriving DecidableEq, Repr

inductive Source
  | terminal
  | buffer (unread : Bytes)
  deriving DecidableEq, Repr

def Source.remaining : Source → Bytes
  | .terminal => []
  | .buffer unread => unread

structure Streams where
  input : Source
  out : Sink
  err : Sink
  deriving DecidableEq, Repr

structure Replacement where
  input : Option Source := none
  out : Option Sink := none
  err : Option Sink := none
  deriving DecidableEq, Repr

namespace Streams

def terminal : Streams := ⟨.terminal, .terminalOut, .terminalErr⟩

def replace (s : Streams) (r : Replacement) : Streams :=
  ⟨r.input.getD s.input, r.out.getD s.out, r.err.getD s.err⟩

def shared (s : Streams) : Bool :=
  match s.out, s.err with
  | .file a, .file b => a == b
  | .buffer a, .buffer b => a == b
  | _, _ => false

@[simp] theorem replace_empty (s : Streams) : s.replace {} = s := rfl

end Streams

end PipeShell
