import PipeShell.Host.Redirect

/-!
# Scopes of streams

A scope replaces some of the three streams until it is left. Scopes nest, and leaving the innermost
one brings back the streams as they were when it was entered, also the place that had been reached
in the input. What was written stays written.
-/

namespace PipeShell

structure Scoped where
  host : Host
  current : Streams
  saved : List Streams := []

namespace Scoped

def enter (s : Scoped) (r : Replacement) : Scoped :=
  { s with current := s.current.replace r, saved := s.current :: s.saved }

def leave (s : Scoped) : Scoped :=
  match s.saved with
  | [] => s
  | streams :: rest => { s with current := streams, saved := rest }

@[simp] theorem leave_enter (s : Scoped) (r : Replacement) : (s.enter r).leave = s := rfl

def sink (s : Scoped) : Channel → Sink
  | .stdout => s.current.out
  | .stderr => s.current.err

def write (s : Scoped) (channel : Channel) (data : Bytes) : Except OsError Unit × Scoped :=
  let (result, host) := s.host.say (s.sink channel) data
  (result, { s with host := host })

def read (s : Scoped) (n : Nat) : Bytes × Scoped :=
  let (data, source, host) := s.host.read s.current.input n
  (data, { s with host := host, current := { s.current with input := source } })

def take (s : Scoped) (channel : Channel) : Bytes × Scoped :=
  let (data, host) := s.host.take (s.sink channel)
  (data, { s with host := host })

def contents (s : Scoped) (channel : Channel) : Bytes := s.host.contents (s.sink channel)

/-- Enters a scope whose sinks are the targets of redirections, or new buffers where `fresh` asks
for them. The answer holds the sinks that were put in place. -/
def enterWith (s : Scoped) (input : Option Bytes) (r : Redirects) (freshOut freshErr : Bool) :
    Except Failure Replacement × Scoped :=
  match s.host.openTargets r with
  | (.error f, host) => (.error f, { s with host := host })
  | (.ok opened, host) =>
    let (out, host) := if freshOut then host.newBuffer.map some id else (opened.out, host)
    let (err, host) := if freshErr then host.newBuffer.map some id else (opened.err, host)
    let replacement := ⟨input.map .buffer, out, err⟩
    (.ok replacement, { s with host := host }.enter replacement)

end Scoped

end PipeShell
