import PipeShell.Files.Basic

/-!
# Program files

A file can be started if it is a compiled program or names an interpreter in its first line. The
files of the host's programs are of the first kind: behind the head of a compiled program they hold
the name of the program. Other files with a mark like theirs are no programs.

Of the first line only as much is looked at as fits into a buffer of 256 bytes. If the line does
not end in there, the name of the interpreter has to, and an argument after it is cut short.
-/

namespace PipeShell

structure Image where
  program : String
  argv : List String
  deriving DecidableEq, Repr

namespace Image

def head : Bytes :=
  [0x7F, 0x45, 0x4C, 0x46, 0x02, 0x01, 0x01, 0x00, 0x00, 0x00, 0x00, 0x00, 0x00, 0x00, 0x00, 0x00,
    0x03, 0x00, 0x3E, 0x00, 0x01, 0x00, 0x00, 0x00, 0x40, 0x10, 0x00, 0x00, 0x00, 0x00, 0x00, 0x00,
    0x40, 0x00, 0x00, 0x00, 0x00, 0x00, 0x00, 0x00, 0x00, 0x80, 0x00, 0x00, 0x00, 0x00, 0x00, 0x00,
    0x00, 0x00, 0x00, 0x00, 0x40, 0x00, 0x38, 0x00, 0x0D, 0x00, 0x40, 0x00, 0x1F, 0x00, 0x1E, 0x00]

def content (program : String) : Bytes := head ++ Text.encode program

def program? (content : Bytes) : Option String :=
  if head.isPrefixOf content then Text.decode? (content.drop head.length) else none

def isSpace (x : UInt8) : Bool := x == 0x20 || x == 0x09

def bufferSize : Nat := 256

/-- The part of a first line that names the interpreter, without blanks at its end. The part begins
behind the two characters that mark a script. A file that is too short for the buffer goes on in it
with zeros, and a zero ends the search for the end of the line. -/
def interpreterText? (content : Bytes) : Option Bytes :=
  let buffer := content.take bufferSize ++ List.replicate (bufferSize - content.length) 0
  let body := buffer.drop 2
  let line := body.takeWhile fun x => x != 0x0A && x != 0
  let trimmed := fun (text : Bytes) => (text.reverse.dropWhile isSpace).reverse
  if (body.drop line.length).head? = some 0x0A then some (trimmed line)
  else if (body.dropWhile isSpace).any (fun x => isSpace x || x == 0) then
    some (trimmed body.dropLast)
  else none

def interpreter? (content : Bytes) : Option (Bytes × Option Bytes) :=
  if content.take 2 != [0x23, 0x21] then none
  else
    match interpreterText? content with
    | none => none
    | some text =>
      match text.dropWhile isSpace with
      | [] => none
      | start =>
        let name := start.takeWhile fun x => !isSpace x && x != 0
        let rest := start.drop name.length
        let argument := (rest.dropWhile isSpace).takeWhile (· != 0)
        some (name, if (rest.head?.map isSpace).getD false then some argument else none)

/-- How many files one start may take: scripts, each the interpreter of the one before, and the
program at the end. -/
def chainLimit : Nat := 6

def executable (files : Files) (path : String) : Except OsError Bytes :=
  match files.stat (if path.isEmpty then "." else path) with
  | .error e => .error e
  | .ok (.file content mode) =>
    if (Node.file content mode).allows .execute then .ok content else .error .denied
  | .ok _ => .error .denied

/-- Loads the file at `path`, to be run with the given argument list. An interpreter may itself be
a script; the first argument bounds how many files that takes. -/
def load (files : Files) : Nat → String → List String → Except OsError Image
  | depth, path, argv =>
    match executable files path, depth with
    | .error e, _ => .error e
    | .ok _, 0 => .error .tooManyLinks
    | .ok content, depth + 1 =>
      match program? content, interpreter? content with
      | some program, _ => .ok ⟨program, argv⟩
      | none, none => .error .badFormat
      | none, some (name, argument) =>
        let name := Text.decodeLossy name
        let argument := (argument.map Text.decodeLossy).toList
        load files depth name (name :: argument ++ path :: argv.drop 1)

end Image

end PipeShell
