import PipeShell.Command.Basic

/-!
# Printed commands

A command is printed as its words, its redirections and its background mark, in this order. A word
that needs it is put between single quotes; a single quote inside is written outside of them,
behind a backslash.
-/

namespace PipeShell

namespace Command

def isSpecial (c : Char) : Bool :=
  ['|', '&', ';', '<', '>', '(', ')', '$', Char.ofNat 0x60, '\\', '"', '\x27', ' ', '\t', '\n',
    '*', '?', '[', '#', '~', '=', '%'].contains c

def quoteChar (c : Char) : List Char :=
  if c = '\x27' then ['\x27', '\\', '\x27', '\x27'] else [c]

def quoteChars (word : List Char) : List Char :=
  if word.isEmpty || word.any isSpecial then
    '\x27' :: (word.flatMap quoteChar ++ ['\x27'])
  else word

def quote (word : String) : String := String.ofList (quoteChars word.toList)

def renderTarget (plain append : String) : Option Target → String
  | none => ""
  | some t => (if t.append then append else plain) ++ quote t.path

def render (c : Command) : String :=
  " ".intercalate ((c.program :: c.arguments).map quote) ++
    renderTarget " > " " >> " c.redirects.stdout ++
    renderTarget " 2> " " 2>> " c.redirects.stderr ++
    (if c.background then " &" else "")

end Command

def Job.render (job : Job) : String := " | ".intercalate (job.stages.map Command.render)

end PipeShell
