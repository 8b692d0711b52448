import PipeShell.Text.Invisible

/-!
# Escaped texts

The way a text is shown inside a log message: between double quotes, with an escape for everything
that could not be seen in print.
-/

namespace PipeShell.Text

def escapeChar (c : Char) : List Char :=
  if c = Char.ofNat 0 then ['\\', '0']
  else if c = '\t' then ['\\', 't']
  else if c = '\r' then ['\\', 'r']
  else if c = '\n' then ['\\', 'n']
  else if c = '"' then ['\\', '"']
  else if c = '\\' then ['\\', '\\']
  else if isInvisible c then
    ['\\', 'u', '\x7b'] ++ Nat.toDigits 16 c.toNat ++ ['\x7d']
  else [c]

def escaped (text : String) : String :=
  String.ofList ('"' :: (text.toList.flatMap escapeChar ++ ['"']))

def escaped? : Option String → String
  | none => "None"
  | some text => "Some(" ++ escaped text ++ ")"

end PipeShell.Text
