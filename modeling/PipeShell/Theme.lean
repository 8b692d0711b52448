/-!
# Themes

A theme says in which colour the prompt and the messages about a bad line are shown. When colours
are off every text is shown as it is.
-/

namespace PipeShell

inductive Colour
  | red
  | brightRed
  | brightPurple
  | brightCyan
  deriving DecidableEq, Repr

namespace Colour

def code : Colour → String
  | .red => "31"
  | .brightRed => "91"
  | .brightPurple => "95"
  | .brightCyan => "96"

def start (c : Colour) : String := "\x1b[" ++ c.code ++ "m"

def reset : String := "\x1b[0m"

/-- Colours a text. The text may itself end colours: after each such place the colour starts
again. -/
def paint (c : Colour) (text : String) : String :=
  c.start ++ (reset ++ c.start).intercalate (text.splitOn reset) ++ reset

end Colour

structure Theme where
  prompt : String
  errorColour : Option Colour
  promptColour : Option Colour
  deriving DecidableEq, Repr

namespace Theme

def standard : Theme := ⟨"$ ", some .brightRed, some .brightCyan⟩

def named (name prompt : String) : Theme :=
  if name = "dark" then ⟨prompt, some .red, some .brightPurple⟩
  else if name = "plain" then ⟨prompt, none, none⟩
  else { standard with prompt := prompt }

def show? (colours : Bool) (colour : Option Colour) (text : String) : String :=
  match colours, colour with
  | true, some c => c.paint text
  | _, _ => text

def styledPrompt (t : Theme) (colours : Bool) : String := show? colours t.promptColour t.prompt

def styledError (t : Theme) (colours : Bool) (text : String) : String :=
  show? colours t.errorColour text

end Theme

end PipeShell
