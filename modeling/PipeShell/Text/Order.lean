/-!
# Ordered names

Names are put in the order of their bytes, which for UTF-8 is the order of their characters, and
each is kept once.
-/

namespace PipeShell.Text

def dropRepeats : List String → List String
  | [] => []
  | [x] => [x]
  | x :: y :: rest => if x = y then dropRepeats (y :: rest) else x :: dropRepeats (y :: rest)

def sortNames (names : List String) : List String := names.mergeSort fun a b => decide (a ≤ b)

def distinctSorted (names : List String) : List String := dropRepeats (sortNames names)

def startsWith (text name : String) : Bool := text.toList.isPrefixOf name.toList

end PipeShell.Text
