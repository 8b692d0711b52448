/-!
# Sets of characters

A set of characters is written as an ascending list of numbers at which membership begins and ends
in turn.
-/

namespace PipeShell.Text

/-- Membership in a set of characters: an odd number of its bounds lies at or below `n`. -/
def inRanges (bounds : List Nat) (n : Nat) : Bool := (bounds.takeWhile (· ≤ n)).length % 2 == 1

end PipeShell.Text
