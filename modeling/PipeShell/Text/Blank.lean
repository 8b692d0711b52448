/-!
# Blank characters

The characters of the Unicode property `White_Space`. They decide which lines are blank, where the
word under the cursor starts, and what trimming removes. The word reader of the command line does
not use them: it has four separators of its own.
-/

namespace PipeShell.Text

/-- The characters with the Unicode property `White_Space`. -/
def isBlank (c : Char) : Bool :=
  let n := c.toNat
  (0x09 ≤ n && n ≤ 0x0D) || n == 0x20 || n == 0x85 || n == 0xA0 || n == 0x1680 ||
    (0x2000 ≤ n && n ≤ 0x200A) || n == 0x2028 || n == 0x2029 || n == 0x202F || n == 0x205F ||
    n == 0x3000

def allBlank (cs : List Char) : Bool := cs.all isBlank

def dropTail (p : Char → Bool) (cs : List Char) : List Char :=
  (cs.reverse.dropWhile p).reverse

def trimLeft (cs : List Char) : List Char := cs.dropWhile isBlank

def trimRight (cs : List Char) : List Char := dropTail isBlank cs

def trim (cs : List Char) : List Char := trimRight (trimLeft cs)

theorem allBlank_append (xs ys : List Char) :
    allBlank (xs ++ ys) = (allBlank xs && allBlank ys) := by
  simp [allBlank]

end PipeShell.Text
