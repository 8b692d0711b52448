/-!
# Scripts

The commands of scripts, as far as the programs of the host understand them: simple commands with
redirections, lists, pipelines, loops, conditions and functions. A word is a list of parts, because
only its unquoted parts are split into fields.
-/

namespace PipeShell.Script

/-- What is done with the value of a parameter. The first four look at whether the parameter is
set, or, if the flag holds, whether it is set and not empty. -/
inductive Adjustment
  | plain
  | fallback (empty : Bool) (source : String)
  | assigned (empty : Bool) (source : String)
  | required (empty : Bool) (source : String)
  | instead (empty : Bool) (source : String)
  | withoutStart (longest : Bool) (source : String)
  | withoutEnd (longest : Bool) (source : String)
  deriving Repr, DecidableEq

inductive Part
  | text (s : String) (quoted : Bool)
  | parameter (name : String) (adjustment : Adjustment) (quoted : Bool)
  | length (name : String) (quoted : Bool)
  | command (source : String) (quoted : Bool)
  | arithmetic (source : String) (quoted : Bool)
  /-- A substitution that cannot be read. That only shows when it is carried out. -/
  | broken
  deriving Repr, DecidableEq

abbrev Word := List Part

inductive Direction
  | read
  | write
  | append
  | copy
  | document
  deriving Repr, DecidableEq

structure Redirection where
  descriptor : Nat
  direction : Direction
  word : Word
  deriving Repr, DecidableEq

/-- The arms of a choice are a chain of `arm`, each with the one after it. -/
inductive Cmd
  | simple (assignments : List (String × Word)) (words : List Word) (redirects : List Redirection)
      (line : Nat)
  | pipe (left right : Cmd)
  | both (left right : Cmd)
  | either (left right : Cmd)
  | sequence (left right : Cmd)
  | negate (body : Cmd)
  | background (body : Cmd)
  | redirected (body : Cmd) (redirects : List Redirection) (line : Nat)
  | subshell (body : Cmd)
  | branch (condition yes no : Cmd)
  | loop (negated : Bool) (condition body : Cmd)
  | each (name : String) (words : Option (List Word)) (body : Cmd)
  | choice (word : Word) (arms : Cmd)
  | arm (patterns : List Word) (body next : Cmd)
  | define (name : String) (body : Cmd)
  | nothing
  deriving Repr

structure SyntaxFault where
  line : Nat
  text : String
  deriving Repr, DecidableEq

/-- A fault stands where the script cannot be cut into tokens any further. -/
inductive Token
  | word (w : Word)
  | number (n : Nat)
  | operator (s : String)
  | document (w : Word)
  | newline
  | fault (f : SyntaxFault)
  deriving Repr, DecidableEq

end PipeShell.Script
