import MatchedLines.Host.Machine
/-!
What a shell script says: words with the parts that are still to be replaced, and commands made of
them.
-/

namespace MatchedLines.Host.Shell

/-- How a redirection opens its file. -/
inductive Direction where
  | read
  | write
  /-- Writes over an existing file even where that is forbidden. -/
  | overwrite
  | append
  | both
  deriving DecidableEq, Repr

mutual

/-- A part of a word. Only what is not quoted can be cut into fields or matched with files. -/
inductive Part where
  | text (text : Octets) (quoted : Bool)
  /-- Quotes begin or end here. -/
  | mark
  | parameter (name : Octets) (form : Form) (quoted : Bool)
  /-- What a command writes. -/
  | output (body : Option Command) (quoted : Bool)
  | arithmetic (expression : List Part) (quoted : Bool)

/-- What is done with the value of a parameter. -/
inductive Form where
  | value
  /-- Written in a way that means nothing. -/
  | bad
  | length
  /-- A word to use instead, chosen by one of `-`, `=`, `?` and `+`; with `evenEmpty` an empty
  value counts as none. -/
  | fallback (kind : Char) (evenEmpty : Bool) (word : List Part)
  | trim (atEnd longest : Bool) (pattern : List Part)

inductive Redirect where
  | file (fd : Nat) (direction : Direction) (target : List Part)
  /-- Gives a number to the channel of another one, or closes it for `-`. -/
  | duplicate (fd : Nat) (target : List Part)
  /-- Reads a text of the script itself, known by its number. -/
  | here (fd : Nat) (index : Nat)

inductive Command where
  | simple (line : Nat) (assignments words : List (List Part)) (redirects : List Redirect)
  | pipe (commands : List Command)
  | background (line : Nat) (body : Command) (redirects : List Redirect)
  | subshell (line : Nat) (body : Command) (redirects : List Redirect)
  | redirected (line : Nat) (body : Command) (redirects : List Redirect)
  | negated (body : Command)
  | both (first second : Command)
  | either (first second : Command)
  | sequence (first second : Command)
  | branch (test yes : Command) (no : Option Command)
  /-- Repeats while the test ends with success, or with failure. -/
  | loop (whileTrue : Bool) (test body : Command)
  | each (line : Nat) (name : Octets) (words : List (List Part)) (body : Command)
  | choose (line : Nat) (subject : List Part) (arms : List (List (List Part) × Option Command))
  | define (line : Nat) (name : Octets) (body : Command)

end

/-- The parts of a word in order. -/
abbrev Word := List Part

namespace Word

/-- The text of a word that has no other parts and nothing quoted. -/
def plain? : Word → Option Octets
  | [] => some []
  | [.text o false] => some o
  | _ => none

/-- The text of a word, whatever was quoted, and nothing for parts that are to be replaced. -/
def literal (w : Word) : Octets := w.flatMap fun part =>
  match part with
  | .text o _ => o
  | _ => []

/-- Whether a word assigns to a variable: it begins with a name and an equals sign. -/
def isAssignment (w : Word) : Bool :=
  match w with
  | .text o false :: _ =>
    let name := o.takeWhile (· ≠ '=')
    name.length < o.length && Octets.isName name
  | _ => false

end Word
end MatchedLines.Host.Shell
