import MatchedLines.Command
/-!
Commands written so that they can be pasted into a shell. A word of harmless characters stands as
it is; any other is put between single quotes, where only the single quote itself needs care.
-/

namespace MatchedLines.Command.Quoted

/-- The characters that are written without quotes. -/
def isPlain (c : Char) : Bool := c.isAlphanum || "_@%+=:,./-".toList.contains c

/-- A single quote closes the quotes, is written with a backslash, and opens them again. -/
def escape (c : Char) : Text := if c = '\'' then "'\\''".toList else [c]

/-- One word, quoted when it is empty or holds a character that is not plain. -/
def word (w : Text) : Text :=
  if !w.isEmpty && w.all isPlain then w else '\'' :: (w.flatMap escape ++ ['\''])

/-- The words of a command with a blank between neighbours. -/
def command (args : List Text) : Text := Text.joinWith ' ' (args.map word)

end MatchedLines.Command.Quoted
