import MatchedLines.Text.Decimal
/-!
The command that formats chosen lines of one file in place.
-/

namespace MatchedLines

/-- A command to run: its name or path and its arguments, with what it reads and where it runs
if that is not an empty input in the current directory. -/
structure Invocation where
  args : List Text
  stdin : Option Text := none
  cwd : Option Text := none
  deriving DecidableEq, Repr

namespace Command

/-- Selects the single line `n`, as a range from it to itself. -/
def lineOption (n : Int) : Text := "--lines=".toList ++ Decimal.ofInt n ++ ':' :: Decimal.ofInt n

/-- One range for every line, in order and with repetitions, between `-i` and the file. -/
def arguments (binary path : Text) (lines : List Int) : List Text :=
  binary :: "-i".toList :: (lines.map lineOption ++ [path])

/-- The file is the last word of its command. -/
theorem getLast?_arguments (binary path : Text) (lines : List Int) :
    (arguments binary path lines).getLast? = some path := by
  rw [arguments, ← List.cons_append, ← List.cons_append, List.getLast?_concat]

end Command
end MatchedLines
