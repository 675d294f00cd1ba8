import MatchedLines.Command.Quoted
import MatchedLines.Request
import MatchedLines.Session
import MatchedLines.Style
/-!
Ways to treat a group of lines: to format them in place by running the command, or to print the
command that would. A formatter says what it prints for a group and which call it makes.
-/

namespace MatchedLines

/-- A treatment of groups, with calls of kind `ι`. -/
structure Formatter (ι : Type) where
  /-- What is printed before the call. -/
  notice : Group → List (Event ι)
  /-- The call, if one is made. -/
  call? : Group → Option ι

namespace Formatter

variable {ι σ : Type}

/-- The number of lines with its noun. -/
def count (lines : List Int) : Text :=
  Decimal.ofNat lines.length ++ (if lines.length = 1 then " line" else " lines").toList

/-- Runs the command on the file; a verbose formatter announces it. -/
def inPlace (coloured verbose : Bool) (binary : Text) : Formatter Invocation where
  notice g :=
    if verbose then
      [.line .stdout (Colour.gray.paint coloured
        ("Formatting ".toList ++ g.path ++ " (".toList ++ count g.lines ++ [')']))]
    else []
  call? g := some { args := Command.arguments binary g.path g.lines }

@[simp] theorem inPlace_call? (coloured verbose : Bool) (binary : Text) (g : Group) :
    (inPlace coloured verbose binary).call? g =
      some { args := Command.arguments binary g.path g.lines } := rfl

/-- Prints the command as it can be pasted into a shell, and runs nothing. -/
def dryRun (binary : Text) : Formatter ι where
  notice g := [.line .stdout (Command.Quoted.command (Command.arguments binary g.path g.lines))]
  call? _ := none

/-- Treats one group. -/
def formatLines (f : Formatter ι) (runner : Runner ι σ) (g : Group) (s : σ) :
    Session ι σ Unit :=
  (Session.print (f.notice g) () s).andThen fun _ s =>
    match f.call? g with
    | none => Session.pure () s
    | some what => Session.call runner what s

end Formatter
end MatchedLines
