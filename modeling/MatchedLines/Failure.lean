import MatchedLines.Text.Decimal
/-!
What can go wrong, told apart by cause. Three causes are the tool's own and are reported to the
user (`Failure.isKnown`); every other failure passes through it unchanged.
-/

namespace MatchedLines

/-- Why a command could not be started. A cause without a name of its own keeps its label. -/
inductive Obstacle where
  | executableMissing
  | permissionDenied
  | labelled (label : Text)
  deriving DecidableEq, Repr

namespace Obstacle

/-- Only a missing executable has wording of its own; any other obstacle denies permission. -/
def wording : Obstacle → Text
  | executableMissing => "executable missing".toList
  | permissionDenied | labelled _ => "permission denied".toList

end Obstacle

/-- A failed operation. -/
inductive Failure where
  /-- A line of the input is not of the form `path:number:text`. -/
  | inputSyntax (line : Text)
  /-- The command could not be started. -/
  | environment (obstacle : Obstacle) (command : Text)
  /-- The command ran and ended with a status other than zero. -/
  | childProcess (command : List Text) (exitCode : Int) (stdout stderr : Text)
  /-- A failure of some other class, with the system's code for it if there is one. -/
  | other (className message : Text) (code : Option Text)
  /-- A bare message that came without any class. -/
  | bare (message : Text)
  deriving DecidableEq, Repr

namespace Failure

/-- The class of the failure, as shown before its message. -/
def className : Failure → Text
  | inputSyntax _ => "InputSyntaxError".toList
  | environment _ _ => "ExecutionEnvironmentError".toList
  | childProcess _ _ _ _ => "ChildProcessError".toList
  | other name _ _ => name
  | bare _ => []

def message : Failure → Text
  | inputSyntax line => "Invalid match line: \"".toList ++ line ++ ['"']
  | environment obstacle command => obstacle.wording ++ ": ".toList ++ command
  | childProcess command exitCode _ _ =>
    "Command failed with exit code ".toList ++ Decimal.ofInt exitCode ++ ": ".toList
      ++ Text.joinWith ' ' command
  | other _ message _ => message
  | bare message => message

/-- Class and message, with a colon only between two texts that are there. -/
def description (f : Failure) : Text :=
  if f.message.isEmpty then f.className
  else if f.className.isEmpty then f.message
  else f.className ++ ": ".toList ++ f.message

/-- The failures that the tool reports itself. -/
def isKnown : Failure → Bool
  | inputSyntax _ | environment _ _ | childProcess _ _ _ _ => true
  | other _ _ _ | bare _ => false

end Failure
end MatchedLines
