import MatchedLines.Run
import MatchedLines.Spawn
/-!
The whole program: options, a prompt when the input is typed, a run on the system's commands, and
an exit code. Whatever happens, the program exits once; a failure that nobody has reported by then
is fatal and is shown here.
-/

namespace MatchedLines.Program

/-- How the program ended and what it did before. -/
structure Exit (σ : Type) where
  events : List (Event Invocation)
  code : Int
  state : σ

/-- Shown when the input comes from a terminal, since the program then waits for the user. -/
def prompt (coloured : Bool) : Event Invocation :=
  .line .stderr (Colour.gray.paint coloured
    ("Reading matches from stdin " ++
      "(e.g. `grep -n PATTERN *.cpp | format-matches`)...").toList)

/-- Shown for a failure that no report exists for. -/
def fatal (coloured : Bool) (f : Failure) : Event Invocation :=
  .line .stderr (Colour.red.paint coloured ("Fatal error: ".toList ++ f.message))

/-- What the user sees of options that were not accepted. -/
def stopEvent (stop : Options.Stop) : Event Invocation :=
  .write (if stop.exitCode = 0 then .stdout else .stderr) stop.message

/-- What is shown before any input is read. -/
def opening (coloured terminal : Bool) : List (Event Invocation) :=
  if terminal then [prompt coloured] else []

/-- The work on the input, with options that were accepted. -/
def work {σ : Type} (coloured : Bool) (o : Options) (input : Source) (system : Spawn.System σ)
    (s : σ) : Exit σ :=
  let x := Run.run coloured o (Spawn.runner system) input s
  match x.outcome with
  | .ok code => ⟨x.events, code, x.state⟩
  | .error f => ⟨x.events ++ [fatal coloured f], 1, x.state⟩

/-- The program on its arguments and its input. -/
def run {σ : Type} (coloured terminal : Bool) (args : List Text) (input : Source)
    (system : Spawn.System σ) (s : σ) : Exit σ :=
  match Options.parse args with
  | .error stop => ⟨[stopEvent stop], stop.exitCode, s⟩
  | .ok o =>
    let x := work coloured o input system s
    { x with events := opening coloured terminal ++ x.events }

end MatchedLines.Program
