import MatchedLines.FileType
import MatchedLines.Formatter
import MatchedLines.Options
import MatchedLines.Source
/-!
A run: read all of the input, group its lines by file, treat each file in order of appearance, and
report a failure of the tool's own with an exit code. Nothing is formatted before every line has
been read and understood, and nothing after the first failure.
-/

namespace MatchedLines

namespace Run

variable {ι σ : Type}

/-- The notice for a file that no formatter takes. -/
def skipNotice (coloured : Bool) (path : Text) : Event ι :=
  .line .stdout (Colour.gray.paint coloured
    ("Skipping ".toList ++ path ++ ": unsupported file type".toList))

/-- Treats the files of a request in order, passing over those that are not supported. -/
def formatRequest (coloured verbose : Bool) (f : Formatter ι) (runner : Runner ι σ) :
    Request → σ → Session ι σ Unit
  | [], s => Session.pure () s
  | g :: rest, s =>
    (if FileType.isSupported g.path then f.formatLines runner g s
      else Session.print (if verbose then [skipNotice coloured g.path] else []) () s).andThen
    fun _ s => formatRequest coloured verbose f runner rest s

/-- What is shown for a failure and the exit code that stands for it, when the tool knows it. A
command that failed has written its own report, which is passed on as it is. -/
def report (coloured : Bool) : Failure → Option (List (Event ι) × Int)
  | .inputSyntax line =>
    some ([.line .stderr (Colour.red.paint coloured
        ("Syntax error in input line: \"".toList ++ line ++ ['"'])),
      .line .stderr (Colour.yellow.paint coloured
        "Hint: input must be line-numbered search output, e.g. `grep -n`".toList)], 1)
  | f@(.environment _ _) =>
    some ([.line .stderr (Colour.red.paint coloured ("Error: ".toList ++ f.message))], 1)
  | .childProcess _ exitCode _ stderr => some ([.write .stderr stderr], exitCode)
  | .other _ _ _ | .bare _ => none

/-- Turns a failure that the tool knows into its report and exit code. -/
def reported (coloured : Bool) (x : Session ι σ Unit) : Session ι σ Int :=
  match x.outcome with
  | .ok () => ⟨x.events, .ok 0, x.state⟩
  | .error f =>
    match report coloured f with
    | some (events, code) => ⟨x.events ++ events, .ok code, x.state⟩
    | none => ⟨x.events, .error f, x.state⟩

/-- The formatter that the options ask for. -/
def formatter (coloured : Bool) (o : Options) : Formatter Invocation :=
  if o.dryRun then Formatter.dryRun o.binary
  else Formatter.inPlace coloured o.verbose o.binary

/-- Treats the lines of an input that has been read. -/
def formatLines (coloured : Bool) (o : Options) (runner : Runner Invocation σ)
    (lines : List Text) (s : σ) : Session Invocation σ Unit :=
  match Request.parse lines with
  | .error f => ⟨[], .error f, s⟩
  | .ok request => formatRequest coloured o.verbose (formatter coloured o) runner request s

/-- The whole run. Its result is the exit code; a stream that fails, and a failure that the tool
does not know, are passed on. -/
def run (coloured : Bool) (o : Options) (runner : Runner Invocation σ) (input : Source) (s : σ) :
    Session Invocation σ Int :=
  match input.readLines with
  | .error f => ⟨[], .error f, s⟩
  | .ok lines => reported coloured (formatLines coloured o runner lines s)

end Run
end MatchedLines
