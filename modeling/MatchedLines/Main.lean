import MatchedLines.Host
import MatchedLines.Program
/-!
The command line: arguments, standard input and the two output streams, joined to the program. The
formatter runs on the standard host, whose files live no longer than the program.
-/

open MatchedLines

namespace MatchedLines.CommandLine

/-- Reads a stream to its end, given the chunks that were read before, last one first. -/
partial def readChunks (input : IO.FS.Stream) (before : List Chunk) : IO (List Chunk) := do
  let piece ← input.read 65536
  if piece.isEmpty then pure before.reverse
  else readChunks input (.bytes piece.toList :: before)

/-- Carries out the writes among the events. -/
def perform (events : List (Event Invocation)) : IO Unit :=
  events.forM fun event =>
    match event with
    | .write .stdout text => do (← IO.getStdout).putStr (String.ofList text)
    | .write .stderr text => do (← IO.getStderr).putStr (String.ofList text)
    | .call _ => pure ()

/-- The exit code as the system takes it. -/
def exitCode (code : Int) : UInt32 := UInt32.ofNat (code % 256).toNat

end MatchedLines.CommandLine

open MatchedLines.CommandLine in
def main (args : List String) : IO UInt32 := do
  match Options.parse (args.map String.toList) with
  | .error stop =>
    perform [Program.stopEvent stop]
    pure (exitCode stop.exitCode)
  | .ok o =>
    let input ← IO.getStdin
    perform (Program.opening false (← input.isTty))
    let chunks ← readChunks input []
    let exit := Program.work false o ⟨chunks, none⟩ Host.spawn Host.standard
    perform exit.events
    pure (exitCode exit.code)
