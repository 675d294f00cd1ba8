import MatchedLines.Failure
import MatchedLines.Text.Lines
import MatchedLines.Text.Utf8
/-!
The input stream: chunks of text or of bytes, and then its end or a failure. All of it is read
before any line is used, so a stream that fails yields no lines at all.
-/

namespace MatchedLines

/-- A piece of the stream, as it arrives. -/
inductive Chunk where
  | text (t : Text)
  | bytes (b : Bytes)
  deriving DecidableEq, Repr

/-- A stream with the failure that ends it, if it does not simply end. -/
structure Source where
  chunks : List Chunk
  failure : Option Failure := none
  deriving DecidableEq, Repr

namespace Source

/-- The text of each chunk in turn. Bytes are fed to the decoder, which may hold some back for the
next chunk; text passes it by. What is held back when the stream ends is dropped. -/
def decodeChunks (f : Utf8.Feed) : List Chunk → List Text
  | [] => []
  | .text t :: rest => t :: decodeChunks f rest
  | .bytes b :: rest => (f.take b).2 :: decodeChunks (f.take b).1 rest

/-- The lines of the stream, or the failure that ended it. -/
def readLines (s : Source) : Except Failure (List Text) :=
  match s.failure with
  | some f => .error f
  | none => .ok (Lines.ofPieces (decodeChunks {} s.chunks))

end Source
end MatchedLines
