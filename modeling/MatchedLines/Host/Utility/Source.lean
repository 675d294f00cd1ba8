import MatchedLines.Host.Utility.Basic
/-!
Line by line through a channel. What is read beyond the line that is asked for is kept, so that a
program which stops early has not asked for more than it needs.
-/

namespace MatchedLines.Host

/-- A channel that is read line by line. -/
structure Source where
  channel : Nat
  /-- What was read and not given out yet. -/
  ahead : Octets := []
  ended : Bool := false
  /-- How many bytes are read at once. -/
  pieceSize : Nat := 32768

/-- A line without its end, and whether it had one. -/
structure Line where
  text : Octets
  ended : Bool

namespace Source

/-- Reads until a line has ended; the number bounds how often. -/
def fill (lineEnd : Char) : Nat → Source → Tool (Except Errno Source)
  | 0, s => pure (.ok { s with ended := true })
  | n + 1, s => do
    if s.ended || s.ahead.contains lineEnd then pure (.ok s)
    else match ← Tool.act (Act.read s.channel s.pieceSize) with
      | .error e => pure (.error e)
      | .ok [] => pure (.ok { s with ended := true })
      | .ok piece => fill lineEnd n { s with ahead := s.ahead ++ piece }

/-- How often a channel gives something at most. -/
def maxPieces : Nat := Machine.lastLimit

/-- The next line. -/
def next (lineEnd : Char) (s : Source) : Tool (Except Errno (Option Line × Source)) := do
  match ← fill lineEnd maxPieces s with
  | .error e => pure (.error e)
  | .ok s =>
    let text := s.ahead.takeWhile (· ≠ lineEnd)
    match s.ahead.drop text.length with
    | _ :: rest => pure (.ok (some ⟨text, true⟩, { s with ahead := rest }))
    | [] =>
      pure (.ok (if text.isEmpty then none else some ⟨text, false⟩, { s with ahead := [] }))

/-- Whether there is no other line. -/
def isLast (s : Source) : Tool (Except Errno (Bool × Source)) := do
  if !s.ahead.isEmpty then pure (.ok (false, s))
  else if s.ended then pure (.ok (true, s))
  else match ← Tool.act (Act.read s.channel s.pieceSize) with
    | .error e => pure (.error e)
    | .ok piece => pure (.ok (piece.isEmpty, { s with ahead := piece, ended := piece.isEmpty }))

/-- Gives back what was read too much, if the channel can be put back to an earlier place. -/
def giveBack (s : Source) : Tool Unit := do
  match (← Tool.act get).channels[s.channel]? with
  | some (.file n rights append offset _) =>
    Tool.act (Act.setChannel s.channel
      (.file n rights append (offset - s.ahead.length) none))
  | _ => pure ()

end Source
end MatchedLines.Host
