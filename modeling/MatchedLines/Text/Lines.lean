import MatchedLines.Text
/-!
Lines of a text. A line ends with CR, LF or CRLF and with nothing else, and the end of the text
ends a last line that is not empty. `ofText` cuts a whole text; a `Reader` takes the text in
pieces and has to remember two things between them: the line that has begun, and whether the
piece ended in a CR whose LF may still come.
-/

namespace MatchedLines.Lines

/-- The three ways to end a line. -/
inductive LineEnd where
  | lf
  | crlf
  | cr
  deriving DecidableEq, Repr

def LineEnd.text : LineEnd → Text
  | lf => ['\n']
  | crlf => ['\r', '\n']
  | cr => ['\r']

/-- The lines that end in the text, and what follows the last of them. -/
def cut : Text → List Text × Text
  | [] => ([], [])
  | '\r' :: '\n' :: t => ([] :: (cut t).1, (cut t).2)
  | c :: t =>
    if Text.isBreak c then ([] :: (cut t).1, (cut t).2)
    else match cut t with
      | ([], last) => ([], c :: last)
      | (first :: more, last) => ((c :: first) :: more, last)

/-- The lines of a text whose last line may lack its end; no empty line follows the last end. -/
def close (lines : List Text) (last : Text) : List Text :=
  if last.isEmpty then lines else lines ++ [last]

/-- The lines of a whole text. -/
def ofText (t : Text) : List Text := close (cut t).1 (cut t).2

/-- Whether a CR is the last character. -/
def endsInReturn (t : Text) : Bool := t.getLast? = some '\r'

/-- A text without the LF that completes a CRLF begun before it. -/
def complete (afterReturn : Bool) : Text → Text
  | '\n' :: t => if afterReturn then t else '\n' :: t
  | t => t

/-- What a reader remembers between two pieces. -/
structure Reader where
  /-- The last piece ended in a CR, so an LF at the start of the next belongs to it. -/
  afterReturn : Bool := false
  /-- The line that has begun. -/
  rest : Text := []
  deriving DecidableEq, Repr

namespace Reader

/-- Takes the next piece: the lines that end in it, and the reader after it. Even an empty piece
forgets the CR before it. -/
def feed (r : Reader) (piece : Text) : List Text × Reader :=
  let t := complete r.afterReturn piece
  match cut t with
  | ([], _) => ([], ⟨false, r.rest ++ t⟩)
  | (first :: more, last) => ((r.rest ++ first) :: more, ⟨endsInReturn t, last⟩)

/-- Takes all pieces in order and then the end of the text. -/
def readAll (r : Reader) : List Text → List Text
  | [] => close [] r.rest
  | piece :: pieces => (r.feed piece).1 ++ (r.feed piece).2.readAll pieces

end Reader

/-- The lines of a text that comes in pieces. -/
def ofPieces (pieces : List Text) : List Text := Reader.readAll {} pieces

end MatchedLines.Lines
