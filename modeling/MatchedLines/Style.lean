import MatchedLines.Text
/-!
Coloured text for a terminal. A colour is opened before the text and closed after it; because one
code closes every colour, the colour is opened again after a closing code inside the text, and it
is closed around each line break so that it never runs over the edge of the screen. `strip` takes
all codes out again.
-/

namespace MatchedLines

inductive Colour where
  | gray
  | red
  | yellow
  deriving DecidableEq, Repr

namespace Colour

/-- Switches the colour on. -/
def opening : Colour → Text
  | gray => "\x1b[90m".toList
  | red => "\x1b[31m".toList
  | yellow => "\x1b[33m".toList

/-- Switches back to the terminal's own colour. -/
def closing : Text := "\x1b[39m".toList

/-- The inside of a coloured text. A CR on its own is no line break. -/
def fill (c : Colour) : Text → Text
  | [] => []
  | '\x1b' :: '[' :: '3' :: '9' :: 'm' :: t => closing ++ c.opening ++ c.fill t
  | '\r' :: '\n' :: t => closing ++ '\r' :: '\n' :: c.opening ++ c.fill t
  | '\n' :: t => closing ++ '\n' :: c.opening ++ c.fill t
  | x :: t => x :: c.fill t

/-- The text in the colour, if colours are wanted; nothing is put around an empty text. -/
def paint (coloured : Bool) (c : Colour) (t : Text) : Text :=
  if coloured && !t.isEmpty then c.opening ++ c.fill t ++ closing else t

/-- The text without the codes that switch these colours, taken out in one pass from left to right:
what comes together where a code was is not looked at again. -/
def strip : Text → Text
  | [] => []
  | '\x1b' :: '[' :: '9' :: '0' :: 'm' :: t => strip t
  | '\x1b' :: '[' :: '3' :: '1' :: 'm' :: t => strip t
  | '\x1b' :: '[' :: '3' :: '3' :: 'm' :: t => strip t
  | '\x1b' :: '[' :: '3' :: '9' :: 'm' :: t => strip t
  | c :: t => c :: strip t

end Colour
end MatchedLines
