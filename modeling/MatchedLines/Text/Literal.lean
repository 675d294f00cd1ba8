import MatchedLines.Text.Units
/-!
Texts shown as literals inside a message: between quotes, with control characters and backslashes
written as escapes, and cut short when they are long.
-/

namespace MatchedLines.Literal

def hexDigit (n : Nat) : Char := (Nat.digitChar n).toUpper

/-- One character between the quotes `quote`. -/
def escape (quote c : Char) : Text :=
  if c = '\x08' then "\\b".toList
  else if c = '\t' then "\\t".toList
  else if c = '\n' then "\\n".toList
  else if c = '\x0c' then "\\f".toList
  else if c = '\r' then "\\r".toList
  else if c = '\\' then "\\\\".toList
  else if c = quote ∧ c = '\'' then "\\'".toList
  else if c.toNat < 0x20 ∨ (0x7F ≤ c.toNat ∧ c.toNat < 0xA0) then
    ['\\', 'x', hexDigit (c.toNat / 16), hexDigit (c.toNat % 16)]
  else [c]

/-- The text occurs somewhere in the other. -/
def occursIn (t : Text) : Text → Bool
  | [] => t.isEmpty
  | c :: s => t.isPrefixOf (c :: s) || occursIn t s

/-- The first kind of quotes that the text does not hold itself; single quotes if it holds all. -/
def quoteFor (t : Text) : Char :=
  if !t.contains '\'' then '\''
  else if !t.contains '"' then '"'
  else if !t.contains '\x60' && !occursIn ['$', '\x7b'] t then '\x60'
  else '\''

/-- The pieces of a text, each with the line feed that ends it. -/
def linePieces : Text → List Text
  | [] => []
  | c :: t =>
    if c = '\n' then [c] :: linePieces t
    else match linePieces t with
      | [] => [[c]]
      | first :: more => (c :: first) :: more

/-- The length in code units above which a literal is written one line to a row. -/
def rowLength : Nat := 124

/-- The literal of a whole text. -/
def full (t : Text) : Text :=
  let quoted (piece : Text) : Text :=
    let q := quoteFor piece
    q :: (piece.flatMap (escape q) ++ [q])
  if (Units.ofText t).length > rowLength then
    " +\n  ".toList.intercalate ((linePieces t).map quoted)
  else quoted t

/-- The length in code units above which a literal is cut. -/
def maxLength : Nat := 128

/-- As many characters as fit into `units` code units. -/
def takeUnits : Nat → Text → Text
  | _, [] => []
  | units, c :: t =>
    let n := (Units.ofChar c).length
    if n ≤ units then c :: takeUnits (units - n) t else []

/-- The literal of a text, with dots for what is cut off. -/
def ofText (t : Text) : Text :=
  let literal := full t
  if (Units.ofText literal).length > maxLength then takeUnits maxLength literal ++ "...".toList
  else literal

end MatchedLines.Literal
