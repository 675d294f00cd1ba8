import MatchedLines.Text
/-!
Text in 16-bit code units: one for a character below U+10000, a surrogate pair for any other.
Lengths, distances and orders of names are counted in these.
-/

namespace MatchedLines.Units

def ofChar (c : Char) : List Nat :=
  if c.toNat < 0x10000 then [c.toNat]
  else [0xD800 + (c.toNat - 0x10000) / 1024, 0xDC00 + (c.toNat - 0x10000) % 1024]

/-- The code units of a text. -/
def ofText (t : Text) : List Nat := t.flatMap ofChar

/-- The dictionary order of code units. -/
def le : List Nat → List Nat → Bool
  | [], _ => true
  | _ :: _, [] => false
  | a :: s, b :: t => a < b || (a = b && le s t)

/-- Texts in the order of their code units. -/
def sort (ts : List Text) : List Text := ts.mergeSort fun a b => le (ofText a) (ofText b)

end MatchedLines.Units
