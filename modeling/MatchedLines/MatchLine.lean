import MatchedLines.Failure
/-!
One line of search output, `path:number:text`. The matched text may hold colons of its own, so
only the first two colons cut the line; it is dropped, because formatting a line needs its number
and not what was found on it.
-/

namespace MatchedLines

/-- A match: the file that holds it and its line, counted from one. -/
structure MatchLine where
  path : Text
  number : Nat
  deriving DecidableEq, Repr

namespace MatchLine

/-- The largest line number, one below the fifty-third power of two: up to here every whole number
has a double of its own. -/
def maxNumber : Nat := 9007199254740991

/-- A numeral field as a line number, if it is one between 1 and `maxNumber`. -/
def number? (field : Text) : Option Nat :=
  if Decimal.isNumeral field ∧ 1 ≤ Decimal.value field ∧ Decimal.value field ≤ maxNumber then
    some (Decimal.value field)
  else none

/-- The match that a line reports. Line breaks at the end of the line are not part of it. -/
def parse? (line : Text) : Option MatchLine :=
  match (Text.stripBreaks line).cutAt? ':' with
  | none => none
  | some (path, rest) =>
    match rest.cutAt? ':' with
    | none => none
    | some (field, _) =>
      if path.isEmpty then none else (number? field).map (⟨path, ·⟩)

/-- The match of a line; a line that reports none is named as it was read. -/
def parse (line : Text) : Except Failure MatchLine :=
  match parse? line with
  | some m => .ok m
  | none => .error (.inputSyntax line)

end MatchLine
end MatchedLines
