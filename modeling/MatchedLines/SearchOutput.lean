import MatchedLines.MatchLine
import MatchedLines.Text.Lines
import MatchedLines.Text.Utf8
/-!
Line-numbered search output as its producer writes it, which is the other side of reading it:
`render` writes what `Source.readLines` and `Request.parse` read back. Paths are byte strings to the
system, and `renderBytes` writes them as such, whether or not they are text.
-/

namespace MatchedLines.SearchOutput

open Lines (LineEnd)

/-- One reported line. Its number is kept as it is spelled, since leading zeros are allowed. -/
structure Entry where
  path : Text
  digits : Text
  matched : Text
  ending : LineEnd
  deriving DecidableEq, Repr

namespace Entry

/-- The entry without its line end. -/
def line (e : Entry) : Text := e.path ++ ':' :: (e.digits ++ ':' :: e.matched)

/-- What the entry says. -/
def found (e : Entry) : MatchLine := ⟨e.path, Decimal.value e.digits⟩

/-- No line break and no colon can be part of the path, because nothing quotes them. -/
structure WellFormed (e : Entry) : Prop where
  path_ne_nil : e.path ≠ []
  path_plain : ∀ c ∈ e.path, c ≠ ':' ∧ Text.isBreak c = false
  digits_numeral : Decimal.isNumeral e.digits = true
  number_pos : 1 ≤ Decimal.value e.digits
  number_le : Decimal.value e.digits ≤ MatchLine.maxNumber
  matched_plain : ∀ c ∈ e.matched, Text.isBreak c = false

end Entry

/-- The whole output. The end of its last line may be left out. -/
def render (lastEnded : Bool) : List Entry → Text
  | [] => []
  | [e] => e.line ++ (if lastEnded then e.ending.text else [])
  | e :: rest => e.line ++ e.ending.text ++ render lastEnded rest

/-! ### Byte by byte -/

/-- One reported line as its bytes are. Only the number is sure to be text. -/
structure RawEntry where
  path : Bytes
  digits : Text
  matched : Bytes
  ending : LineEnd
  deriving DecidableEq, Repr

namespace RawEntry

/-- The entry without its line end, with a colon after the path and one after the number. -/
def line (e : RawEntry) : Bytes := e.path ++ 0x3A :: (Utf8.encode e.digits ++ 0x3A :: e.matched)

/-- The path as it is read. -/
def file (e : RawEntry) : Text := Utf8.decode e.path

/-- What the entry says. -/
def found (e : RawEntry) : MatchLine := ⟨e.file, Decimal.value e.digits⟩

/-- As for `Entry.WellFormed`, but any other byte can be part of the path and the matched text, and
the number can be any. -/
structure WellFormed (e : RawEntry) : Prop where
  path_ne_nil : e.path ≠ []
  path_plain : ∀ b ∈ e.path, b ≠ 0x3A ∧ b ≠ 0x0A ∧ b ≠ 0x0D
  digits_numeral : Decimal.isNumeral e.digits = true
  matched_plain : ∀ b ∈ e.matched, b ≠ 0x0A ∧ b ≠ 0x0D

end RawEntry

/-- The bytes of the whole output. The end of its last line may be left out. -/
def renderBytes (lastEnded : Bool) : List RawEntry → Bytes
  | [] => []
  | [e] => e.line ++ (if lastEnded then Utf8.encode e.ending.text else [])
  | e :: rest => e.line ++ Utf8.encode e.ending.text ++ renderBytes lastEnded rest

end MatchedLines.SearchOutput
