import MatchedLines.Text
/-!
Which files the formatter can take, decided by the extension alone.
-/

namespace MatchedLines.FileType

/-- The extensions of the languages that can be formatted, in lower case. -/
def supportedExtensions : List Text :=
  ["cpp", "cc", "c++", "cxx", "hpp", "c", "h", "inc", "cl", "m", "mm", "js", "ts", "proto"].map
    String.toList

/-- Both slashes separate directories. -/
def isSeparator (c : Char) : Bool := c = '/' || c = '\\'

/-- The path after its last separator. -/
def fileName (path : Text) : Text := (path.reverse.takeWhile (!isSeparator ·)).reverse

/-- What follows the last dot of the file name; nothing when the name has no dot. -/
def extension (path : Text) : Text :=
  let name := fileName path
  if '.' ∈ name then (name.reverse.takeWhile (· ≠ '.')).reverse else []

/-- Lower case, as far as it can give a letter of ASCII. Outside ASCII that happens twice: the
kelvin sign gives `k`, and the dotted capital I gives `i` with a combining dot. -/
def lowerChar (c : Char) : Text :=
  if c = '\u212a' then ['k']
  else if c = '\u0130' then ['i', '\u0307']
  else [c.toLower]

def lowercase (t : Text) : Text := t.flatMap lowerChar

/-- Whether the formatter can take the file; the case of the extension does not matter. -/
def isSupported (path : Text) : Bool := supportedExtensions.contains (lowercase (extension path))

end MatchedLines.FileType
