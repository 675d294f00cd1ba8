import MatchedLines.Host.Octets
/-!
How commands show names in what they say: as a shell would write them, or between single quotes with
escapes.
-/

namespace MatchedLines.Host.Quoting

def isPlain (c : Char) : Bool := ' ' ≤ c && c ≤ '~'

/-- Three octal digits after a backslash. -/
def octal (c : Char) : Octets :=
  let n := c.toNat
  ['\\', Char.ofNat (48 + n / 64 % 8), Char.ofNat (48 + n / 8 % 8), Char.ofNat (48 + n % 8)]

/-- The escape of a character that is not shown as it is. -/
def escape (c : Char) : Octets :=
  match c with
  | '\x07' => ['\\', 'a']
  | '\x08' => ['\\', 'b']
  | '\x0c' => ['\\', 'f']
  | '\n' => ['\\', 'n']
  | '\r' => ['\\', 'r']
  | '\t' => ['\\', 't']
  | '\x0b' => ['\\', 'v']
  | c => octal c

/-- Whether a shell would take a character for more than itself. -/
def isSpecial (first alone : Bool) (c : Char) : Bool :=
  !isPlain c || "!\"$&()*;<=>[^\x60|\\? '".toList.contains c
    || (first && (c = '#' || c = '~')) || (alone && (c = '\x7b' || c = '\x7d'))

/-- Whether a text has to be quoted for a shell. -/
def needsQuotes : Octets → Bool
  | [] => true
  | c :: o => isSpecial true o.isEmpty c || o.any (isSpecial false false)

/-- The characters that mean themselves also between double quotes. -/
def isDoubleSafe (c : Char) : Bool := isPlain c && !"!\"$&()*;<=>[^\x60|\\?".toList.contains c

/-- The inside of single quotes; `escaping` says that escapes are being written. -/
def body : Bool → Octets → Octets
  | _, [] => []
  | escaping, c :: o =>
    if !isPlain c then
      (if escaping then [] else ['\'', '$', '\'']) ++ escape c ++ body true o
    else if c = '\'' then ['\'', '\\', '\'', '\''] ++ body false o
    else (if escaping then ['\'', '\''] else []) ++ c :: body false o

/-- A text between quotes as a shell would write it. A text with a quote is gone through twice, and
how the first time ended is not forgotten. -/
def quoted (o : Octets) : Octets :=
  if o.contains '\'' && o.all isDoubleSafe then '"' :: (o ++ ['"'])
  else
    let escaping := o.contains '\'' && (o.getLast?.any (!isPlain ·))
    '\'' :: (body escaping o ++ ['\''])

/-- A name as a shell would write it, with quotes only where they are needed. -/
def name (o : Octets) : Octets := if needsQuotes o then quoted o else o

/-- A text between single quotes, with escapes for whatever cannot be shown. -/
def shown (o : Octets) : Octets :=
  let inner := o.flatMap fun c =>
    if c = '\'' || c = '\\' then ['\\', c] else if isPlain c then [c] else escape c
  '\'' :: (inner ++ ['\''])

/-- A text between double quotes, with escapes for whatever cannot be shown. -/
def doubled (o : Octets) : Octets :=
  let inner := o.flatMap fun c =>
    if c = '"' || c = '\\' then ['\\', c] else if isPlain c then [c] else escape c
  '"' :: (inner ++ ['"'])

/-- A text without quotes, with escapes for blanks and whatever cannot be shown. -/
def escaped (o : Octets) : Octets :=
  o.flatMap fun c =>
    if c = ' ' || c = '\\' then ['\\', c] else if isPlain c then [c] else escape c

end MatchedLines.Host.Quoting
