import MatchedLines.Text.Utf8
/-!
Byte strings as the commands of a host see them: lists of characters below U+0100, one for each
byte. Commands compare and cut bytes and know nothing of characters beyond ASCII, and a list of
characters lets their rules be written with the characters they name.
-/

namespace MatchedLines.Host

/-- A byte string, with the character of the same number for each byte. -/
abbrev Octets := List Char

namespace Octets

def ofBytes (bytes : Bytes) : Octets := bytes.map fun b => Char.ofNat b.toNat

def toBytes (o : Octets) : Bytes := o.map fun c => UInt8.ofNat c.toNat

/-- The bytes of a text. -/
def ofText (t : Text) : Octets := ofBytes (Utf8.encode t)

/-- The text that the bytes spell. -/
def toText (o : Octets) : Text := Utf8.decode (toBytes o)

/-- The byte with this number, which counts modulo 256. -/
def byte (n : Nat) : Char := Char.ofNat (n % 256)

def isBlank (c : Char) : Bool := c = ' ' || c = '\t'

/-- The characters that begin a name in a script. -/
def isNameStart (c : Char) : Bool := c.isAlpha || c = '_'

/-- The characters that go on with a name in a script. -/
def isNamePart (c : Char) : Bool := c.isAlphanum || c = '_'

def isName : Octets → Bool
  | [] => false
  | c :: rest => isNameStart c && rest.all isNamePart

/-- A number in plain decimal, if the whole string is one. -/
def number? (o : Octets) : Option Nat :=
  if !o.isEmpty && o.all Char.isDigit then some (Nat.ofDigitChars 10 o 0) else none

/-- A number with an optional sign. -/
def int? : Octets → Option Int
  | '-' :: o => (number? o).map fun n => -(n : Int)
  | '+' :: o => (number? o).map Int.ofNat
  | o => (number? o).map Int.ofNat

def ofInt : Int → Octets
  | .ofNat n => Nat.toDigits 10 n
  | .negSucc n => '-' :: Nat.toDigits 10 (n + 1)

/-- How many numbers fit into 64 bits. -/
def words : Nat := 18446744073709551616

/-- The order of byte strings. -/
def le : Octets → Octets → Bool
  | [], _ => true
  | _ :: _, [] => false
  | a :: s, b :: t => a < b || (a = b && le s t)

def sort (os : List Octets) : List Octets := os.mergeSort le

/-- Whether a byte string stands somewhere in another one. -/
def isWithin (part : Octets) : Octets → Bool
  | [] => part.isEmpty
  | c :: o => part.isPrefixOf (c :: o) || isWithin part o

end Octets
end MatchedLines.Host
