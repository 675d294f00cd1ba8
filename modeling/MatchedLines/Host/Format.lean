import MatchedLines.Host.Real
/-!
Fields of a fixed format: a value is written with the flags, the width and the precision that the
format asks for.
-/

namespace MatchedLines.Host

/-- What a format asks for. -/
structure Format where
  left : Bool := false
  plus : Bool := false
  space : Bool := false
  zeros : Bool := false
  alternate : Bool := false
  width : Nat := 0
  precision : Option Nat := none
  deriving DecidableEq, Repr

namespace Format

/-- Sets a flag; nothing for a character that is none. -/
def flag? (f : Format) (c : Char) : Option Format :=
  match c with
  | '-' => some { f with left := true }
  | '+' => some { f with plus := true }
  | ' ' => some { f with space := true }
  | '0' => some { f with zeros := true }
  | '#' => some { f with alternate := true }
  | _ => none

/-- Sets the flags at the front of a text, and gives what follows them. -/
def flags (f : Format) : Octets → Format × Octets
  | [] => (f, [])
  | c :: rest =>
    match f.flag? c with
    | some f => flags f rest
    | none => (f, c :: rest)

/-- A width that was given as a value; a negative one asks for the left side. -/
def withWidth (f : Format) (n : Int) : Format :=
  if n < 0 then { f with left := true, width := n.natAbs } else { f with width := n.natAbs }

/-- A precision that was given as a value; a negative one counts as none. -/
def withPrecision (f : Format) (n : Int) : Format :=
  if n < 0 then { f with precision := none } else { f with precision := some n.natAbs }

/-- Fills a text up with blanks. -/
def pad (f : Format) (o : Octets) : Octets :=
  let blanks := List.replicate (f.width - o.length) ' '
  if f.left then o ++ blanks else blanks ++ o

/-- Fills a number up, with zeros between its sign and its digits if that is asked for. -/
def padNumber (f : Format) (zeros : Bool) (sign digits : Octets) : Octets :=
  if zeros && !f.left then
    sign ++ List.replicate (f.width - sign.length - digits.length) '0' ++ digits
  else f.pad (sign ++ digits)

def text (f : Format) (o : Octets) : Octets :=
  f.pad (match f.precision with
    | some n => o.take n
    | none => o)

def char (f : Format) (c : Char) : Octets := f.pad [c]

/-- Digits with as many zeros in front as the precision asks for. -/
def digits (f : Format) (o : Octets) : Octets :=
  match f.precision with
  | some n => if o = ['0'] && n = 0 then [] else List.replicate (n - o.length) '0' ++ o
  | none => o

def signOf (f : Format) (negative : Bool) : Octets :=
  if negative then ['-'] else if f.plus then ['+'] else if f.space then [' '] else []

/-- A whole number with its sign. -/
def signed (f : Format) (n : Int) : Octets :=
  f.padNumber (f.zeros && f.precision.isNone) (f.signOf (n < 0))
    (f.digits (Nat.toDigits 10 n.natAbs))

/-- A whole number without a sign, in one of the bases `o`, `u`, `x` and `X`. -/
def unsigned (f : Format) (kind : Char) (n : Nat) : Octets :=
  let zeros := f.zeros && f.precision.isNone
  match kind with
  | 'o' =>
    let ds := f.digits (Nat.toDigits 8 n)
    let ds := if f.alternate && ds.head? ≠ some '0' then '0' :: ds else ds
    f.padNumber zeros [] ds
  | 'x' =>
    f.padNumber zeros (if f.alternate && n ≠ 0 then ['0', 'x'] else [])
      (f.digits (Nat.toDigits 16 n))
  | 'X' =>
    f.padNumber zeros (if f.alternate && n ≠ 0 then ['0', 'X'] else [])
      (f.digits ((Nat.toDigits 16 n).map Char.toUpper))
  | _ => f.padNumber zeros [] (f.digits (Nat.toDigits 10 n))

/-- A number with a point, in one of the forms `f`, `e`, `g` and `a`, or in upper case. In
hexadecimal so many bits stand before the point. -/
def real (f : Format) (p : Precision) (leading : Nat) (kind : Char) (x : Real) : Octets :=
  let places := f.precision.getD 6
  let upper (o : Octets) : Octets := if kind.isUpper then o.map Char.toUpper else o
  let sign := f.signOf x.negative
  match x.magnitude with
  | .infinite => f.pad (sign ++ upper "inf".toList)
  | .nan => f.pad (sign ++ upper "nan".toList)
  | .finite m e =>
    let body :=
      match kind.toLower with
      | 'f' => Real.fixed places m e f.alternate
      | 'e' => Real.scientific places m e f.alternate
      | 'g' => Real.general places m e f.alternate
      | _ => Real.hexadecimal p leading f.precision m e f.alternate
    if kind.toLower = 'a' then
      f.padNumber f.zeros (sign ++ upper (body.take 2)) (upper (body.drop 2))
    else f.padNumber f.zeros sign (upper body)

end Format
end MatchedLines.Host
