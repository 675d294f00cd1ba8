import MatchedLines.Host.Octets
/-!
Numbers with a binary point, as commands read and write them. A number read is rounded to the bits
that are kept of it; a number written is rounded once more, from its exact value, to the digits that
are asked for. Both roundings go to the nearest, and a tie goes to the even neighbour.
-/

namespace MatchedLines.Host

/-- A number: `mantissa` times two to the power `exponent`, or no number at all. -/
inductive Magnitude where
  | finite (mantissa : Nat) (exponent : Int)
  | infinite
  | nan
  deriving DecidableEq, Repr

structure Real where
  negative : Bool
  magnitude : Magnitude
  deriving DecidableEq, Repr

/-- How much of a number is kept. -/
structure Precision where
  bits : Nat
  /-- The lowest exponent of a mantissa's last bit. -/
  lowest : Int
  /-- Numbers from two to this power on are infinite. -/
  limit : Nat

namespace Precision

def double : Precision := ⟨53, -1074, 1024⟩

def extended : Precision := ⟨64, -16445, 16384⟩

end Precision

namespace Real

/-- A quotient rounded to the nearest whole number; a tie goes to the even one. -/
def roundQuotient (num den : Nat) : Nat :=
  let q := num / den
  let r := num % den
  if 2 * r > den || (2 * r = den && q % 2 = 1) then q + 1 else q

/-- A quotient times two to a power, as a pair of numbers. -/
def shifted (num den : Nat) (exponent : Int) : Nat × Nat :=
  match exponent with
  | .ofNat n => (num <<< n, den)
  | .negSucc n => (num, den <<< (n + 1))

/-- The nearest number that can be kept. -/
def ofQuotient (p : Precision) (num den : Nat) : Magnitude :=
  if num = 0 then .finite 0 0
  else
    let guess : Int := (num.log2 : Int) - den.log2 - p.bits
    let fits (e : Int) : Bool :=
      let (a, b) := shifted num den (-e)
      a < b <<< p.bits
    let e := max p.lowest (if fits guess then guess else guess + 1)
    let (a, b) := shifted num den (-e)
    let m := roundQuotient a b
    let (top, bottom) := shifted m 1 e
    if top ≥ bottom <<< p.limit then .infinite else .finite m e

/-- A decimal number: digits times ten to a power. -/
def ofDecimal (p : Precision) (digits : Nat) (exponent : Int) : Magnitude :=
  if digits = 0 then .finite 0 0
  else
    let size := (Nat.toDigits 10 digits).length
    if exponent + size > 6000 then .infinite
    else if exponent + size < -6000 then .finite 0 0
    else match exponent with
      | .ofNat n => ofQuotient p (digits * Nat.pow 10 n) 1
      | .negSucc n => ofQuotient p digits (Nat.pow 10 (n + 1))

/-! ### Reading -/

def digitValue (c : Char) : Nat :=
  if c.isDigit then c.toNat - '0'.toNat
  else if 'a' ≤ c && c ≤ 'f' then c.toNat - 'a'.toNat + 10
  else if 'A' ≤ c && c ≤ 'F' then c.toNat - 'A'.toNat + 10
  else 99

def isDigitOf (base : Nat) (c : Char) : Bool := digitValue c < base

/-- The number that digits of a base spell. -/
def digitsValue (base : Nat) (o : Octets) : Nat := o.foldl (fun n c => n * base + digitValue c) 0

/-- An exponent after one of these letters, if there is one, and what follows it. -/
def takeExponent (letters : List Char) (o : Octets) : Int × Octets :=
  match o with
  | c :: rest =>
    if letters.contains c then
      let (negative, digits) : Bool × Octets :=
        match rest with
        | '-' :: ds => (true, ds)
        | '+' :: ds => (false, ds)
        | ds => (false, ds)
      let ds := digits.takeWhile Char.isDigit
      if ds.isEmpty then (0, o)
      else
        let n : Int := min (digitsValue 10 ds) 100000
        (if negative then -n else n, digits.drop ds.length)
    else (0, o)
  | [] => (0, [])

/-- Digits with a point among them: the number they spell, how many stand after the point, and what
follows them. Nothing if there is no digit. -/
def takeFraction (base : Nat) (o : Octets) : Option (Nat × Nat × Octets) :=
  let whole := o.takeWhile (isDigitOf base)
  let (part, rest) : Octets × Octets :=
    match o.drop whole.length with
    | '.' :: rest =>
      let part := rest.takeWhile (isDigitOf base)
      if whole.isEmpty && part.isEmpty then ([], '.' :: rest) else (part, rest.drop part.length)
    | rest => ([], rest)
  if whole.isEmpty && part.isEmpty then none
  else some (digitsValue base (whole ++ part), part.length, rest)

/-- Whether a text begins with a word, in upper or lower case. -/
def beginsWith (word : String) (o : Octets) : Bool :=
  (o.take word.length).map Char.toLower = word.toList

/-- A number without a sign at the front of a text, and what follows it. -/
def takeMagnitude (p : Precision) (o : Octets) : Option (Magnitude × Octets) :=
  let hex : Option (Magnitude × Octets) :=
    if beginsWith "0x" o then
      (takeFraction 16 (o.drop 2)).map fun (digits, places, rest) =>
        let (e, rest) := takeExponent ['p', 'P'] rest
        let (num, den) := shifted digits 1 (e - 4 * places)
        (ofQuotient p num den, rest)
    else none
  if beginsWith "infinity" o then some (.infinite, o.drop 8)
  else if beginsWith "inf" o then some (.infinite, o.drop 3)
  else if beginsWith "nan" o then some (.nan, o.drop 3)
  else hex <|> (takeFraction 10 o).map fun (digits, places, rest) =>
    let (e, rest) := takeExponent ['e', 'E'] rest
    (ofDecimal p digits (e - places), rest)

def isSpace (c : Char) : Bool := c = ' ' || ('\t' ≤ c && c ≤ '\r')

/-- A number at the front of a text, and what follows it. -/
def take (p : Precision) (o : Octets) : Option (Real × Octets) :=
  let (negative, body) : Bool × Octets :=
    match o.dropWhile isSpace with
    | '-' :: rest => (true, rest)
    | '+' :: rest => (false, rest)
    | rest => (false, rest)
  (takeMagnitude p body).map fun (m, rest) => (⟨negative, m⟩, rest)

/-- A whole number. -/
def ofInt (n : Int) : Real := ⟨n < 0, .finite n.natAbs 0⟩

/-! ### Calculating -/

/-- The nearest number to a whole number times two to a power. -/
def ofScaled (p : Precision) (n : Int) (e : Int) : Real :=
  let (num, den) := shifted n.natAbs 1 e
  ⟨n < 0, ofQuotient p num den⟩

/-- The whole number and the power of two of a finite number. -/
def parts? (x : Real) : Option (Int × Int) :=
  match x.magnitude with
  | .finite m e => some (if x.negative then -(m : Int) else m, e)
  | _ => none

/-- The sum of two numbers, each of them a whole number times two to a power. -/
def plus (a b : Int × Int) : Int × Int :=
  let e := min a.2 b.2
  (a.1 * (Nat.pow 2 (a.2 - e).toNat : Nat) + b.1 * (Nat.pow 2 (b.2 - e).toNat : Nat), e)

def add (p : Precision) (x y : Real) : Real :=
  match x.parts?, y.parts? with
  | some a, some b =>
    let (n, e) := plus a b
    ofScaled p n e
  | some _, none => y
  | none, _ => x

def mul (p : Precision) (x y : Real) : Real :=
  match x.parts?, y.parts? with
  | some (m, d), some (n, e) => ofScaled p (m * n) (d + e)
  | some (m, _), none => ⟨(m < 0) != y.negative, y.magnitude⟩
  | none, some (n, _) => ⟨x.negative != (n < 0), x.magnitude⟩
  | none, none => ⟨x.negative != y.negative, x.magnitude⟩

/-- Whether a number is less than another; nothing is less than what is no number. -/
def lt (x y : Real) : Bool :=
  match x.parts?, y.parts? with
  | some (m, d), some (n, e) => (plus (m, d) (-n, e)).1 < 0
  | some _, none => y.magnitude = .infinite && !y.negative
  | none, some _ => x.magnitude = .infinite && x.negative
  | none, none =>
    x.magnitude = .infinite && y.magnitude = .infinite && x.negative && !y.negative

def isZero (x : Real) : Bool :=
  match x.magnitude with
  | .finite 0 _ => true
  | _ => false

/-! ### Writing -/

/-- A number with so many digits after its point. -/
def fixed (places m : Nat) (e : Int) (point : Bool) : Octets :=
  let (num, den) := shifted (m * Nat.pow 10 places) 1 e
  let digits := Nat.toDigits 10 (roundQuotient num den)
  let digits := List.replicate (places + 1 - digits.length) '0' ++ digits
  let whole := digits.take (digits.length - places)
  let part := digits.drop (digits.length - places)
  whole ++ (if part.isEmpty && !point then [] else '.' :: part)

/-- The digits of a number, so many after the first, and the power of ten of the first. -/
def significant (places m : Nat) (e : Int) : Octets × Int :=
  if m = 0 then (List.replicate (places + 1) '0', 0)
  else
    let (num, den) := shifted m 1 e
    let power : Int :=
      if num ≥ den then ((Nat.toDigits 10 (num / den)).length : Int) - 1
      else
        let size := (Nat.toDigits 10 (den / num)).length
        if num * Nat.pow 10 (size - 1) ≥ den then -((size : Int) - 1) else -(size : Int)
    let scaled (power : Int) : Nat :=
      match (places : Int) - power with
      | .ofNat n => roundQuotient (num * Nat.pow 10 n) den
      | .negSucc n => roundQuotient num (den * Nat.pow 10 (n + 1))
    let digits := Nat.toDigits 10 (scaled power)
    if digits.length > places + 1 then (digits.take (places + 1), power + 1) else (digits, power)

/-- An exponent as it is written: a sign and at least two digits. -/
def exponentText (power : Int) : Octets :=
  let digits := Nat.toDigits 10 power.natAbs
  (if power < 0 then '-' else '+') :: (if digits.length < 2 then '0' :: digits else digits)

def withoutZeros (o : Octets) : Octets := (o.reverse.dropWhile (· = '0')).reverse

/-- A number with one digit before its point and a power of ten. -/
def scientific (places m : Nat) (e : Int) (point : Bool) : Octets :=
  let (digits, power) := significant places m e
  digits.take 1 ++ (if places = 0 && !point then [] else '.' :: digits.drop 1)
    ++ 'e' :: exponentText power

/-- A number with so many digits in all, in whichever of the two forms suits it; zeros at its end
are left out unless they are to be `kept`. -/
def general (digits m : Nat) (e : Int) (kept : Bool) : Octets :=
  let digits := max digits 1
  let (ds, power) := significant (digits - 1) m e
  if power < -4 || power ≥ digits then
    let part := if kept then ds.drop 1 else withoutZeros (ds.drop 1)
    ds.take 1 ++ (if part.isEmpty && !kept then [] else '.' :: part) ++ 'e' :: exponentText power
  else
    let o := fixed ((digits : Int) - 1 - power).toNat m e kept
    if kept || !o.contains '.' then o
    else
      let o := withoutZeros o
      if o.getLast? = some '.' then o.dropLast else o

/-- A number in hexadecimal; `leading` bits stand before its point. -/
def hexadecimal (p : Precision) (leading : Nat) (places : Option Nat) (m : Nat) (e : Int)
    (point : Bool) : Octets :=
  let width := p.bits - leading
  let size := (width + 3) / 4
  let (m, power) : Nat × Int :=
    if m = 0 then (0, 0)
    else
      let shift := p.bits - 1 - m.log2
      (m <<< (shift + (size * 4 - width)), e - shift + width)
  let hex (n : Nat) : Octets := Nat.toDigits 16 n
  let text (digits : Octets) (point : Bool) : Octets :=
    "0x".toList ++ digits.take 1
      ++ (if digits.length ≤ 1 && !point then [] else '.' :: digits.drop 1)
      ++ 'p' :: (if power < 0 then '-' else '+') :: Nat.toDigits 10 power.natAbs
  let whole := hex m
  let whole := List.replicate (size + 1 - whole.length) '0' ++ whole
  match places with
  | none => text (whole.take 1 ++ withoutZeros (whole.drop 1)) point
  | some places =>
    if places ≥ size then text (whole ++ List.replicate (places - size) '0') point
    else
      let rounded := hex (roundQuotient m (Nat.pow 16 (size - places)))
      text (List.replicate (places + 1 - rounded.length) '0' ++ rounded) point

end Real
end MatchedLines.Host
