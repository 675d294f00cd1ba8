import MatchedLines.Host.Shell.State
/-!
Whole-number expressions of a script, with the usual operators and their ranks. Numbers have 64
bits.
-/

namespace MatchedLines.Host.Shell.Arithmetic

inductive Token where
  | number (n : Int)
  | name (name : Octets)
  | sign (sign : String)
  /-- A character that has no place in an expression. -/
  | bad
  deriving DecidableEq

/-- The operators, longer ones first. -/
def signs : List String :=
  ["<<=", ">>=", "<<", ">>", "<=", ">=", "==", "!=", "&&", "||", "+=", "-=", "*=", "/=", "%=",
    "&=", "|=", "^=", "+", "-", "*", "/", "%", "<", ">", "=", "!", "~", "&", "|", "^", "?", ":",
    "(", ")"]

/-- The value of a digit. -/
def digit? (c : Char) : Option Nat :=
  if c.isDigit then some (c.toNat - '0'.toNat)
  else if 'a' ≤ c && c ≤ 'f' then some (c.toNat - 'a'.toNat + 10)
  else if 'A' ≤ c && c ≤ 'F' then some (c.toNat - 'A'.toNat + 10)
  else none

/-- The digits of a base at the front of a text, as a number, and what follows them. -/
def takeDigits (base : Nat) : Nat → Octets → Nat × Octets
  | value, [] => (value, [])
  | value, c :: o =>
    match digit? c with
    | some d => if d < base then takeDigits base (value * base + d) o else (value, c :: o)
    | none => (value, c :: o)

/-- The largest number. -/
def maxNumber : Nat := 9223372036854775807

/-- A number at the front of a text. A zero in front makes it octal, and `0x` hexadecimal. -/
def takeNumber (o : Octets) : Nat × Octets :=
  let (value, rest) :=
    match o with
    | '0' :: x :: d :: rest =>
      if (x = 'x' || x = 'X') && (digit? d).isSome then takeDigits 16 0 (d :: rest)
      else takeDigits 8 0 o
    | '0' :: _ => takeDigits 8 0 o
    | o => takeDigits 10 0 o
  (min value maxNumber, rest)

/-- The tokens of an expression, as far as its characters have a place in one. -/
def tokens : Nat → Octets → List Token
  | 0, _ => []
  | _ + 1, [] => []
  | n + 1, c :: o =>
    if Octets.isBlank c || c = '\n' then tokens n o
    else if c.isDigit then
      let (value, rest) := takeNumber (c :: o)
      .number value :: tokens n rest
    else if Octets.isNameStart c then
      let word := (c :: o).takeWhile Octets.isNamePart
      .name word :: tokens n ((c :: o).drop word.length)
    else match signs.find? fun s => s.toList.isPrefixOf (c :: o) with
      | some s => .sign s :: tokens n ((c :: o).drop s.length)
      | none => [.bad]

/-- The rank of an operator between two operands; a higher one binds more closely. -/
def rank? : String → Option Nat
  | "|" => some 3
  | "^" => some 4
  | "&" => some 5
  | "==" | "!=" => some 6
  | "<" | ">" | "<=" | ">=" => some 7
  | "<<" | ">>" => some 8
  | "+" | "-" => some 9
  | "*" | "/" | "%" => some 10
  | _ => none

/-- The operator that an assignment carries out, if it does. -/
def assignment? : String → Option String
  | "=" => some ""
  | "<<=" => some "<<"
  | ">>=" => some ">>"
  | "+=" => some "+"
  | "-=" => some "-"
  | "*=" => some "*"
  | "/=" => some "/"
  | "%=" => some "%"
  | "&=" => some "&"
  | "|=" => some "|"
  | "^=" => some "^"
  | _ => none

/-- Keeps a number within 64 bits. -/
def wrap (n : Int) : Int := Int.bmod n Octets.words

def ofBool (b : Bool) : Int := if b then 1 else 0

/-- The bits of a number, for operators on bits. -/
def bits (n : Int) : Nat := (n % (Octets.words : Int)).toNat

/-- Complains about an expression, which is shown with what is wrong. -/
def bad {α : Type} (source : Octets) (what : String) : Sh α :=
  Sh.fail ("arithmetic expression: ".toList ++ what.toList ++ ": \"".toList ++ source ++ ['"'])

def apply (source : Octets) (sign : String) (a b : Int) : Sh Int :=
  match sign with
  | "|" => pure (wrap (bits a ||| bits b : Nat))
  | "^" => pure (wrap (bits a ^^^ bits b : Nat))
  | "&" => pure (wrap (bits a &&& bits b : Nat))
  | "==" => pure (ofBool (a = b))
  | "!=" => pure (ofBool (a ≠ b))
  | "<" => pure (ofBool (a < b))
  | ">" => pure (ofBool (a > b))
  | "<=" => pure (ofBool (a ≤ b))
  | ">=" => pure (ofBool (a ≥ b))
  | "<<" => pure (wrap (a * (1 <<< (bits b % 64) : Nat)))
  | ">>" => pure (Int.fdiv a (1 <<< (bits b % 64) : Nat))
  | "+" => pure (wrap (a + b))
  | "-" => pure (wrap (a - b))
  | "*" => pure (wrap (a * b))
  | "/" | "%" =>
    if b = 0 then bad source "division by zero"
    else if a = -(maxNumber : Int) - 1 && b = -1 then throw (.stop (.ended (.killed 8)))
    else if sign = "/" then pure (Int.tdiv a b)
    else pure (Int.tmod a b)
  | _ => pure b

/-- The number that a variable holds; one that is not set or empty counts as zero. -/
def numberIn (name : Octets) : Sh Int := do
  let o := (← Sh.value? name).getD []
  let isSpace (c : Char) : Bool := c = ' ' || ('\t' ≤ c && c ≤ '\r')
  let body := o.dropWhile isSpace
  let (isNegative, digits) : Bool × Octets :=
    match body with
    | '-' :: rest => (true, rest)
    | '+' :: rest => (false, rest)
    | rest => (false, rest)
  let (value, rest) :=
    match digits with
    | c :: _ => if c.isDigit then takeDigitsOf digits else (0, o)
    | [] => (0, o)
  if value > maxNumber + (if isNegative then 1 else 0) || !(rest.dropWhile isSpace).isEmpty then
    Sh.illegalNumber o
  else pure (if isNegative then -(value : Int) else value)
where
  takeDigitsOf (o : Octets) : Nat × Octets :=
    match o with
    | '0' :: x :: d :: rest =>
      if (x = 'x' || x = 'X') && (digit? d).isSome then takeDigits 16 0 (d :: rest)
      else takeDigits 8 0 o
    | '0' :: _ => takeDigits 8 0 o
    | o => takeDigits 10 0 o

mutual

/-- An assignment or anything else. What is not chosen is passed over with `live` off, so that it
changes nothing. -/
def expression (source : Octets) : Nat → Bool → List Token → Sh (Int × List Token)
  | 0, _, _ => bad source "expecting primary"
  | n + 1, live, ts => do
    match ts with
    | .name name :: .sign s :: rest =>
      match assignment? s with
      | some operator =>
        let (b, rest) ← expression source n live rest
        if live then
          let value ←
            if operator.isEmpty then pure b else apply source operator (← numberIn name) b
          Sh.assign name (Octets.ofInt value)
          pure (value, rest)
        else pure (b, rest)
      | none => choice source n live ts
    | ts => choice source n live ts

/-- A condition with the two values it decides between. -/
def choice (source : Octets) : Nat → Bool → List Token → Sh (Int × List Token)
  | 0, _, _ => bad source "expecting primary"
  | n + 1, live, ts => do
    match ← anyOf source n live ts with
    | (condition, .sign "?" :: rest) =>
      match ← expression source n (live && condition ≠ 0) rest with
      | (a, .sign ":" :: rest) =>
        let (b, rest) ← choice source n (live && condition = 0) rest
        pure (if condition ≠ 0 then a else b, rest)
      | _ => bad source "expecting ':'"
    | result => pure result

/-- Operands of which one has to hold. -/
def anyOf (source : Octets) : Nat → Bool → List Token → Sh (Int × List Token)
  | 0, _, _ => bad source "expecting primary"
  | n + 1, live, ts => do
    match ← allOf source n live ts with
    | (a, .sign "||" :: rest) =>
      let (b, rest) ← anyOf source n (live && a = 0) rest
      pure (ofBool (a ≠ 0 || b ≠ 0), rest)
    | result => pure result

/-- Operands that all have to hold. -/
def allOf (source : Octets) : Nat → Bool → List Token → Sh (Int × List Token)
  | 0, _, _ => bad source "expecting primary"
  | n + 1, live, ts => do
    match ← operation source n live 1 ts with
    | (a, .sign "&&" :: rest) =>
      let (b, rest) ← allOf source n (live && a ≠ 0) rest
      pure (ofBool (a ≠ 0 && b ≠ 0), rest)
    | result => pure result

/-- Operands joined by operators of at least the given rank. -/
def operation (source : Octets) : Nat → Bool → Nat → List Token → Sh (Int × List Token)
  | 0, _, _, _ => bad source "expecting primary"
  | n + 1, live, least, ts => do
    let (a, rest) ← operand source n live ts
    further source n live least a rest

/-- The operators that follow an operand. -/
def further (source : Octets) : Nat → Bool → Nat → Int → List Token → Sh (Int × List Token)
  | 0, _, _, _, _ => bad source "expecting primary"
  | n + 1, live, least, a, ts => do
    match ts with
    | .sign s :: rest =>
      match rank? s with
      | some r =>
        if r < least then pure (a, ts)
        else
          let (b, rest) ← operation source n live (r + 1) rest
          let value ← if live then apply source s a b else pure b
          further source n live least value rest
      | none => pure (a, ts)
    | ts => pure (a, ts)

/-- A number, a variable, brackets or a sign before one of these. -/
def operand (source : Octets) : Nat → Bool → List Token → Sh (Int × List Token)
  | 0, _, _ => bad source "expecting primary"
  | n + 1, live, ts => do
    match ts with
    | .number v :: rest => pure (v, rest)
    | .name name :: rest =>
      let v ← if live then numberIn name else pure 0
      pure (v, rest)
    | .sign "(" :: rest =>
      match ← expression source n live rest with
      | (v, .sign ")" :: rest) => pure (v, rest)
      | _ => bad source "expecting ')'"
    | .sign "-" :: rest =>
      let (v, rest) ← operand source n live rest
      pure (wrap (-v), rest)
    | .sign "+" :: rest => operand source n live rest
    | .sign "!" :: rest =>
      let (v, rest) ← operand source n live rest
      pure (ofBool (v = 0), rest)
    | .sign "~" :: rest =>
      let (v, rest) ← operand source n live rest
      pure (-v - 1, rest)
    | _ => bad source "expecting primary"

end

/-- The value of an expression. -/
def evaluate (source : Octets) : Sh Int := do
  let ts := tokens (source.length + 1) source
  match ← expression source (8 * ts.length + 10) true ts with
  | (v, []) => pure v
  | _ => bad source "expecting EOF"

end MatchedLines.Host.Shell.Arithmetic
