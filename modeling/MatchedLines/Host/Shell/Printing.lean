import MatchedLines.Host.Format
import MatchedLines.Host.Shell.State
/-!
The two commands of a shell that print their arguments: one as they are and one by a format.
-/

namespace MatchedLines.Host.Shell.Printing

def isOctal (c : Char) : Bool := '0' ≤ c && c ≤ '7'

/-- The character that stands for what follows a backslash, and what comes after it. -/
def escape (o : Octets) : Char × Octets :=
  match o with
  | 'a' :: rest => ('\x07', rest)
  | 'b' :: rest => ('\x08', rest)
  | 'e' :: rest => ('\x1b', rest)
  | 'f' :: rest => ('\x0c', rest)
  | 'n' :: rest => ('\n', rest)
  | 'r' :: rest => ('\r', rest)
  | 't' :: rest => ('\t', rest)
  | 'v' :: rest => ('\x0b', rest)
  | '\\' :: rest => ('\\', rest)
  | o =>
    let digits := (o.takeWhile isOctal).take 3
    if digits.isEmpty then ('\\', o)
    else (Octets.byte (Real.digitsValue 8 digits), o.drop digits.length)

/-- Replaces the escapes of an argument, last character first. It says whether `\c` asks for
nothing more to be printed. -/
def unescape : Nat → Octets → Octets → Octets × Bool
  | 0, taken, _ => (taken, false)
  | _ + 1, taken, [] => (taken, false)
  | n + 1, taken, '\\' :: o =>
    match o with
    | 'c' :: _ => (taken, true)
    | '0' :: d :: rest =>
      let (c, rest) := escape (if isOctal d then d :: rest else '0' :: d :: rest)
      unescape n (c :: taken) rest
    | o =>
      let (c, rest) := escape o
      unescape n (c :: taken) rest
  | n + 1, taken, c :: o => unescape n (c :: taken) o

/-- An argument with its escapes replaced, and whether nothing more is to be printed. -/
def unescaped (o : Octets) : Octets × Bool :=
  let (taken, stop) := unescape (o.length + 1) [] o
  (taken.reverse, stop)

/-- Prints arguments with blanks between them, up to the first that asks to stop. -/
def echoText (lineEnd : Bool) : List Octets → Octets
  | [] => if lineEnd then ['\n'] else []
  | [o] =>
    let (o, stop) := unescaped o
    if stop || !lineEnd then o else o ++ ['\n']
  | o :: rest =>
    let (o, stop) := unescaped o
    if stop then o else o ++ ' ' :: echoText lineEnd rest

def echo (args : List Octets) : Sh Nat := do
  match args with
  | ['-', 'n'] :: rest => Sh.print (echoText false rest)
  | args => Sh.print (echoText true args)
  pure 0

/-! ### By a format -/

/-- The arguments that are left, and whether one of them was no number. -/
structure Feed where
  args : List Octets
  failed : Bool := false

abbrev Printer := StateT Feed Sh

def nextArgument : Printer (Option Octets) := do
  match (← get).args with
  | [] => pure none
  | o :: rest =>
    modify fun f => { f with args := rest }
    pure (some o)

/-- Complains about an argument that is no number, or not only one. -/
def check (o rest : Octets) (inRange : Bool) : Printer Unit := do
  if !rest.isEmpty then
    let what :=
      if rest = o then ": expected numeric value" else ": not completely converted"
    Sh.warn (o ++ what.toList)
    modify fun f => { f with failed := true }
  else if !inRange then
    Sh.warn (o ++ ": Numerical result out of range".toList)
    modify fun f => { f with failed := true }

/-- A whole number at the front of a text with its sign, and what follows it. -/
def takeInteger (o : Octets) : Option (Bool × Nat × Octets) :=
  let body := o.dropWhile Real.isSpace
  let (negative, body) : Bool × Octets :=
    match body with
    | '-' :: rest => (true, rest)
    | '+' :: rest => (false, rest)
    | rest => (false, rest)
  let (base, digits) : Nat × Octets :=
    match body with
    | '0' :: x :: d :: rest =>
      if (x = 'x' || x = 'X') && Real.isDigitOf 16 d then (16, d :: rest) else (8, body)
    | '0' :: _ => (8, body)
    | body => (10, body)
  let ds := digits.takeWhile (Real.isDigitOf base)
  if ds.isEmpty then none else some (negative, Real.digitsValue base ds, digits.drop ds.length)

/-- The argument of a whole number: a character after a quote, or a number. -/
def integer (isSigned : Bool) : Printer Int := do
  match ← nextArgument with
  | none => pure 0
  | some o =>
    match o with
    | '"' :: rest | '\'' :: rest => pure ((rest.head?.map fun c => (c.toNat : Int)).getD 0)
    | o =>
      match takeInteger o with
      | none =>
        check o o true
        pure 0
      | some (negative, value, rest) =>
        let limit : Nat :=
          if !isSigned then Octets.words - 1
          else if negative then Octets.words / 2 else Octets.words / 2 - 1
        check o rest (value ≤ limit)
        if value > limit then
          pure (if isSigned && negative then -(limit : Int) else limit)
        else if !negative then pure value
        else if isSigned then pure (-(value : Int))
        else pure ((Octets.words - value) % Octets.words : Nat)

def real : Printer Real := do
  match ← nextArgument with
  | none => pure (.ofInt 0)
  | some o =>
    match o with
    | '"' :: rest | '\'' :: rest =>
      pure (.ofInt ((rest.head?.map fun c => (c.toNat : Int)).getD 0))
    | o =>
      match Real.take .double o with
      | none =>
        check o o true
        pure (.ofInt 0)
      | some (x, rest) =>
        let digits := (o.takeWhile fun c => c ≠ 'e' && c ≠ 'E').any fun c => '1' ≤ c && c ≤ '9'
        let inRange := match x.magnitude with
          | .infinite => o.any (fun c => c = 'n' || c = 'N')
          | .finite 0 _ => !digits
          | _ => true
        check o rest inRange
        pure x

/-- A width or a precision: digits, or a star for an argument. -/
def size (o : Octets) : Printer (Option Int × Octets) := do
  match o with
  | '*' :: rest => return (some (← integer true), rest)
  | o =>
    let ds := o.takeWhile fun c => c.isDigit || c = '*'
    pure (if ds.isEmpty then none else some (Real.digitsValue 10 (ds.takeWhile Char.isDigit)),
      o.drop ds.length)

/-- Carries out one directive, which begins with a percent sign. Gives what follows it, or nothing
if printing is over. -/
def directive (whole : Octets) : Printer (Option Octets) := do
  let (f, o) := Format.flags {} (whole.drop 1)
  let (width, o) ← size o
  let f := match width with
    | some n => f.withWidth n
    | none => f
  let (f, o) : Format × Octets ←
    match o with
    | '.' :: o =>
      let (n, o) ← size o
      pure (f.withPrecision (n.getD 0), o)
    | o => pure (f, o)
  match o with
  | [] => Sh.fail "missing format character".toList
  | kind :: rest =>
    let print (o : Octets) : Printer Unit := Sh.print o
    match kind with
    | 'b' =>
      let (o, stop) := unescaped ((← nextArgument).getD [])
      print (f.text o)
      pure (if stop then none else some rest)
    | 'c' =>
      let o := (← nextArgument).getD []
      print (f.char (o.head?.getD '\x00'))
      pure (some rest)
    | 's' =>
      print (f.text ((← nextArgument).getD []))
      pure (some rest)
    | 'd' | 'i' =>
      print (f.signed (← integer true))
      pure (some rest)
    | 'o' | 'u' | 'x' | 'X' =>
      print (f.unsigned kind (← integer false).toNat)
      pure (some rest)
    | 'a' | 'A' | 'e' | 'E' | 'f' | 'F' | 'g' | 'G' =>
      print (f.real .double 1 kind (← real))
      pure (some rest)
    | _ =>
      Sh.fail (whole.take (whole.length - rest.length) ++ ": invalid directive".toList)

/-- Prints by a format once. It says whether printing goes on. -/
def once : Nat → Octets → Printer Bool
  | 0, _ => pure true
  | _ + 1, [] => pure true
  | n + 1, '\\' :: o => do
    let (c, rest) := escape o
    Sh.print [c]
    once n rest
  | n + 1, '%' :: '%' :: o => do
    Sh.print ['%']
    once n o
  | n + 1, '%' :: o => do
    match ← directive ('%' :: o) with
    | some rest => once n rest
    | none => pure false
  | n + 1, o => do
    let plain := o.takeWhile fun c => c ≠ '\\' && c ≠ '%'
    Sh.print plain
    once n (o.drop plain.length)

/-- Prints by a format as long as there are arguments for it. -/
def again (format : Octets) : Nat → Printer Unit
  | 0 => pure ()
  | n + 1 => do
    let before := (← get).args.length
    if ← once (format.length + 1) format then
      let after := (← get).args.length
      if after < before && after ≠ 0 then again format n

def printf (args : List Octets) : Sh Nat := do
  match (← Sh.takeOptions "" args).2 with
  | [] => Sh.fail "usage: printf format [arg ...]".toList
  | format :: args =>
    let (_, feed) ← (again format (args.length + 1)).run { args }
    pure (if feed.failed then 1 else 0)

end MatchedLines.Host.Shell.Printing
