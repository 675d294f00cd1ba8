import MatchedLines.Host.Property
import MatchedLines.Host.Shell.State
/-!
Conditions on texts, numbers and files, as one command of a shell decides them.
-/

namespace MatchedLines.Host.Shell.Test

/-- What an argument may mean in a condition. -/
inductive Kind where
  | unary
  | binary
  | bang
  | conjunction
  | disjunction
  | opening
  | closing
  deriving DecidableEq

def kind? (o : Octets) : Option Kind :=
  let text := String.ofList o
  if ["-r", "-w", "-x", "-e", "-f", "-d", "-c", "-b", "-p", "-u", "-g", "-k", "-s", "-t", "-z",
      "-n", "-h", "-O", "-G", "-L", "-S"].contains text then some .unary
  else if ["=", "!=", "<", ">", "-eq", "-ne", "-ge", "-gt", "-le", "-lt", "-nt", "-ot",
      "-ef"].contains text then some .binary
  else match text with
    | "!" => some .bang
    | "-a" => some .conjunction
    | "-o" => some .disjunction
    | "(" => some .opening
    | ")" => some .closing
    | _ => none

/-- What the argument at the front means where it stands: a sign that has nothing to work on is a
plain text. -/
def meaning (args : List Octets) : Option Kind :=
  match args with
  | [] => none
  | o :: rest =>
    match kind? o, rest with
    | some .unary, [] => none
    | some .unary, [_] => some .unary
    | some .unary, next :: _ => if kind? next = some .binary then none else some .unary
    | some .opening, [] => none
    | k, _ => k

def failure {α : Type} (sign : Octets) (what : String) : Sh α :=
  Sh.fail (if sign.isEmpty then what.toList else sign ++ ": ".toList ++ what.toList)

def number (o : Octets) : Sh Int := do
  match Sh.wholeNumber? o with
  | some n => pure n
  | none => Sh.illegalNumber o

/-- The node of a file, if it is there. -/
def node? (path : Octets) : Sh (Option Nat) := do
  match ← Sh.act ((← get).process.resolve path true) with
  | .ok n => pure (some n)
  | .error _ => pure none

def unary (sign operand : Octets) : Sh Bool := do
  match sign with
  | ['-', 'z'] => pure operand.isEmpty
  | ['-', 'n'] => pure !operand.isEmpty
  | ['-', 't'] =>
    let _ ← number operand
    pure false
  | ['-', letter] =>
    let f ← Sh.act Act.files
    pure ((Property.holdsAt? letter f (← get).process.cwd operand).getD false)
  | _ => pure false

def binary (a sign b : Octets) : Sh Bool := do
  let numbers (p : Int → Int → Bool) : Sh Bool := do
    let x ← number a
    let y ← number b
    pure (p x y)
  let files (p : Files → Nat → Nat → Bool) : Sh Bool := do
    match ← node? a, ← node? b with
    | some m, some n => return p (← Sh.act Act.files) m n
    | _, _ => pure false
  match String.ofList sign with
  | "=" => pure (a = b)
  | "!=" => pure (a ≠ b)
  | "<" => pure (Octets.le a b && a ≠ b)
  | ">" => pure (Octets.le b a && a ≠ b)
  | "-eq" => numbers fun x y => x = y
  | "-ne" => numbers fun x y => x ≠ y
  | "-ge" => numbers fun x y => x ≥ y
  | "-gt" => numbers fun x y => x > y
  | "-le" => numbers fun x y => x ≤ y
  | "-lt" => numbers fun x y => x < y
  | "-nt" => files fun f m n => f.stamp m > f.stamp n
  | "-ot" => files fun f m n => f.stamp m < f.stamp n
  | _ => files fun _ m n => m = n

mutual

/-- Conditions of which one has to hold. Gives what is left from the last operand on. -/
def anyOf : Nat → Option Kind → List Octets → Sh (Bool × List Octets)
  | 0, _, _ => Sh.exhausted
  | n + 1, kind, args => do
    let (a, args) ← allOf n kind args
    if meaning (args.drop 1) = some .disjunction then
      let (b, args) ← anyOf n (meaning (args.drop 2)) (args.drop 2)
      pure (a || b, args)
    else pure (a, args)

/-- Conditions that all have to hold. -/
def allOf : Nat → Option Kind → List Octets → Sh (Bool × List Octets)
  | 0, _, _ => Sh.exhausted
  | n + 1, kind, args => do
    let (a, args) ← negation n kind args
    if meaning (args.drop 1) = some .conjunction then
      let (b, args) ← allOf n (meaning (args.drop 2)) (args.drop 2)
      pure (a && b, args)
    else pure (a, args)

def negation : Nat → Option Kind → List Octets → Sh (Bool × List Octets)
  | 0, _, _ => Sh.exhausted
  | n + 1, kind, args => do
    if kind = some .bang then
      let rest := args.drop 1
      if rest.isEmpty then
        let (a, _) ← negation n none []
        pure (!a, args)
      else
        let (a, args) ← negation n (meaning rest) rest
        pure (!a, args)
    else primary n kind args

/-- A single condition. -/
def primary : Nat → Option Kind → List Octets → Sh (Bool × List Octets)
  | 0, _, _ => Sh.exhausted
  | n + 1, kind, args => do
    match args with
    | [] => pure (false, [])
    | o :: rest =>
      if kind = some .opening then
        if meaning rest = some .closing then pure (false, rest)
        else
          let (a, rest) ← anyOf n (meaning rest) rest
          if meaning (rest.drop 1) = some .closing then pure (a, rest.drop 1)
          else failure [] "closing paren expected"
      else if kind = some .unary then
        match rest with
        | [] => failure o "argument expected"
        | operand :: _ => return (← unary o operand, rest)
      else
        match rest with
        | sign :: more =>
          if meaning rest = some .binary then
            match more with
            | [] => failure sign "argument expected"
            | b :: _ => return (← binary o sign b, more)
          else pure (!o.isEmpty, args)
        | [] => pure (!o.isEmpty, args)

end

/-- Decides a condition that nothing may follow. -/
def whole (negated : Bool) (kind : Option Kind) (args : List Octets) : Sh Bool := do
  match ← anyOf 10000 kind args with
  | (_, o :: _ :: _) => failure o "unexpected operator"
  | (result, _) => pure (result != negated)

/-- Decides a condition; with few arguments their number says more than their look. -/
def decide (negated : Bool) : List Octets → Sh Bool
  | [] => pure negated
  | [a, sign, b] =>
    if kind? sign = some .binary then whole negated none [a, sign, b]
    else if a = ['('] && b = [')'] then whole negated (meaning [sign]) [sign]
    else if a = ['!'] then decide true [sign, b]
    else whole negated (meaning [a, sign, b]) [a, sign, b]
  | [a, b, c, d] =>
    if a = ['('] && d = [')'] then whole negated (meaning [b, c]) [b, c]
    else if a = ['!'] then decide true [b, c, d]
    else whole negated (meaning [a, b, c, d]) [a, b, c, d]
  | args => whole negated (meaning args) args

/-- The status of a condition given as the arguments of a command with this name. -/
def run (name : Octets) (args : List Octets) : Sh Nat := do
  let args ←
    if name = ['['] then
      if args.getLast? = some [']'] then pure args.dropLast
      else Sh.fail "missing ]".toList
    else pure args
  return if ← decide false args then 0 else 1

end MatchedLines.Host.Shell.Test
