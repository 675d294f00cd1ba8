import MatchedLines.Host.Property
import MatchedLines.Host.Utility.Basic
/-!
Conditions on texts, numbers and files as the arguments of a program.
-/

namespace MatchedLines.Host.Condition

/-- What is left of the arguments, and the last of all. -/
structure Rest where
  args : List Octets
  last : Octets

abbrev Reading := StateT Rest Tool

def beyond {α : Type} : Reading α := do
  Tool.fail 2 ("missing argument after ".toList ++ Quoting.shown (← get).last)

def peek : Reading Octets := do
  match (← get).args with
  | o :: _ => pure o
  | [] => beyond

def drop (n : Nat) : Reading Unit := modify fun s => { s with args := s.args.drop n }

/-- Passes over an argument after which there must be another. -/
def advance : Reading Unit := do
  drop 1
  if (← get).args.isEmpty then beyond

/-- The next argument by its place. -/
def look (i : Nat) : Reading (Option Octets) := return (← get).args[i]?

def isBinary (o : Octets) : Bool :=
  ["=", "==", "!=", "-nt", "-ot", "-ef", "-eq", "-ne", "-lt", "-le", "-gt", "-ge"].contains
    (String.ofList o)

def number (o : Octets) : Reading Int := do
  let body := (o.dropWhile Octets.isBlank).reverse.dropWhile Octets.isBlank |>.reverse
  match Octets.int? body with
  | some n => pure n
  | none => Tool.fail 2 ("invalid integer ".toList ++ Quoting.shown o)

def node? (path : Octets) : Reading (Option Nat) := do
  match ← Tool.resolve path true with
  | .ok n => pure (some n)
  | .error _ => pure none

/-- A side of a comparison: a number or, after `-l`, the length of a text. -/
def side (isLength : Bool) (o : Octets) : Reading Int :=
  if isLength then pure o.length else number o

def compare (sign : String) (x y : Int) : Bool :=
  match sign with
  | "-eq" => x = y
  | "-ne" => x ≠ y
  | "-lt" => x < y
  | "-le" => x ≤ y
  | "-gt" => x > y
  | _ => x ≥ y

/-- A condition on two things; `isLength` says that `-l` stands before the first. -/
def binary (isLength : Bool) : Reading Bool := do
  if isLength then drop 1
  let a := (← look 0).getD []
  let sign := String.ofList ((← look 1).getD [])
  let rightIsLength := (← look 2) = some ['-', 'l'] && (← look 3).isSome
  let b := (← look (if rightIsLength then 3 else 2)).getD []
  drop (if rightIsLength then 4 else 3)
  let files (p : Files → Option Nat → Option Nat → Bool) : Reading Bool := do
    if isLength || rightIsLength then
      Tool.fail 2 (sign.toList ++ " does not accept -l".toList)
    return p (← Tool.files) (← node? a) (← node? b)
  match sign with
  | "=" | "==" => pure (a = b)
  | "!=" => pure (a ≠ b)
  | "-nt" => files fun f m n =>
    match m, n with
    | some m, some n => f.stamp m > f.stamp n
    | m, _ => m.isSome
  | "-ot" => files fun f m n =>
    match m, n with
    | some m, some n => f.stamp m < f.stamp n
    | _, n => n.isSome
  | "-ef" => files fun _ m n => m.isSome && m = n
  | sign => return compare sign (← side isLength a) (← side rightIsLength b)

/-- Whether an argument looks like a condition on one thing. -/
def isSwitch : Octets → Bool
  | ['-', _] => true
  | _ => false

def unary : Reading Bool := do
  let sign ← peek
  let letter := (sign.drop 1).headD ' '
  let known := "aerwxNOGfdsScbpLhugktnz".toList.contains letter
  if !known then Tool.fail 2 (Quoting.shown sign ++ ": unary operator expected".toList)
  advance
  let o ← peek
  drop 1
  match letter with
  | 'n' => pure !o.isEmpty
  | 'z' => pure o.isEmpty
  | 't' =>
    let _ ← number o
    pure false
  | 'N' => pure (← node? o).isSome
  | letter =>
    let letter := if letter = 'a' then 'e' else letter
    return (Property.holdsAt? letter (← Tool.files) (← Tool.cwd) o).getD false

def single : Reading Bool := do
  let o ← peek
  drop 1
  pure !o.isEmpty

def two : Reading Bool := do
  let o ← peek
  if o = ['!'] then
    drop 1
    return !(← single)
  else if isSwitch o then unary
  else beyond

mutual

def three : Nat → Reading Bool
  | 0 => beyond
  | n + 1 => do
    let a := (← look 0).getD []
    let b := (← look 1).getD []
    let c := (← look 2).getD []
    if isBinary b then binary false
    else if a = ['!'] then
      advance
      return !(← two)
    else if a = ['('] && c = [')'] then
      drop 1
      let result ← single
      drop 1
      pure result
    else if b = "-a".toList || b = "-o".toList then anyOf n
    else Tool.fail 2 (Quoting.shown b ++ ": binary operator expected".toList)

/-- So many arguments as one condition. -/
def whole : Nat → Nat → Reading Bool
  | 0, _ => beyond
  | n + 1, count => do
    match count with
    | 1 => single
    | 2 => two
    | 3 => three n
    | 4 =>
      let a := (← look 0).getD []
      let d := (← look 3).getD []
      if a = ['!'] then
        advance
        return !(← three n)
      else if a = ['('] && d = [')'] then
        drop 1
        let result ← two
        drop 1
        pure result
      else anyOf n
    | _ => anyOf n

def term : Nat → Reading Bool
  | 0 => beyond
  | n + 1 => do
    let args := (← get).args
    let bangs := (args.takeWhile (· = ['!'])).length
    if bangs ≥ args.length then beyond
    drop bangs
    let negated := bangs % 2 = 1
    let a ← peek
    let args := (← get).args
    let result ←
      if a = ['('] then
        advance
        let inside := (← get).args
        let plain := ((inside.drop 1).takeWhile (· ≠ [')'])).length + 1
        let count := if plain ≥ 5 then inside.length else plain
        let result ← whole n count
        match ← look 0 with
        | none => Tool.fail 2 "')' expected".toList
        | some [')'] => drop 1
        | some o => Tool.fail 2 ("')' expected, found ".toList ++ Quoting.shown o)
        pure result
      else if args.length ≥ 4 && a = "-l".toList && isBinary ((← look 2).getD []) then binary true
      else if args.length ≥ 3 && isBinary ((← look 1).getD []) then binary false
      else if isSwitch a then unary
      else single
    pure (result != negated)

def allOf : Nat → Reading Bool
  | 0 => beyond
  | n + 1 => do
    let a ← term n
    if (← look 0) = some "-a".toList then
      drop 1
      let b ← allOf n
      pure (a && b)
    else pure a

def anyOf : Nat → Reading Bool
  | 0 => beyond
  | n + 1 => do
    let a ← allOf n
    if (← look 0) = some "-o".toList then
      drop 1
      let b ← anyOf n
      pure (a || b)
    else pure a

end

/-- The status of a condition. -/
def test (args : List Octets) : Tool Nat := do
  match args.getLast? with
  | none => pure 1
  | some last =>
    let (result, rest) ← (whole (4 * args.length + 8) args.length).run { args, last }
    match rest.args with
    | o :: _ => Tool.fail 2 ("extra argument ".toList ++ Quoting.shown o)
    | [] => pure (if result then 0 else 1)

/-- The same between brackets. -/
def bracket (args : List Octets) : Tool Nat := do
  if args.getLast? = some [']'] then test args.dropLast
  else Tool.fail 2 "missing ']'".toList

end MatchedLines.Host.Condition
