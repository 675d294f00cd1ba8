import MatchedLines.Host.Files
/-!
Permission bits as commands read and write them: in octal, or as changes in letters.
-/

namespace MatchedLines.Host.Mode

/-- One change: what it affects (nothing if that was left open), and the bits it names. -/
structure Change where
  op : Char
  affected : Nat
  value : Nat
  mentioned : Nat
  /-- The bits named are those that one group already has. -/
  copies : Bool := false
  /-- The bits to execute are named as well if there are any already. -/
  executes : Bool := false
  deriving DecidableEq, Repr

def all : Nat := 0o7777

/-- The bits of a group. -/
def group? (c : Char) : Option Nat :=
  match c with
  | 'u' => some 0o4700
  | 'g' => some 0o2070
  | 'o' => some 0o1007
  | 'a' => some all
  | _ => none

/-- The bits of a permission. -/
def permission? (c : Char) : Option Nat :=
  match c with
  | 'r' => some 0o444
  | 'w' => some 0o222
  | 'x' => some 0o111
  | 's' => some 0o6000
  | 't' => some 0o1000
  | 'X' => some 0
  | _ => none

def isOctal (c : Char) : Bool := '0' ≤ c && c ≤ '7'

def octalValue (o : Octets) : Nat := o.foldl (fun n c => n * 8 + (c.toNat - '0'.toNat)) 0

def isOp (c : Char) : Bool := c = '=' || c = '+' || c = '-'

/-- Bits that are in the first number but not in the second. -/
def without (a b : Nat) : Nat := a &&& (all ^^^ (b &&& all))

/-- The changes of one group of files, from the first operator on. -/
def changes (affected : Nat) : Nat → Octets → Option (List Change × Octets)
  | 0, _ => none
  | n + 1, op :: o => do
    let (change, rest) ← (
      match o with
      | c :: more =>
        if isOctal c then
          let digits := o.takeWhile isOctal
          let rest := o.drop digits.length
          let value := octalValue digits
          if value > all || affected ≠ 0 || !(rest.isEmpty || rest.head? = some ',') then none
          else
            let change : Change := { op, affected := all, value, mentioned := all }
            some (change, rest)
        else if c = 'u' || c = 'g' || c = 'o' then
          let value := if c = 'u' then 0o700 else if c = 'g' then 0o070 else 0o007
          let mentioned := if affected = 0 then value else affected &&& value
          let change : Change := { op, affected, value, mentioned, copies := true }
          some (change, more)
        else
          let letters := o.takeWhile fun c => (permission? c).isSome
          let value := letters.foldl (fun v c => v ||| (permission? c).getD 0) 0
          let mentioned := if affected = 0 then value else affected &&& value
          let change : Change :=
            { op, affected, value, mentioned, executes := letters.contains 'X' }
          some (change, o.drop letters.length)
      | [] =>
        let change : Change := { op, affected, value := 0, mentioned := 0 }
        some (change, []))
    if rest.head?.any isOp then
      let (more, rest) ← changes affected n rest
      pure (change :: more, rest)
    else pure ([change], rest)
  | _ + 1, [] => none

/-- Changes given in letters, with commas between them. -/
def symbolic : Nat → Octets → Option (List Change)
  | 0, _ => none
  | n + 1, o => do
    let who := o.takeWhile fun c => (group? c).isSome
    let affected := who.foldl (fun v c => v ||| (group? c).getD 0) 0
    let rest := o.drop who.length
    if !rest.head?.any isOp then none
    else
      let (here, rest) ← changes affected (rest.length + 1) rest
      match rest with
      | [] => pure here
      | ',' :: rest => return here ++ (← symbolic n rest)
      | _ => none

/-- The changes that a text asks for. -/
def parse? (o : Octets) : Option (List Change) :=
  if o.head?.any isOctal then
    if o.all isOctal && octalValue o ≤ all then
      let value := octalValue o
      let mentioned := if o.length < 5 then (value &&& 0o6000) ||| 0o1777 else all
      some [{ op := '=', affected := all, value, mentioned }]
    else none
  else symbolic (o.length + 1) o

/-- Gives the bits of one group to all. -/
def spread (value : Nat) : Nat :=
  [0o444, 0o222, 0o111].foldl (fun v bits => if value &&& bits ≠ 0 then v ||| bits else v) value

/-- Carries out one change on a mode, beside the bits that were touched before. -/
def step (isDirectory : Bool) (umask : Nat) (state : Nat × Nat) (c : Change) : Nat × Nat :=
  let (mode, touched) := state
  let omitted := if isDirectory then without 0o6000 c.mentioned else 0
  let value :=
    if c.copies then spread (c.value &&& mode)
    else if c.executes && (mode &&& 0o111 ≠ 0 || isDirectory) then c.value ||| 0o111
    else c.value
  let value :=
    without (if c.affected = 0 then without value umask else value &&& c.affected) omitted
  match c.op with
  | '=' =>
    let kept := (if c.affected = 0 then 0 else without all c.affected) ||| omitted
    ((mode &&& kept) ||| value, touched ||| without all kept)
  | '+' => (mode ||| value, touched ||| value)
  | _ => (without mode value, touched ||| value)

/-- The bits after changes, and which of them the changes were about. -/
def adjusted (isDirectory : Bool) (umask : Nat) (cs : List Change) (mode : Nat) : Nat × Nat :=
  cs.foldl (step isDirectory umask) (mode &&& all, 0)

def adjust (isDirectory : Bool) (umask : Nat) (cs : List Change) (mode : Nat) : Nat :=
  (adjusted isDirectory umask cs mode).1

/-- The bits of a new directory, of which the changes decide those that they are about. -/
def ofNewDirectory (umask : Nat) (cs : List Change) : Nat :=
  let (mode, touched) := adjusted true umask cs 0o777
  without (without 0o777 umask) touched ||| (mode &&& touched)

/-! ### In letters -/

/-- Three letters for one group; the last of them also shows a special bit. -/
def triple (bits : Nat) (special : Bool) (letter : Char) : Octets :=
  let last :=
    if special then (if bits % 2 = 1 then letter else letter.toUpper)
    else if bits % 2 = 1 then 'x' else '-'
  [if bits / 4 % 2 = 1 then 'r' else '-', if bits / 2 % 2 = 1 then 'w' else '-', last]

/-- The permission bits in nine letters. -/
def letters (mode : Nat) : Octets :=
  triple (mode / 64 % 8) (mode / 0o4000 % 2 = 1) 's'
    ++ triple (mode / 8 % 8) (mode / 0o2000 % 2 = 1) 's'
    ++ triple (mode % 8) (mode / 0o1000 % 2 = 1) 't'

/-- The permission bits in at least four octal digits. -/
def digits (mode : Nat) : Octets :=
  let ds := Nat.toDigits 8 mode
  List.replicate (4 - ds.length) '0' ++ ds

end MatchedLines.Host.Mode
