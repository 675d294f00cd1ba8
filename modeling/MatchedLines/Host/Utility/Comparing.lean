import MatchedLines.Host.Utility.Columns
/-!
Programs that compare lines: neighbours within one file, or the lines of two files in order.
-/

namespace MatchedLines.Host.Comparing

open Columns (linesOf standardOptions)

/-! ### Runs of equal lines -/

/-- How lines are compared and which of them are shown. -/
structure Runs where
  fields : Nat := 0
  chars : Nat := 0
  limit : Option Nat := none
  fold : Bool := false
  counts : Bool := false
  repeated : Bool := false
  unique : Bool := false
  /-- All lines of a run are shown, with an empty line before each run or between runs. -/
  all : Bool := false
  separate : Nat := 0
  group : Option Nat := none

/-- What of a line is compared. -/
def runKey (r : Runs) (line : Octets) : Octets :=
  let rec skip : Nat → Octets → Octets
    | 0, o => o
    | n + 1, o => skip n ((o.dropWhile Octets.isBlank).dropWhile (!Octets.isBlank ·))
  let o := (skip r.fields line).drop r.chars
  let o := match r.limit with
    | some n => o.take n
    | none => o
  if r.fold then o.map Char.toUpper else o

/-- Lines with equal keys that follow one another. -/
def runs (r : Runs) (lines : List Octets) : List (List Octets) :=
  (lines.foldl (fun (taken : List (Octets × List Octets)) line =>
    let k := runKey r line
    match taken with
    | (key, run) :: more =>
      if key = k then (key, line :: run) :: more else (k, [line]) :: (key, run) :: more
    | [] => [(k, [line])]) []).reverse.map fun (_, run) => run.reverse

/-- What is shown of runs. -/
def shownRuns (r : Runs) (lineEnd : Char) (all : List (List Octets)) : Octets :=
  match r.group with
  | some style =>
    let groups := all.map fun run => run.flatMap (· ++ [lineEnd])
    let inner := ([lineEnd] : Octets).intercalate groups
    if groups.isEmpty then []
    else (if style = 0 || style = 3 then [lineEnd] else []) ++ inner
      ++ (if style = 1 || style = 3 then [lineEnd] else [])
  | none =>
    let kept := all.filter fun run =>
      !(r.repeated && run.length < 2) && !(r.unique && run.length > 1)
    if r.all then
      let groups := (all.filter fun run => run.length > 1 && !r.unique).map fun run =>
        run.flatMap (· ++ [lineEnd])
      match r.separate with
      | 0 => groups.flatten
      | 1 => groups.flatMap fun g => lineEnd :: g
      | _ => ([lineEnd] : Octets).intercalate groups
    else
      kept.flatMap fun run =>
        let digits := Nat.toDigits 10 run.length
        (if r.counts then List.replicate (7 - digits.length) ' ' ++ digits ++ [' '] else [])
          ++ run.headD [] ++ [lineEnd]

def uniq (args : List Octets) : Tool Nat := do
  let grammar : Grammar :=
    { short := Grammar.letters "0123456789Dcdf:is:uw:z"
      long := [("count", .none, "c"), ("repeated", .none, "d"), ("all-repeated", .optional, "D"),
        ("group", .optional, "group"), ("ignore-case", .none, "i"), ("unique", .none, "u"),
        ("skip-fields", .required, "f"), ("skip-chars", .required, "s"),
        ("check-chars", .required, "w"), ("zero-terminated", .none, "z")] ++ standardOptions }
  let (cs, operands) ← grammar.parse args
  let has := Choice.has cs
  let size (key what : String) : Tool (Option Nat) := do
    match Choice.last? cs key with
    | none => pure none
    | some o =>
      match Octets.number? o with
      | some n => pure (some n)
      | none => Tool.fail 1 (o ++ ": invalid number of ".toList ++ what.toList)
  let digits := (cs.filter fun c => c.key.toList.all Char.isDigit).flatMap fun c => c.key.toList
  let old := if digits.isEmpty then 0 else Nat.ofDigitChars 10 digits 0
  let group ← match cs.reverse.find? fun c => c.key = "group" with
    | none => pure none
    | some c =>
      match c.value with
      | none => pure (some 2)
      | some o =>
        some <$> Tool.oneOf 1 "--group" [["prepend"], ["append"], ["separate"], ["both"]] o
  let separate ← match Choice.last? cs "D" with
    | none => pure 0
    | some o => Tool.oneOf 1 "--all-repeated" [["none"], ["prepend"], ["separate"]] o
  let r : Runs :=
    { fields := (← size "f" "fields to skip").getD old
      chars := (← size "s" "bytes to skip").getD 0
      limit := ← size "w" "bytes to compare"
      fold := has "i", counts := has "c", repeated := has "d" || has "D", unique := has "u"
      all := has "D", separate, group }
  match operands with
  | _ :: _ :: o :: _ => Tool.misuse 1 ("extra operand ".toList ++ Quoting.shown o)
  | _ => pure ()
  if group.isSome && ["c", "d", "D", "u"].any has then
    Tool.misuse 1 "--group is mutually exclusive with -c/-d/-D/-u".toList
  if r.counts && r.all then
    Tool.misuse 1 "printing all duplicated lines and repeat counts is meaningless".toList
  let input := operands.headD ['-']
  let p ← Tool.process
  match ← Tool.openOperand input with
  | .error e => Tool.fail 1 (Quoting.name input ++ ": ".toList ++ e.wording)
  | .ok channel =>
    let output ← match operands[1]? with
      | none | some ['-'] => pure none
      | some path =>
        match ← Tool.act (p.openFile path .writing) with
        | .ok c => pure (some c)
        | .error e => Tool.fail 1 (Quoting.name path ++ ": ".toList ++ e.wording)
    match ← Tool.act (Act.readAll channel) with
    | .error e =>
      Tool.fail 1 ("error reading ".toList ++ Quoting.quoted input ++ ": ".toList ++ e.wording)
    | .ok o =>
      let lineEnd := if has "z" then '\x00' else '\n'
      let shown := shownRuns r lineEnd (runs r (linesOf lineEnd o))
      match output with
      | none => Tool.print shown
      | some c =>
        let _ ← Tool.act (Act.write c shown)
      pure 0

/-! ### Two files in order -/

/-- Whether the order of lines is looked at: always, never, or once a line was seen that only one
file has. -/
inductive OrderCheck where
  | always
  | never
  | unpaired
  deriving DecidableEq, Repr

/-- One of two files while their lines are compared. -/
structure Side where
  rest : List Octets
  /-- The line to be compared next; nothing at the end of the file. -/
  current : Option Octets := none
  /-- The lines before it, the latest first. -/
  before : List Octets := []
  /-- A line was found that stands before the one in front of it. -/
  disordered : Bool := false

/-- Two files, and how many lines only the first, only the second and both have. -/
structure Pairing where
  check : OrderCheck
  left : Side
  right : Side
  /-- Both files are one, so that lines are taken from the first of the two. -/
  shared : Bool := false
  totals : List Nat := [0, 0, 0]
  unpaired : Bool := false

namespace Pairing

def side (p : Pairing) (isLeft : Bool) : Side := if isLeft then p.left else p.right

def setSide (p : Pairing) (isLeft : Bool) (s : Side) : Pairing :=
  if isLeft then { p with left := s } else { p with right := s }

/-- Complains if one line of a file must not stand before another. -/
def checkOrder (p : Pairing) (isLeft : Bool) (earlier later : Octets) : Tool Pairing := do
  let s := p.side isLeft
  let looks := p.check = .always || (p.check = .unpaired && p.unpaired)
  if !looks || s.disordered || Octets.le earlier later then pure p
  else
    let message := "file ".toList ++ (if isLeft then ['1'] else ['2'])
      ++ " is not in sorted order".toList
    if p.check = .always then Tool.fail 1 message
    Tool.warn message
    pure (p.setSide isLeft { s with disordered := true })

/-- Goes on to the next line of a file. At the end of it the last two lines are looked at once more,
as a line may have been found in the meantime that only one file has. -/
def advance (p : Pairing) (isLeft : Bool) : Tool Pairing := do
  let s := p.side isLeft
  let source := if p.shared then p.left.rest else s.rest
  let before := s.current.toList ++ s.before.take 1
  let p := if p.shared then { p with left := { p.left with rest := source.drop 1 } }
    else p.setSide isLeft { s with rest := source.drop 1 }
  let s := p.side isLeft
  let p := p.setSide isLeft { s with current := source.head?, before }
  match source.head?, before with
  | some line, last :: _ => p.checkOrder isLeft last line
  | none, last :: earlier :: _ => p.checkOrder isLeft earlier last
  | _, _ => pure p

/-- Which of the two lines comes first: 0 for the left, 1 for the right and 2 for both. -/
def next? (p : Pairing) : Option (Nat × Octets) :=
  match p.left.current, p.right.current with
  | none, none => none
  | some a, none => some (0, a)
  | none, some b => some (1, b)
  | some a, some b =>
    if a = b then some (2, a) else if Octets.le a b then some (0, a) else some (1, b)

/-- Gives the lines out one by one, as many times as the number says at most. -/
def run (shown : Nat → Octets → Tool Unit) : Nat → Pairing → Tool Pairing
  | 0, p => pure p
  | n + 1, p => do
    match p.next? with
    | none => pure p
    | some (k, line) =>
      shown k line
      let p := { p with
        totals := p.totals.modify k (· + 1)
        unpaired := p.unpaired || k ≠ 2 }
      let p ← if k = 1 then pure p else p.advance true
      let p ← if k = 0 then pure p else p.advance false
      run shown n p

end Pairing

def comm (args : List Octets) : Tool Nat := do
  let grammar : Grammar :=
    { short := Grammar.letters "123z"
      long := [("check-order", .none, "check"), ("nocheck-order", .none, "nocheck"),
        ("output-delimiter", .required, "between"), ("total", .none, "total"),
        ("zero-terminated", .none, "z")] ++ standardOptions }
  let (cs, operands) ← grammar.parse args
  let lineEnd := if Choice.has cs "z" then '\x00' else '\n'
  let delimiters := cs.filterMap fun c => if c.key = "between" then c.value else none
  if delimiters.any (· ≠ delimiters.headD []) then
    Tool.fail 1 "multiple output delimiters specified".toList
  match operands with
  | [] => Tool.misuse 1 "missing operand".toList
  | [o] => Tool.misuse 1 ("missing operand after ".toList ++ Quoting.shown o)
  | a :: b :: rest =>
    match rest with
    | o :: _ => Tool.misuse 1 ("extra operand ".toList ++ Quoting.shown o)
    | [] => pure ()
    let shared := a = ['-'] && b = ['-']
    let read (path : Octets) : Tool (List Octets) := do
      match ← Tool.readOperand path with
      | .ok o => pure (linesOf lineEnd o)
      | .error e => Tool.fail 1 (Quoting.name path ++ ": ".toList ++ e.wording)
    let xs ← read a
    let ys ← if shared then pure [] else read b
    let between := match delimiters with
      | [] => ['\t']
      | [] :: _ => ['\x00']
      | o :: _ => o
    let hides (k : Nat) : Bool := Choice.has cs (["1", "2", "3"][k]?.getD "")
    let shown (k : Nat) (line : Octets) : Tool Unit := do
      if !hides k then
        let columns := ((List.range k).filter fun j => !hides j).length
        Tool.print ((List.replicate columns between).flatten ++ line ++ [lineEnd])
    let check := match Choice.latest? cs ["check", "nocheck"] with
      | some "check" => OrderCheck.always
      | some _ => .never
      | none => .unpaired
    let start : Pairing := { check, shared, left := { rest := xs }, right := { rest := ys } }
    let start ← (← start.advance true).advance false
    let p ← start.run shown (xs.length + ys.length + 1)
    if shared then Tool.fail 1 "-: Bad file descriptor".toList
    if Choice.has cs "total" then
      Tool.print (between.intercalate
        (p.totals.map (Nat.toDigits 10) ++ ["total".toList]) ++ [lineEnd])
    if p.left.disordered || p.right.disordered then
      Tool.fail 1 "input is not in sorted order".toList
    pure 0

end MatchedLines.Host.Comparing
