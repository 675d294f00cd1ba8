import MatchedLines.Host.Real
import MatchedLines.Host.Utility.Basic
import MatchedLines.Host.Utility.Listing
import MatchedLines.Host.Utility.Texts
/-!
Lines in order: as wholes, or by keys that are parts of them.
-/

namespace MatchedLines.Host.Sorting

/-- How two keys are compared. -/
structure Manner where
  /-- Blanks at the front do not count, at the place where the key begins or ends. -/
  blanksAtStart : Bool := false
  blanksAtEnd : Bool := false
  dictionary : Bool := false
  fold : Bool := false
  general : Bool := false
  human : Bool := false
  printable : Bool := false
  month : Bool := false
  numeric : Bool := false
  random : Bool := false
  version : Bool := false
  reversed : Bool := false
  deriving DecidableEq

namespace Manner

/-- Sets what a letter asks for. -/
def set? (m : Manner) (atStart atEnd : Bool) (c : Char) : Option Manner :=
  match c with
  | 'b' => some { m with
      blanksAtStart := m.blanksAtStart || atStart, blanksAtEnd := m.blanksAtEnd || atEnd }
  | 'd' => some { m with dictionary := true }
  | 'f' => some { m with fold := true }
  | 'g' => some { m with general := true }
  | 'h' => some { m with human := true }
  | 'i' => some { m with printable := true }
  | 'M' => some { m with month := true }
  | 'n' => some { m with numeric := true }
  | 'R' => some { m with random := true }
  | 'V' => some { m with version := true }
  | 'r' => some { m with reversed := true }
  | _ => none

/-- Sets what the letters at the front of a text ask for. -/
def take (m : Manner) (atStart atEnd : Bool) : Octets → Manner × Octets
  | [] => (m, [])
  | c :: o =>
    match m.set? atStart atEnd c with
    | some m => take m atStart atEnd o
    | none => (m, c :: o)

/-- The letters of a manner that cannot hold all at once. -/
def conflict (m : Manner) : Octets :=
  let filters := m.dictionary || m.printable
  let orders := [m.numeric, m.general, m.human, m.month, m.version || m.random || filters]
  if (orders.filter id).length ≤ 1 then []
  else
    let letters : List (Bool × Char) :=
      [(m.dictionary, 'd'), (m.fold, 'f'), (m.general, 'g'), (m.human, 'h'),
        (m.printable && !m.dictionary, 'i'), (m.month, 'M'), (m.numeric, 'n'), (m.random, 'R'),
        (m.version, 'V')]
    (letters.filter Prod.fst).map Prod.snd

end Manner

/-- A part of a line: where it begins and where it ends, counted in fields and characters. -/
structure Key where
  /-- Nothing means the front of the line. -/
  start : Option (Nat × Nat) := none
  /-- Nothing means the end of the line. -/
  stop : Option (Nat × Nat) := none
  manner : Manner := {}

/-! ### Parts of lines -/

/-- The text after so many fields. -/
def afterFields (tab : Option Char) : Nat → Octets → Octets
  | 0, o => o
  | n + 1, o =>
    match tab with
    | some t => afterFields tab n ((o.dropWhile (· ≠ t)).drop 1)
    | none =>
      afterFields tab n ((o.dropWhile Octets.isBlank).dropWhile (!Octets.isBlank ·))

/-- How far a key reaches into a line. -/
def reach (tab : Option Char) (fields chars : Nat) (blanks : Bool) (o : Octets) : Nat :=
  if chars = 0 then
    match tab with
    | some t =>
      let front := afterFields tab fields o
      o.length - front.length + (front.takeWhile (· ≠ t)).length
    | none => o.length - (afterFields tab (fields + 1) o).length
  else
    let rest := afterFields tab fields o
    let rest := if blanks then rest.dropWhile Octets.isBlank else rest
    min o.length (o.length - rest.length + chars)

/-- The part of a line that a key means. -/
def part (tab : Option Char) (k : Key) (o : Octets) : Octets :=
  let rest := match k.start with
    | none => o
    | some (fields, _) => afterFields tab fields o
  let rest := if k.manner.blanksAtStart then rest.dropWhile Octets.isBlank else rest
  let start := o.length - rest.length + ((k.start.map Prod.snd).getD 0)
  let start := min o.length start
  let stop := match k.stop with
    | none => o.length
    | some (fields, chars) => reach tab fields chars k.manner.blanksAtEnd o
  (o.take stop).drop start

/-! ### Comparing -/

/-- A number as it is written: sign, digits before the point and digits after it. -/
def decimal (o : Octets) : Bool × Octets × Octets :=
  let o := o.dropWhile Octets.isBlank
  let (negative, o) : Bool × Octets := match o with
    | '-' :: rest => (true, rest)
    | o => (false, o)
  let whole := o.takeWhile Char.isDigit
  let fraction := match o.drop whole.length with
    | '.' :: rest => rest.takeWhile Char.isDigit
    | _ => []
  let whole := whole.dropWhile (· = '0')
  let fraction := (fraction.reverse.dropWhile (· = '0')).reverse
  (negative && !(whole.isEmpty && fraction.isEmpty), whole, fraction)

def compareText (a b : Octets) : Ordering :=
  if a = b then .eq else if Octets.le a b then .lt else .gt

/-- Numbers without sign, digit by digit. -/
def compareSizes (a b : Octets × Octets) : Ordering :=
  if a.1.length ≠ b.1.length then compare a.1.length b.1.length
  else (compareText a.1 b.1).then (compareText a.2 b.2)

def compareNumbers (a b : Octets) : Ordering :=
  let (m, x) := decimal a
  let (n, y) := decimal b
  match m, n with
  | false, false => compareSizes x y
  | true, true => compareSizes y x
  | true, false => .lt
  | false, true => .gt

/-- The rank of the letter that multiplies a number. -/
def unitRank (o : Octets) : Int :=
  let o := o.dropWhile Octets.isBlank
  let negative := o.head? = some '-'
  let o := if negative then o.drop 1 else o
  let digits := o.takeWhile Char.isDigit
  let rest := o.drop digits.length
  let (fraction, rest) := match rest with
    | '.' :: rest => (rest.takeWhile Char.isDigit, rest.dropWhile Char.isDigit)
    | rest => ([], rest)
  let isZero := (digits ++ fraction).all (· = '0')
  let rank : Int := match rest.head? with
    | some c =>
      if isZero then 0
      else match "KMGTPEZYRQ".toList.findIdx? (· = c) with
        | some i => i + 1
        | none => if c = 'k' then 1 else 0
    | none => 0
  if negative then -rank else rank

def monthRank (o : Octets) : Nat :=
  let name := ((o.dropWhile Octets.isBlank).take 3).map Char.toUpper
  let names := ["JAN", "FEB", "MAR", "APR", "MAY", "JUN", "JUL", "AUG", "SEP", "OCT", "NOV", "DEC"]
  match names.findIdx? fun n => n.toList = name with
  | some i => i + 1
  | none => 0

/-- Texts that are no numbers come first, then what is not a number but is called one. -/
def compareReals (a b : Octets) : Ordering :=
  match Real.take .extended a, Real.take .extended b with
  | none, none => .eq
  | none, some _ => .lt
  | some _, none => .gt
  | some (x, _), some (y, _) =>
    match x.magnitude, y.magnitude with
    | .nan, .nan => .eq
    | .nan, _ => .lt
    | _, .nan => .gt
    | _, _ => if x.lt y then .lt else if y.lt x then .gt else .eq

def compareVersions (a b : Octets) : Ordering :=
  let d := Listing.compareVersions (a.length + b.length + 2) a b
  if d < 0 then .lt else if d > 0 then .gt else .eq

/-- The characters of a key that count, as they count. -/
def counted (m : Manner) (o : Octets) : Octets :=
  let kept (c : Char) : Bool :=
    if m.dictionary then c.isAlphanum || Octets.isBlank c
    else if m.printable then Quoting.isPlain c
    else true
  let o := if m.dictionary || m.printable then o.filter kept else o
  if m.fold then o.map Char.toUpper else o

def compareKeys (m : Manner) (a b : Octets) : Ordering :=
  let order :=
    if m.numeric then compareNumbers a b
    else if m.general then compareReals a b
    else if m.human then (compare (unitRank a) (unitRank b)).then (compareNumbers a b)
    else if m.month then compare (monthRank a) (monthRank b)
    else
      let a := counted m a
      let b := counted m b
      if m.version then compareVersions a b else compareText a b
  if m.reversed then order.swap else order

/-- How all lines are ordered. -/
structure Plan where
  keys : List Key
  tab : Option Char
  /-- Lines with equal keys stay in their order. -/
  stable : Bool
  unique : Bool
  reversed : Bool

namespace Plan

/-- The keys of two lines. -/
def byKeys (p : Plan) (a b : Octets) : Ordering :=
  p.keys.foldl (fun order k =>
    order.then (compareKeys k.manner (part p.tab k a) (part p.tab k b))) .eq

/-- The order of two lines; what their keys leave open the whole lines decide. -/
def order (p : Plan) (a b : Octets) : Ordering :=
  let first := if p.keys.isEmpty then .eq else p.byKeys a b
  if first ≠ .eq || ((p.stable || p.unique) && !p.keys.isEmpty) then first
  else
    let whole := compareText a b
    if p.reversed then whole.swap else whole

def le (p : Plan) (a b : Octets) : Bool := p.order a b ≠ .gt

/-- Lines that count as the same. -/
def same (p : Plan) (a b : Octets) : Bool := p.order a b = .eq

/-- The first of each run of lines that count as the same. -/
def firsts (p : Plan) : List Octets → List Octets
  | [] => []
  | o :: rest => o :: go o rest
where
  go : Octets → List Octets → List Octets
    | _, [] => []
    | a, b :: rest => if p.same a b then go a rest else b :: go b rest

/-- The first line that is out of order, with its number. -/
def disorder (p : Plan) : Nat → List Octets → Option (Nat × Octets)
  | n, a :: b :: rest =>
    let bad := if p.unique then p.order a b ≠ .lt else p.order a b = .gt
    if bad then some (n + 1, b) else disorder p (n + 1) (b :: rest)
  | _, _ => none

end Plan

/-! ### Reading the options -/

def badKey {α : Type} (what : String) (o : Octets) : Tool α :=
  Tool.fail 2 (what.toList ++ ": invalid field specification ".toList ++ Quoting.shown o)

/-- A count at the front of a text. -/
def count (what : String) (o : Octets) : Tool (Nat × Octets) := do
  let digits := o.takeWhile Char.isDigit
  if digits.isEmpty then
    Tool.fail 2 (what.toList ++ ": invalid count at start of ".toList ++ Quoting.shown o)
  pure (Nat.ofDigitChars 10 digits 0, o.drop digits.length)

/-- Reads where a key begins and ends. -/
def key (o : Octets) : Tool Key := do
  let (field, rest) ← count "invalid number at field start" o
  if field = 0 then badKey "field number is zero" o
  let (char, rest) : Nat × Octets ←
    match rest with
    | '.' :: rest =>
      let (n, rest) ← count "invalid number after '.'" rest
      if n = 0 then badKey "character offset is zero" o
      pure (n, rest)
    | rest => pure (1, rest)
  let start := if field = 1 && char = 1 then none else some (field - 1, char - 1)
  let (manner, rest) := Manner.take {} true false rest
  match rest with
  | ',' :: rest =>
    let (field, rest) ← count "invalid number after ','" rest
    if field = 0 then badKey "field number is zero" o
    let (char, rest) : Nat × Octets ←
      match rest with
      | '.' :: rest => count "invalid number after '.'" rest
      | rest => pure (0, rest)
    let (manner, rest) := manner.take false true rest
    if !rest.isEmpty then badKey "stray character in field spec" o
    pure { start, stop := some (field - 1, char), manner }
  | [] => pure { start, manner }
  | _ => badKey "stray character in field spec" o

/-- The character that ends a field. -/
def tabOf (o : Octets) : Tool Char := do
  match o with
  | [] => Tool.fail 2 "empty tab".toList
  | [c] => pure c
  | ['\\', '0'] => pure '\x00'
  | o => Tool.fail 2 ("multi-character tab ".toList ++ Quoting.shown o)

def grammar : Grammar where
  short := Grammar.letters "bcCdfghik:mMno:rRsS:t:T:uVy:z"
  long := [("ignore-leading-blanks", .none, "b"), ("check", .optional, "check"),
    ("compress-program", .required, "compress"), ("debug", .none, "debug"),
    ("dictionary-order", .none, "d"), ("ignore-case", .none, "f"),
    ("files0-from", .required, "files0"), ("general-numeric-sort", .none, "g"),
    ("ignore-nonprinting", .none, "i"), ("key", .required, "k"), ("merge", .none, "m"),
    ("month-sort", .none, "M"), ("numeric-sort", .none, "n"), ("human-numeric-sort", .none, "h"),
    ("version-sort", .none, "V"), ("random-sort", .none, "R"),
    ("random-source", .required, "source"),
    ("sort", .required, "sort"), ("output", .required, "o"), ("reverse", .none, "r"),
    ("stable", .none, "s"), ("batch-size", .required, "batch"), ("buffer-size", .required, "S"),
    ("field-separator", .required, "t"), ("temporary-directory", .required, "T"),
    ("unique", .none, "u"), ("zero-terminated", .none, "z"), ("parallel", .required, "parallel"),
    ("help", .none, "help"), ("version", .none, "version")]
  failure := 2

/-- Lines of several files that are each in order, put together. -/
def merged (le : Octets → Octets → Bool) (files : List (List Octets)) : List Octets :=
  files.foldl (fun all lines => List.merge all lines le) []

/-- What the options ask for. -/
def planOf (cs : List Choice) : Tool Plan := do
  let has := Choice.has cs
  let mut manner : Manner := {}
  for c in cs do
    match c.key.toList with
    | [letter] => manner := (manner.set? true true letter).getD manner
    | _ =>
      if c.key = "sort" then
        let i ← Tool.oneOf 2 "--sort" [["general-numeric"], ["human-numeric"], ["month"],
          ["numeric"], ["random"], ["version"]] (c.value.getD [])
        let letter := ['g', 'h', 'M', 'n', 'R', 'V'][i]?.getD 'n'
        manner := (manner.set? true true letter).getD manner
  let keys ← (cs.filter fun c => c.key = "k").mapM fun c => key (c.value.getD [])
  let keys := keys.map fun k =>
    if k.manner = {} then { k with manner } else k
  let plain : Manner := { reversed := manner.reversed }
  let keys : List Key :=
    if keys.isEmpty && manner ≠ plain then [{ manner }] else keys
  for k in keys do
    let conflict := k.manner.conflict
    if !conflict.isEmpty then
      Tool.fail 2 ("options '-".toList ++ conflict ++ "' are incompatible".toList)
  let tab ← (Choice.last? cs "t").mapM tabOf
  pure { keys, tab, stable := has "s", unique := has "u", reversed := manner.reversed }

/-- The lines of a text without their ends. -/
def linesOf (lineEnd : Char) (o : Octets) : List Octets :=
  (Texts.pieces lineEnd o).map fun p => if p.getLast? = some lineEnd then p.dropLast else p

def readLines (lineEnd : Char) (path : Octets) : Tool (List Octets) := do
  match ← Tool.openOperand path with
  | .error e =>
    Tool.fail 2 ("open failed: ".toList ++ Quoting.name path ++ ": ".toList ++ e.wording)
  | .ok channel =>
    match ← Tool.act (Act.readAll channel) with
    | .ok o => pure (linesOf lineEnd o)
    | .error e =>
      Tool.fail 2 ("read failed: ".toList ++ Quoting.name path ++ ": ".toList ++ e.wording)

/-- Says where a file is out of order. -/
def check (p : Plan) (silent : Bool) (path : Octets) (lines : List Octets) : Tool Nat := do
  match p.disorder 1 lines with
  | none => pure 0
  | some (n, line) =>
    if !silent then
      Tool.warn (path ++ ':' :: (Nat.toDigits 10 n ++ ": disorder: ".toList ++ line))
    pure 1

def sort (args : List Octets) : Tool Nat := do
  let (cs, operands) ← grammar.parse args
  let has := Choice.has cs
  let checks := has "c" || has "C" || has "check"
  let quiet ← match Choice.last? cs "check" with
    | none => pure false
    | some o =>
      let i ← Tool.oneOf 2 "--check" [["quiet", "silent"], ["diagnose-first"]] o
      pure (i = 0)
  let silent := has "C" || quiet
  let p ← planOf cs
  let lineEnd := if has "z" then '\x00' else '\n'
  let paths := if operands.isEmpty then [['-']] else operands
  if checks then
    match paths with
    | _ :: o :: _ =>
      Tool.fail 2 ("extra operand ".toList ++ Quoting.quoted o ++ " not allowed with -".toList
        ++ [if silent then 'C' else 'c'])
    | _ => pure ()
    if has "o" then
      Tool.fail 2 ("options '-".toList ++ [if silent then 'C' else 'c']
        ++ "o' are incompatible".toList)
  let unreadable := if checks then "open failed: " else "cannot read: "
  let process ← Tool.process
  for path in paths do
    if path ≠ ['-'] then
      let f ← Tool.files
      match f.resolve process.cwd path true with
      | .error e =>
        Tool.fail 2 (unreadable.toList ++ Quoting.name path ++ ": ".toList ++ e.wording)
      | .ok n =>
        if !f.allows n .read then
          Tool.fail 2 (unreadable.toList ++ Quoting.name path ++ ": ".toList
            ++ Errno.accessDenied.wording)
  if checks then
    let path := paths.headD ['-']
    check p silent path (← readLines lineEnd path)
  else
    let files ← paths.mapM (readLines lineEnd)
    let sorted := if has "m" then merged p.le files else files.flatten.mergeSort p.le
    let lines := if p.unique then p.firsts sorted else sorted
    let o := lines.flatMap (· ++ [lineEnd])
    match Choice.last? cs "o" with
    | some path =>
      let how : Opening := { rights := ⟨false, true⟩, create := true, truncate := true }
      match ← Tool.act (process.openFile path how) with
      | .ok channel =>
        match ← Tool.act (Act.write channel o) with
        | .ok () => pure 0
        | .error e =>
          Tool.fail 2 ("write failed: ".toList ++ Quoting.name path ++ ": ".toList ++ e.wording)
      | .error e =>
        Tool.fail 2 ("open failed: ".toList ++ Quoting.name path ++ ": ".toList ++ e.wording)
    | none =>
      Tool.print o
      match ← Tool.flush with
      | .ok () => pure 0
      | .error e =>
        let problem := if o.length ≥ 4096 then "write failed" else "fflush failed"
        Tool.warn (problem.toList ++ ": 'standard output': ".toList ++ e.wording)
        Tool.fail 2 "write error".toList

end MatchedLines.Host.Sorting
