import MatchedLines.Host.Utility.Columns
/-!
Tabs and blanks: the columns at which tabs stop, blanks in place of tabs, and tabs in place of
blanks.
-/

namespace MatchedLines.Host.Tabs

open Columns (standardOptions)

/-- The columns at which tabs stop. -/
structure Stops where
  /-- Single columns, in order. -/
  columns : List Nat := []
  /-- After these, the multiples of a number. -/
  multiples : Option Nat := none
  /-- After these, columns at a distance from the last one. -/
  distance : Option Nat := none

namespace Stops

/-- What is being read of a list of stops. -/
structure Reading where
  stops : Stops := {}
  value : Option Nat := none
  /-- The mark in front of the value. -/
  mark : Option Char := none
  failed : Bool := false

/-- Takes over the value that was read. -/
def Reading.finish (r : Reading) : Tool Reading := do
  match r.value with
  | none => pure r
  | some n =>
    let r := { r with value := none }
    let twice (mark : String) : Tool Unit :=
      Tool.warn (Quoting.shown mark.toList ++ " specifier only allowed with the last value".toList)
    match r.mark with
    | none => pure { r with stops := { r.stops with columns := r.stops.columns ++ [n] } }
    | some '/' =>
      let again := r.stops.multiples.any (· ≠ 0)
      if again then twice "/"
      pure { r with
        stops := { r.stops with multiples := some n }, failed := r.failed || again }
    | some _ =>
      let again := r.stops.distance.any (· ≠ 0)
      if again then twice "+"
      pure { r with stops := { r.stops with distance := some n }, failed := r.failed || again }

/-- Reads a list of stops; the number bounds its length. -/
def takeList : Nat → Octets → Reading → Tool Reading
  | 0, _, r => pure r
  | n + 1, o, r => do
    match o with
    | [] => if r.failed then pure r else r.finish
    | c :: rest =>
      if c = ',' || Octets.isBlank c then
        let before := r.failed
        let r ← r.finish
        if r.failed && !before then pure r else takeList n rest r
      else if c = '/' || c = '+' then
        if r.value.isSome then
          Tool.warn (Quoting.shown [c] ++ " specifier not at start of number: ".toList
            ++ Quoting.shown o)
        takeList n rest { r with mark := some c, failed := r.failed || r.value.isSome }
      else if c.isDigit then
        let digits := o.takeWhile Char.isDigit
        let value := Nat.ofDigitChars 10 digits 0
        let tooLarge := value ≥ Octets.words
        if tooLarge then
          Tool.warn ("tab stop is too large ".toList ++ Quoting.shown digits)
        takeList n (o.drop digits.length)
          { r with value := some value, failed := r.failed || tooLarge }
      else
        Tool.warn ("tab size contains invalid character(s): ".toList ++ Quoting.shown o)
        pure { r with failed := true }

/-- The stops that options ask for; each list adds to those before. -/
def ofLists (lists : List Octets) : Tool Stops := do
  let mut stops : Stops := {}
  for o in lists do
    let r ← takeList (o.length + 1) o { stops }
    if r.failed then Tool.exit 1
    stops := r.stops
  let mut last := 0
  for n in stops.columns do
    if n = 0 then Tool.fail 1 "tab size cannot be 0".toList
    if n ≤ last then Tool.fail 1 "tab sizes must be ascending".toList
    last := n
  if stops.multiples.any (· ≠ 0) && stops.distance.any (· ≠ 0) then
    Tool.fail 1 "'/' specifier is mutually exclusive with '+'".toList
  pure stops

/-- The distance of stops that are all equally far apart. -/
def single? (s : Stops) : Option Nat :=
  let size (n : Option Nat) : Option Nat := n.filter (· ≠ 0)
  match s.columns with
  | [] => some (((size s.multiples).orElse fun _ => size s.distance).getD 8)
  | [n] => if (size s.multiples).isNone && (size s.distance).isNone then some n else none
  | _ => none

/-- The next stop after a column, if there is one. -/
def after? (s : Stops) (column : Nat) : Option Nat :=
  match s.single? with
  | some n => some (column + n - column % n)
  | none =>
    match s.columns.find? (column < ·) with
    | some stop => some stop
    | none =>
      match s.multiples.filter (· ≠ 0), s.distance.filter (· ≠ 0) with
      | some n, _ => some (column + n - column % n)
      | none, some n => some (column + n - (column - s.columns.getLastD 0) % n)
      | none, none => none

end Stops

/-- Where a line stands while it is changed. -/
structure Position where
  column : Nat := 0
  /-- Tabs and blanks are still changed. -/
  converts : Bool := true

/-- Blanks in place of tabs, in pieces. -/
def expanded (s : Stops) (whole : Bool) : Position → Octets → List Octets
  | _, [] => []
  | p, c :: o =>
    if c = '\n' then [c] :: expanded s whole {} o
    else if !p.converts then [c] :: expanded s whole p o
    else
      let converts := whole || Octets.isBlank c
      if c = '\t' then
        let next := (s.after? p.column).getD (p.column + 1)
        List.replicate (min (next - p.column) Machine.endless) ' '
          :: expanded s whole { column := next, converts } o
      else
        let column := if c = '\x08' then p.column - 1 else p.column + 1
        [c] :: expanded s whole { column, converts } o

/-- The lists of stops among options, with the digits that are options themselves. -/
def listsOf (cs : List Choice) : List Octets :=
  cs.filterMap fun c =>
    if c.key = "t" then c.value
    else if c.key.toList.all Char.isDigit then some (c.key.toList ++ c.value.getD [])
    else none

def expand (args : List Octets) : Tool Nat := do
  let grammar : Grammar :=
    { short := Grammar.letters "it:0::1::2::3::4::5::6::7::8::9::"
      long := [("tabs", .required, "t"), ("initial", .none, "i")] ++ standardOptions }
  let (cs, operands) ← grammar.parse args
  let stops ← Stops.ofLists (listsOf cs)
  Columns.forFiles operands fun o =>
    Tool.print (expanded stops (!Choice.has cs "i") {} o).flatten

/-- Blanks that may become tabs. -/
structure Pending where
  position : Position := {}
  /-- The blanks, last one first. -/
  blanks : Octets := []
  /-- The first of them came just before a stop. -/
  early : Bool := false
  /-- The character before was a blank. -/
  afterBlank : Bool := true

/-- What is written for blanks that wait. -/
def Pending.text (p : Pending) : Octets :=
  match p.blanks.reverse with
  | _ :: b :: rest => if p.early then '\t' :: b :: rest else p.blanks.reverse
  | blanks => blanks

/-- Tabs in place of blanks, in pieces. -/
def unexpanded (s : Stops) (whole : Bool) : Pending → Octets → List Octets
  | p, [] => [p.text]
  | p, c :: o =>
    if !p.position.converts then
      [c] :: unexpanded s whole (if c = '\n' then {} else p) o
    else
      let column := p.position.column
      let go (p : Pending) (column : Nat) (converts : Bool) (c : Char) : List Octets :=
        let next : Pending :=
          if c = '\n' then {}
          else
            { position := { column, converts := converts && (whole || Octets.isBlank c) }
              afterBlank := Octets.isBlank c }
        p.text :: [c] :: unexpanded s whole next o
      if Octets.isBlank c then
        match s.after? column with
        | none => go p column false c
        | some stop =>
          let early (p : Pending) : Pending :=
            { p with blanks := p.blanks.reverse.take (if p.early then 1 else 0) }
          let tabbed := { p with blanks := (p.blanks.dropLast ++ p.blanks.getLast?.toList.map
            fun _ => '\t') }
          if c = '\t' then go (early tabbed) stop true c
          else if p.afterBlank && column + 1 = stop then
            go (early { p with blanks := if p.blanks.isEmpty then ['\t'] else tabbed.blanks })
              (column + 1) true '\t'
          else
            unexpanded s whole
              { position := { column := column + 1 }
                blanks := c :: p.blanks
                early := p.early || column + 1 = stop
                afterBlank := true } o
      else go p (if c = '\x08' then column - 1 else column + 1) true c

def unexpand (args : List Octets) : Tool Nat := do
  let grammar : Grammar :=
    { short := Grammar.letters ",0123456789at:"
      long := [("tabs", .required, "t"), ("all", .none, "a"), ("first-only", .none, "first")]
        ++ standardOptions }
  let (cs, operands) ← grammar.parse args
  let digits := (cs.filter fun c => c.key.toList.all fun c => c.isDigit || c = ',').flatMap
    fun c => c.key.toList
  let lists := (cs.filterMap fun c => if c.key = "t" then c.value else none)
    ++ (if digits.isEmpty then [] else [digits])
  let whole := (Choice.has cs "a" || !lists.isEmpty) && !Choice.has cs "first"
  let stops ← Stops.ofLists lists
  Columns.forFiles operands fun o => Tool.print (unexpanded stops whole {} o).flatten

end MatchedLines.Host.Tabs
