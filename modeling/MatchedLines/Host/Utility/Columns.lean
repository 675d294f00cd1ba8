import MatchedLines.Host.Utility.Texts
/-!
Programs that work on each line by itself or put lines side by side.
-/

namespace MatchedLines.Host.Columns

/-- The lines of a text without their ends. -/
def linesOf (lineEnd : Char) (o : Octets) : List Octets :=
  (Texts.pieces lineEnd o).map fun p => if p.getLast? = some lineEnd then p.dropLast else p

/-- Gives what each file holds to some work, and complains about those that cannot be read. -/
def forFiles (operands : List Octets) (work : Octets → Tool Unit) : Tool Nat := do
  let mut status := 0
  for path in if operands.isEmpty then [['-']] else operands do
    match ← Tool.readOperand path with
    | .ok o => work o
    | .error e =>
      Tool.warnAbout (Quoting.name path) e
      status := 1
  pure status

def standardOptions : List (String × Arity × String) :=
  [("help", .none, "help"), ("version", .none, "version")]

/-! ### Parts of lines -/

/-- Places from one on, from a first to a last; nothing for no last one. -/
abbrev Range := Nat × Option Nat

/-- The greatest number that can be given for a place. -/
def maxPlace : Nat := Octets.words - 1

/-- Reads one item of a list of places; `rest` is what follows it in the list. -/
def range (isFields : Bool) (o rest : Octets) : Tool Range := do
  let misuse (what : Octets) : Tool Unit := Tool.misuse 1 what
  let zero : Tool Unit := misuse (if isFields then "fields are numbered from 1".toList
    else "byte/character positions are numbered from 1".toList)
  let check (n : Octets) : Tool Nat := do
    let value := Nat.ofDigitChars 10 n 0
    if value > maxPlace then
      misuse ((if isFields then "field number " else "byte/character offset ").toList
        ++ Quoting.shown n ++ " is too large".toList)
    pure value
  let complete (left : Octets) : Tool Unit := do
    if !left.isEmpty then
      misuse
        ((if isFields then "invalid field value " else "invalid byte/character position ").toList
        ++ Quoting.shown (left ++ rest))
  let first := o.takeWhile Char.isDigit
  let low ← check first
  match o.drop first.length with
  | '-' :: more =>
    if !first.isEmpty && low = 0 then zero
    let last := more.takeWhile Char.isDigit
    let high ← check last
    let left := more.drop last.length
    if left.head? = some '-' then
      misuse (if isFields then "invalid field range".toList
        else "invalid byte or character range".toList)
    complete left
    let low := if first.isEmpty then 1 else low
    if last.isEmpty then
      if first.isEmpty then misuse "invalid range with no endpoint: -".toList
      pure (low, none)
    else
      if high < low then misuse "invalid decreasing range".toList
      pure (low, some high)
  | left =>
    complete left
    if low = 0 then zero
    pure (low, some low)

/-- Cuts a list of places at commas and blanks, and gives with each item the text from there on. -/
def items : Octets → Octets → List (Octets × Octets)
  | taken, [] => [(taken.reverse, [])]
  | taken, c :: o =>
    if c = ',' || Octets.isBlank c then (taken.reverse, c :: o) :: items [] o
    else items (c :: taken) o

/-- Reads a list of places. -/
def ranges (isFields : Bool) (o : Octets) : Tool (List Range) := do
  let mut found : List Range := []
  for (item, rest) in items [] o do
    let r ← range isFields item rest
    found := r :: found
  pure found.reverse

/-- Whether a last place lies before another one. -/
def endsBefore (a b : Option Nat) : Bool :=
  match a, b with
  | some m, some n => m < n
  | some _, none => true
  | none, _ => false

/-- Puts places in order, and those together that overlap. -/
def united (rs : List Range) : List Range :=
  let sorted := rs.mergeSort fun a b => a.1 < b.1 || (a.1 = b.1 && !endsBefore b.2 a.2)
  (sorted.foldl (fun (taken : List Range) r =>
    match taken with
    | (low, high) :: more =>
      let overlaps : Bool := match high with
        | some h => r.1 ≤ h
        | none => true
      if overlaps then (low, if endsBefore high r.2 then r.2 else high) :: more
      else r :: (low, high) :: more
    | [] => [r]) []).reverse

/-- The places that are not among these. -/
def opposite : Nat → List Range → List Range
  | low, [] => [(low, none)]
  | low, (a, b) :: rest =>
    let front := if low < a then [(low, some (a - 1))] else []
    match b with
    | some b => front ++ opposite (b + 1) rest
    | none => front

def isIn (n : Nat) (rs : List Range) : Bool :=
  rs.any fun (low, high) => low ≤ n && (high.all (n ≤ ·))

structure Cut where
  ranges : List Range
  lineEnd : Char
  /-- What is put between what stood apart. -/
  between : Option Octets

/-- The characters at the places. -/
def cutCharacters (c : Cut) (line : Octets) : Octets :=
  let kept := c.ranges.map fun (low, high) =>
    (match high with
    | some h => line.take h
    | none => line).drop (low - 1)
  ((c.between).getD []).intercalate (kept.filter (!·.isEmpty))

/-- The fields at the places; a line without a separator is one field and is kept. -/
def cutFields (c : Cut) (separator : Char) (suppress : Bool) (line : Octets) : Option Octets :=
  let fields := line.splitOn separator
  if fields.length ≤ 1 then (if suppress then none else some line)
  else
    let kept := (fields.zipIdx.filter fun (_, i) => isIn (i + 1) c.ranges).map Prod.fst
    some (((c.between).getD [separator]).intercalate kept)

def cut (args : List Octets) : Tool Nat := do
  let grammar : Grammar :=
    { short := Grammar.letters "b:c:d:f:nsz"
      long := [("bytes", .required, "b"), ("characters", .required, "c"),
        ("fields", .required, "f"),
        ("delimiter", .required, "d"), ("only-delimited", .none, "s"),
        ("output-delimiter", .required, "between"), ("complement", .none, "complement"),
        ("zero-terminated", .none, "z")] ++ standardOptions }
  let (cs, operands) ← grammar.parse args
  let lists := cs.filter fun c => ["b", "c", "f"].contains c.key
  if lists.length > 1 then Tool.misuse 1 "only one list may be specified".toList
  let separator := Choice.last? cs "d"
  match separator with
  | some (_ :: _ :: _) => Tool.misuse 1 "the delimiter must be a single character".toList
  | _ => pure ()
  match lists with
  | [] => Tool.misuse 1 "you must specify a list of bytes, characters, or fields".toList
  | list :: _ =>
    let isFields := list.key = "f"
    if !isFields && separator.isSome then
      Tool.misuse 1 "an input delimiter may be specified only when operating on fields".toList
    if !isFields && Choice.has cs "s" then
      Tool.misuse 1 ("suppressing non-delimited lines makes sense\n".toList
        ++ "\tonly when operating on fields".toList)
    let rs := united (← ranges isFields (list.value.getD []))
    let c : Cut :=
      { ranges := if Choice.has cs "complement" then opposite 1 rs else rs
        lineEnd := if Choice.has cs "z" then '\x00' else '\n'
        between := Choice.last? cs "between" }
    let mark := match separator with
      | none => '\t'
      | some o => o.headD '\x00'
    forFiles operands fun o =>
      (linesOf c.lineEnd o).forM fun line =>
        if isFields then
          match cutFields c mark (Choice.has cs "s") line with
          | some kept => Tool.print (kept ++ [c.lineEnd])
          | none => pure ()
        else Tool.print (cutCharacters c line ++ [c.lineEnd])

/-! ### Side by side -/

/-- The separators that a list spells, of which each may be nothing. -/
def separators : Octets → List Octets
  | '\\' :: c :: o =>
    (match c with
    | 'n' => ['\n']
    | 't' => ['\t']
    | '0' => []
    | 'b' => ['\x08']
    | 'f' => ['\x0c']
    | 'r' => ['\r']
    | 'v' => ['\x0b']
    | c => [c]) :: separators o
  | c :: o => [c] :: separators o
  | [] => []

/-- Texts with separators between them, taken in turn. -/
def joinWith (seps : List Octets) (parts : List Octets) : Octets :=
  (parts.zipIdx.map fun (o, i) =>
    if i = 0 then o else (seps[(i - 1) % max seps.length 1]?).getD [] ++ o).flatten

/-- Rows of what stands side by side, as many as the longest column has. -/
def rowsOf (columns : List (List Octets)) : List (List Octets) :=
  (List.range ((columns.map List.length).foldl max 0)).map fun i =>
    columns.map fun column => (column[i]?).getD []

/-- The lines of standard input, dealt out to the operands that stand for it. -/
def dealt (count : Nat) (lines : List Octets) : List (List Octets) :=
  (List.range count).map fun k =>
    (lines.zipIdx.filter fun (_, i) => i % max count 1 = k).map Prod.fst

def paste (args : List Octets) : Tool Nat := do
  let grammar : Grammar :=
    { short := Grammar.letters "d:sz"
      long := [("serial", .none, "s"), ("delimiters", .required, "d"),
        ("zero-terminated", .none, "z")] ++ standardOptions }
  let (cs, operands) ← grammar.parse args
  let lineEnd := if Choice.has cs "z" then '\x00' else '\n'
  let given := (Choice.last? cs "d").getD ['\t']
  if given.getLast? = some '\\' && (given.reverse.takeWhile (· = '\\')).length % 2 = 1 then
    Tool.fail 1 ("delimiter list ends with an unescaped backslash: ".toList ++ given)
  let seps := if given.isEmpty then [[]] else separators given
  let operands := if operands.isEmpty then [['-']] else operands
  let serial := Choice.has cs "s"
  let mut status := 0
  let mut contents : List Octets := []
  for path in operands do
    match ← Tool.readOperand path with
    | .ok o => contents := o :: contents
    | .error e =>
      Tool.warnAbout (Quoting.name path) e
      if !serial && e ≠ .isDirectory then Tool.exit 1
      if e = .isDirectory then contents := [] :: contents
      status := 1
  if serial then
    for o in contents.reverse do Tool.print (joinWith seps (linesOf lineEnd o) ++ [lineEnd])
  else
    let inputs := (operands.filter (· = ['-'])).length
    let input := ((operands.zip contents.reverse).find? fun (path, _) => path = ['-']).map Prod.snd
    let mut shares := dealt inputs (linesOf lineEnd (input.getD []))
    let mut columns : List (List Octets) := []
    for (path, o) in operands.zip contents.reverse do
      if path = ['-'] then
        columns := shares.headD [] :: columns
        shares := shares.drop 1
      else columns := linesOf lineEnd o :: columns
    for row in rowsOf columns.reverse do
      Tool.print (joinWith seps row ++ [lineEnd])
  pure status

/-! ### Lines by themselves -/

def rev (args : List Octets) : Tool Nat := do
  let grammar : Grammar := { short := Grammar.letters "Vh", long := standardOptions }
  let (_, operands) ← grammar.parse args
  let mut status := 0
  for path in if operands.isEmpty then [['-']] else operands do
    match ← Tool.readOperand path with
    | .ok o =>
      for piece in Texts.pieces '\n' o do
        let isWhole := piece.getLast? = some '\n'
        let body := if isWhole then piece.dropLast else piece
        Tool.print (body.reverse ++ if isWhole then ['\n'] else [])
    | .error e =>
      Tool.warn ("cannot open ".toList ++ path ++ ": ".toList ++ e.wording)
      status := 1
  pure status

/-- The column after a character. -/
def nextColumn (bytes : Bool) (column : Nat) (c : Char) : Nat :=
  if bytes then column + 1
  else if c = '\x08' then column - 1
  else if c = '\r' then 0
  else if c = '\t' then column + 8 - column % 8
  else column + 1

/-- Breaks a line where it would become too long, at the last blank if that is asked for. The
current
piece is kept last character first. -/
def folded (width : Nat) (blanks bytes : Bool) : Nat → Nat → Octets → Octets → Octets
  | 0, _, current, _ => current.reverse
  | _ + 1, _, current, [] => current.reverse
  | n + 1, column, current, c :: o =>
    if c = '\n' then current.reverse ++ '\n' :: folded width blanks bytes n 0 [] o
    else
      let next := nextColumn bytes column c
      if next ≤ width then folded width blanks bytes n next (c :: current) o
      else
        let after := current.takeWhile (!Octets.isBlank ·)
        if blanks && after.length < current.length then
          let front := (current.drop after.length).reverse
          front ++ '\n' :: folded width blanks bytes n 0 [] (after.reverse ++ c :: o)
        else if current.isEmpty then folded width blanks bytes n next [c] o
        else current.reverse ++ '\n' :: folded width blanks bytes n 0 [] (c :: o)

def fold (args : List Octets) : Tool Nat := do
  let grammar : Grammar :=
    { short := Grammar.letters "bsw:" ++ "0123456789".toList.map fun c => (c, .none)
      long := [("bytes", .none, "b"), ("spaces", .none, "s"), ("width", .required, "w")]
        ++ standardOptions }
  let (cs, operands) ← grammar.parse args
  let digits := (cs.filter fun c => c.key.toList.all Char.isDigit).flatMap fun c => c.key.toList
  let given := (Choice.last? cs "w").getD (if digits.isEmpty then "80".toList else digits)
  let width ← match Octets.number? given with
    | some 0 =>
      Tool.fail 1 ("invalid number of columns: ".toList ++ Quoting.shown given
        ++ ": Numerical result out of range".toList)
    | some n => pure n
    | none => Tool.fail 1 ("invalid number of columns: ".toList ++ Quoting.shown given)
  forFiles operands fun o =>
    Tool.print (folded width (Choice.has cs "s") (Choice.has cs "b") (3 * o.length + 3) 0 [] o)

end MatchedLines.Host.Columns
