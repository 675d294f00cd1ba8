import MatchedLines.Host.Utility.Basic
/-!
Programs that pass texts on: whole, in part, or as counts.
-/

namespace MatchedLines.Host.Texts

/-! ### Whole files -/

/-- How the characters of a text are made visible. -/
structure Visible where
  numbers : Bool := false
  numbersFilled : Bool := false
  ends : Bool := false
  squeeze : Bool := false
  tabs : Bool := false
  others : Bool := false
  deriving DecidableEq

/-- Where the numbering of lines stands. -/
structure Numbering where
  number : Nat := 0
  atStart : Bool := true
  blanks : Nat := 0

/-- A character below 128 in a form that can be shown. -/
def visibleLow (c : Char) : Octets :=
  if c < ' ' then ['^', Char.ofNat (c.toNat + 64)] else if c = '\x7f' then ['^', '?'] else [c]

def visibleChar (v : Visible) (c : Char) : Octets :=
  if c = '\t' then (if v.tabs then ['^', 'I'] else [c])
  else if !v.others then [c]
  else if c.toNat < 128 then visibleLow c
  else 'M' :: '-' :: visibleLow (Char.ofNat (c.toNat - 128))

/-- A number in six places, as it stands before a line. -/
def numberText (n : Nat) : Octets :=
  let digits := Nat.toDigits 10 n
  List.replicate (6 - digits.length) ' ' ++ digits ++ ['\t']

/-- The text in its visible form, in pieces, last one first. -/
def visible (v : Visible) : Octets → Numbering → List Octets → List Octets × Numbering
  | [], s, taken => (taken, s)
  | c :: o, s, taken =>
    if c = '\n' then
      let blanks := if s.atStart then s.blanks + 1 else 0
      if v.squeeze && s.atStart && blanks > 1 then visible v o { s with blanks } taken
      else
        let numbered := s.atStart && v.numbers && !v.numbersFilled
        let number := if numbered then s.number + 1 else s.number
        let front := if numbered then numberText number else []
        let mark := if v.ends then ['$'] else []
        visible v o { number, atStart := true, blanks } ((front ++ mark ++ ['\n']) :: taken)
    else
      let numbered := s.atStart && (v.numbers || v.numbersFilled)
      let number := if numbered then s.number + 1 else s.number
      let front := if numbered then numberText number else []
      let isReturn := c = '\r' && v.ends && o.head? = some '\n'
      let shown := if isReturn then ['^', 'M'] else visibleChar v c
      visible v o { number, atStart := false, blanks := 0 } ((front ++ shown) :: taken)

def catGrammar : Grammar where
  short := Grammar.letters "benstuvAET"
  long := [("number-nonblank", .none, "b"), ("number", .none, "n"), ("squeeze-blank", .none, "s"),
    ("show-nonprinting", .none, "v"), ("show-ends", .none, "E"), ("show-tabs", .none, "T"),
    ("show-all", .none, "A"), ("help", .none, "help"), ("version", .none, "version")]

/-- Whether a file is the one that standard output goes to, so that copying it would never end. -/
def isOutput (channel : Nat) : Tool Bool := do
  let m ← Tool.act get
  let p ← Tool.process
  match m.channels[channel]?, (p.channel? 1).bind (m.channels[·]?) with
  | some (.file n _ _ offset _), some (.file o _ append outOffset _) =>
    pure (n = o && offset < m.files.size n && (append || outOffset > offset))
  | _, _ => pure false

def cat (args : List Octets) : Tool Nat := do
  let (cs, operands) ← catGrammar.parse args
  let has (keys : List String) : Bool := keys.any (Choice.has cs)
  let v : Visible :=
    { numbers := has ["n", "b"], numbersFilled := has ["b"], ends := has ["e", "A", "E"]
      squeeze := has ["s"], tabs := has ["t", "A", "T"], others := has ["e", "t", "v", "A"] }
  let p ← Tool.process
  if (p.channel? 1).isNone then
    Tool.fail 1 "standard output: Bad file descriptor".toList
  let mut status := 0
  let mut numbering : Numbering := {}
  for path in if operands.isEmpty then [['-']] else operands do
    match ← Tool.openOperand path with
    | .error e =>
      Tool.warnAbout (Quoting.name path) e
      status := 1
    | .ok channel =>
      if ← isOutput channel then
        Tool.warn (Quoting.name path ++ ": input file is output file".toList)
        status := 1
      else
        match ← Tool.act (Act.readAll channel) with
        | .error e =>
          Tool.warnAbout (Quoting.name path) e
          status := 1
        | .ok o =>
          let (shown, after) :=
            if v = {} then ([o], numbering) else visible v o numbering []
          numbering := after
          let shown := shown.reverse.flatten
          unless shown.isEmpty do
            match ← Tool.act (p.write 1 shown) with
            | .ok () => pure ()
            | .error e => Tool.fail 1 ("write error: ".toList ++ e.wording)
  if (p.channel? 0).isNone && (operands.isEmpty || operands.contains ['-']) then
    Tool.fail 1 "closing standard input: Bad file descriptor".toList
  pure status

def tee (args : List Octets) : Tool Nat := do
  let grammar : Grammar :=
    { short := Grammar.letters "aip"
      long := [("append", .none, "a"), ("ignore-interrupts", .none, "i"),
        ("output-error", .optional, "p"), ("help", .none, "help"),
        ("version", .none, "version")] }
  let (cs, operands) ← grammar.parse args
  let p ← Tool.process
  let how : Opening := if Choice.has cs "a" then .appending else .writing
  let mut status := 0
  let mut channels : List (Octets × Nat) := []
  for path in operands do
    match ← Tool.act (p.openFile path how) with
    | .ok c => channels := (path, c) :: channels
    | .error e =>
      Tool.warnAbout (Quoting.name path) e
      status := 1
  match ← Tool.readInput with
  | .error e =>
    Tool.warn ("read error: ".toList ++ e.wording)
    pure 1
  | .ok o =>
    unless o.isEmpty do
      match ← Tool.act (p.write 1 o) with
      | .ok () => pure ()
      | .error e =>
        Tool.warn ("'standard output': ".toList ++ e.wording)
        status := 1
      for (path, c) in channels.reverse do
        match ← Tool.act (Act.write c o) with
        | .ok () => pure ()
        | .error e =>
          Tool.warnAbout (Quoting.name path) e
          status := 1
    pure status

/-! ### The front -/

/-- How long the first lines are, as many as asked for. -/
def frontLength (lineEnd : Char) : Nat → Octets → Nat → Nat
  | 0, _, taken => taken
  | _ + 1, [], taken => taken
  | n + 1, c :: o, taken =>
    if c = lineEnd then frontLength lineEnd n o (taken + 1)
    else frontLength lineEnd (n + 1) o (taken + 1)

/-- The lines of a text with their ends. -/
def pieces (lineEnd : Char) (o : Octets) : List Octets :=
  let parts := o.splitOn lineEnd
  match parts.reverse with
  | [] => []
  | last :: front =>
    front.reverse.map (· ++ [lineEnd]) ++ if last.isEmpty then [] else [last]

/-- A part at the front or the end: so many lines or bytes. -/
structure Part where
  bytes : Bool := false
  count : Nat := 10
  /-- Counted from the other end. -/
  opposite : Bool := false
  lineEnd : Char := '\n'

/-- A number of lines or bytes with the sign that may stand before it. -/
def count (what : String) (o : Octets) : Tool Nat := do
  match Numeral.scaled? o with
  | some n =>
    if n ≥ Octets.words then
      Tool.fail 1 ("invalid number of ".toList ++ what.toList ++ ": ".toList ++ Quoting.shown o
        ++ ": Value too large for defined data type".toList)
    else pure n
  | none =>
    Tool.fail 1 ("invalid number of ".toList ++ what.toList ++ ": ".toList ++ Quoting.shown o)

def whatOf (bytes : Bool) : String := if bytes then "bytes" else "lines"

/-- The header before the text of one file among several. -/
def header (first : Bool) (path : Octets) : Octets :=
  let shown := if path = ['-'] then "standard input".toList else path
  (if first then [] else ['\n']) ++ "==> ".toList ++ shown ++ " <==\n".toList

/-- An old way of giving the number first, with letters after it. -/
def oldHead (o : Octets) : Option (List Octets) :=
  match o with
  | '-' :: rest =>
    let digits := rest.takeWhile Char.isDigit
    let letters := rest.drop digits.length
    if digits.isEmpty || !letters.all fun c => "bcklmqvz".toList.contains c then none
    else
      let unit := (letters.filter fun c => "bkm".toList.contains c).getLast?
      let bytes := letters.any fun c => "bckm".toList.contains c
      let bytes := if (letters.filter fun c => "bckml".toList.contains c).getLast? = some 'l'
        then false else bytes
      let number := digits ++ unit.toList
      some ([(if bytes then "-c".toList else "-n".toList) ++ number]
        ++ (letters.filter fun c => "qvz".toList.contains c).map fun c => ['-', c])
  | _ => none

/-- What a header is shown for: files among several, all, or none. -/
def showsHeaders (cs : List Choice) (operands : List Octets) : Bool :=
  match Choice.latest? cs ["q", "v"] with
  | some "v" => true
  | some _ => false
  | none => operands.length > 1

def head (args : List Octets) : Tool Nat := do
  let args := match args with
    | o :: rest => (oldHead o).getD [o] ++ rest
    | [] => []
  let grammar : Grammar :=
    { short := Grammar.letters "c:n:qvz" ++ ['0', '1', '2', '3', '4', '5', '6', '7', '8', '9'].map
        fun c => (c, .none)
      long := [("bytes", .required, "c"), ("lines", .required, "n"), ("quiet", .none, "q"),
        ("silent", .none, "q"), ("verbose", .none, "v"), ("zero-terminated", .none, "z"),
        ("help", .none, "help"), ("version", .none, "version")] }
  let (cs, operands) ← grammar.parse args
  let mut part : Part := { lineEnd := if Choice.has cs "z" then '\x00' else '\n' }
  for c in cs do
    if c.key = "c" || c.key = "n" then
      let bytes := c.key = "c"
      let o := c.value.getD []
      let (opposite, digits) : Bool × Octets :=
        match o with
        | '-' :: rest => (true, rest)
        | '+' :: rest => (false, rest)
        | o => (false, o)
      let n ← count (whatOf bytes) digits
      part := { part with bytes, opposite, count := n }
    else if c.key.toList.all Char.isDigit then
      Tool.misuse 1 ("invalid trailing option -- ".toList ++ c.key.toList)
  let headers := showsHeaders cs operands
  let mut status := 0
  let mut first := true
  for path in if operands.isEmpty then [['-']] else operands do
    match ← Tool.openOperand path with
    | .error e =>
      Tool.warn ("cannot open ".toList ++ Quoting.quoted path ++ " for reading: ".toList
        ++ e.wording)
      status := 1
    | .ok channel =>
      if headers then Tool.print (header first path)
      first := false
      let cut (o : Octets) : Nat :=
        if part.opposite then o.length
        else if part.bytes then part.count
        else frontLength part.lineEnd part.count o 0
      let seekable ← Tool.isSeekable channel
      let consumed (o : Octets) : Nat :=
        if seekable || part.bytes || part.count = 0 then cut o else (cut o + 8191) / 8192 * 8192
      match ← Tool.act (Act.take channel consumed) with
      | .error e =>
        let shown := if path = ['-'] then "standard input".toList else path
        Tool.warn ("error reading ".toList ++ Quoting.quoted shown ++ ": ".toList ++ e.wording)
        status := 1
      | .ok o =>
        if part.opposite then
          if part.bytes then Tool.print (o.take (o.length - part.count))
          else
            let ps := pieces part.lineEnd o
            Tool.print (ps.take (ps.length - part.count)).flatten
        else Tool.print (o.take (cut o))
  pure status

/-! ### The end -/

/-- An old way of giving the number first, where there is at most one file. -/
def oldTail (args : List Octets) : Option (List Octets) :=
  match args with
  | (sign :: rest) :: more =>
    let files := match more with
      | ['-', '-'] :: more => more
      | more => more
    let fits := files.length ≤ 1
      && (more.isEmpty || !(more.head?.any fun o => o.head? = some '-' && o.length > 1)
        || more.head? = some ['-', '-'])
    let digits := rest.takeWhile Char.isDigit
    let letters := rest.drop digits.length
    if !fits || !(sign = '+' || sign = '-') then none
    else if sign = '-' && digits.isEmpty then none
    else
      let (unit, letters) : Char × Octets :=
        match letters with
        | c :: rest => if c = 'b' || c = 'c' || c = 'l' then (c, rest) else ('l', c :: rest)
        | [] => ('l', [])
      if !(letters = [] || letters = ['f']) then none
      else if sign = '+' && digits.isEmpty && unit = 'l' && letters = [] && rest ≠ [] then none
      else
        let n := if digits.isEmpty then "10".toList else digits
        let n := if unit = 'b' then n ++ ['b'] else n
        let front := if unit = 'l' then "-n".toList else "-c".toList
        some ((front ++ (if sign = '+' then '+' :: n else n)) :: more)
  | _ => none

def tail (args : List Octets) : Tool Nat := do
  let args := (oldTail args).getD args
  let grammar : Grammar :=
    { short := Grammar.letters "c:fFn:qs:vz"
        ++ ['0', '1', '2', '3', '4', '5', '6', '7', '8', '9'].map fun c => (c, .none)
      long := [("bytes", .required, "c"), ("follow", .optional, "f"), ("lines", .required, "n"),
        ("max-unchanged-stats", .required, "max"), ("pid", .required, "pid"),
        ("quiet", .none, "q"), ("retry", .none, "retry"), ("silent", .none, "q"),
        ("sleep-interval", .required, "s"), ("verbose", .none, "v"),
        ("zero-terminated", .none, "z"), ("help", .none, "help"),
        ("version", .none, "version")] }
  let (cs, operands) ← grammar.parse args
  let mut part : Part := { lineEnd := if Choice.has cs "z" then '\x00' else '\n' }
  for c in cs do
    if c.key = "c" || c.key = "n" then
      let bytes := c.key = "c"
      let (opposite, digits) : Bool × Octets :=
        match c.value.getD [] with
        | '+' :: rest => (true, rest)
        | '-' :: rest => (false, rest)
        | o => (false, o)
      let n ← count (whatOf bytes) digits
      part := { part with bytes, opposite, count := n }
    else if c.key.toList.all Char.isDigit then
      Tool.fail 1 ("option used in invalid context -- ".toList ++ c.key.toList)
  let headers := showsHeaders cs operands
  let mut status := 0
  let mut first := true
  for path in if operands.isEmpty then [['-']] else operands do
    match ← Tool.openOperand path with
    | .error e =>
      Tool.warn ("cannot open ".toList ++ Quoting.quoted path ++ " for reading: ".toList
        ++ e.wording)
      status := 1
    | .ok channel =>
      if headers then Tool.print (header first path)
      first := false
      match ← Tool.act (Act.readAll channel) with
      | .error e =>
        let shown := if path = ['-'] then "standard input".toList else path
        Tool.warn ("error reading ".toList ++ Quoting.quoted shown ++ ": ".toList ++ e.wording)
        status := 1
      | .ok o =>
        if part.bytes then
          Tool.print
            (if part.opposite then o.drop (part.count - 1) else o.drop (o.length - part.count))
        else
          let ps := pieces part.lineEnd o
          Tool.print (if part.opposite then (ps.drop (part.count - 1)).flatten
            else (ps.drop (ps.length - part.count)).flatten)
  pure status

/-! ### Counts -/

structure Counts where
  lines : Nat := 0
  words : Nat := 0
  chars : Nat := 0
  bytes : Nat := 0
  longest : Nat := 0

namespace Counts

def add (a b : Counts) : Counts :=
  { lines := a.lines + b.lines, words := a.words + b.words, chars := a.chars + b.chars
    bytes := a.bytes + b.bytes, longest := max a.longest b.longest }

/-- Counts what is in a text; only what can be shown makes up a word. -/
def ofText (o : Octets) : Counts :=
  let step (s : Counts × Bool × Nat) (c : Char) : Counts × Bool × Nat :=
    let (k, inWord, column) := s
    let k := { k with bytes := k.bytes + 1, chars := k.chars + 1 }
    if c = '\n' then ({ k with lines := k.lines + 1, longest := max k.longest column }, false, 0)
    else if c = '\r' || c = '\x0c' then ({ k with longest := max k.longest column }, false, 0)
    else if c = '\t' then (k, false, column + 8 - column % 8)
    else if c = ' ' then (k, false, column + 1)
    else if c = '\x0b' then (k, false, column)
    else
      let k := if inWord then k else { k with words := k.words + 1 }
      (k, true, if ' ' < c && c ≤ '~' then column + 1 else column)
  let (k, _, column) := o.foldl step ({}, false, 0)
  { k with longest := max k.longest column }

end Counts

/-- What of the counts is shown. -/
def shownCounts (cs : List Choice) : List (Counts → Nat) :=
  let all : List (String × (Counts → Nat)) :=
    [("l", Counts.lines), ("w", Counts.words), ("m", Counts.chars), ("c", Counts.bytes),
      ("L", Counts.longest)]
  let asked := all.filter fun (key, _) => Choice.has cs key
  if asked.isEmpty then [Counts.lines, Counts.words, Counts.bytes] else asked.map Prod.snd

def countLine (width : Nat) (fields : List (Counts → Nat)) (k : Counts) (name : Octets) : Octets :=
  let numbers := fields.map fun f =>
    let digits := Nat.toDigits 10 (f k)
    List.replicate (width - digits.length) ' ' ++ digits
  [' '].intercalate numbers ++ (if name.isEmpty then [] else ' ' :: name) ++ ['\n']

/-- How wide the numbers are: as the sizes of the files ask for, or seven where these are not
known. -/
def countWidth (fields : Nat) (paths : List Octets) : Tool Nat := do
  let p ← Tool.process
  let f ← Tool.files
  let m ← Tool.act get
  let sizeOf (path : Octets) : Option (Option Nat) :=
    if path = ['-'] then
      match (p.channel? 0).bind (m.channels[·]?) with
      | some (.file n _ _ _ _) => if f.isDirectory n then some none else some (some (f.size n))
      | some _ => some none
      | none => none
    else match f.resolve p.cwd path true with
      | .ok n =>
        match f.body? n with
        | some (.file c) => some (some c.size)
        | _ => some none
      | .error _ => none
  if paths.length ≤ 1 && fields = 1 then pure 1
  else
    let sizes := paths.filterMap sizeOf
    let total := (sizes.filterMap id).foldl (· + ·) 0
    let width := (Nat.toDigits 10 total).length
    pure (if sizes.contains none then max width 7 else width)

def wc (args : List Octets) : Tool Nat := do
  let grammar : Grammar :=
    { short := Grammar.letters "clmwL"
      long := [("bytes", .none, "c"), ("chars", .none, "m"), ("lines", .none, "l"),
        ("words", .none, "w"), ("debug", .none, "debug"), ("files0-from", .required, "files0"),
        ("max-line-length", .none, "L"), ("total", .required, "total"), ("help", .none, "help"),
        ("version", .none, "version")] }
  let (cs, operands) ← grammar.parse args
  let totals := (Choice.last? cs "total").getD "auto".toList
  let fields := shownCounts cs
  let (operands, status) : List Octets × Nat ←
    match Choice.last? cs "files0" with
    | none => pure (operands, 0)
    | some list =>
      match ← Tool.readOperand list with
      | .error e =>
        Tool.fail 1 ("cannot open ".toList ++ Quoting.quoted list ++ " for reading: ".toList
          ++ e.wording)
      | .ok o =>
        pure ((pieces '\x00' o).map fun p => if p.getLast? = some '\x00' then p.dropLast else p, 0)
  let mut status := status
  let mut total : Counts := {}
  let paths := if operands.isEmpty then [['-']] else operands
  let width ←
    if totals = "only".toList then pure 1 else countWidth fields.length paths
  for path in paths do
    if path.isEmpty then
      Tool.warn "invalid zero-length file name".toList
      status := 1
    else
      match ← Tool.openOperand path with
      | .error e =>
        Tool.warnAbout (Quoting.name path) e
        status := 1
      | .ok channel =>
        let outcome ← Tool.act (Act.readAll channel)
        let k ← match outcome with
          | .ok o => pure (Counts.ofText o)
          | .error e =>
            Tool.warnAbout (Quoting.name path) e
            status := 1
            pure {}
        total := total.add k
        let shown := if operands.isEmpty then [] else
          if path.contains '\n' then Quoting.name path else path
        if totals ≠ "only".toList then Tool.print (countLine width fields k shown)
  if totals = "always".toList || (totals = "auto".toList && operands.length > 1) then
    Tool.print (countLine width fields total "total".toList)
  else if totals = "only".toList then Tool.print (countLine width fields total [])
  pure status

/-- A text cut into records, the last of them first. The separator is looked for from the end on and
belongs to the record before it, or to the one after it. Both texts are given last character
first; `current` is the record under way. -/
def records (separator : Octets) (before : Bool) : Nat → Octets → Octets → List Octets
  | 0, current, o => [o.reverse ++ current]
  | n + 1, current, o =>
    match o with
    | [] => [current]
    | c :: rest =>
      if separator.isPrefixOf o then
        let mark := separator.reverse
        let o := o.drop separator.length
        if before then (mark ++ current) :: records separator before n [] o
        else current :: records separator before n mark o
      else records separator before n (c :: current) rest

def tac (args : List Octets) : Tool Nat := do
  let grammar : Grammar :=
    { short := Grammar.letters "brs:"
      long := [("before", .none, "b"), ("regex", .none, "r"), ("separator", .required, "s"),
        ("help", .none, "help"), ("version", .none, "version")] }
  let (cs, operands) ← grammar.parse args
  let given := (Choice.last? cs "s").getD ['\n']
  let separator := if given.isEmpty then ['\x00'] else given.reverse
  let mut status := 0
  for path in if operands.isEmpty then [['-']] else operands do
    match ← Tool.openOperand path with
    | .error e =>
      Tool.warn ("failed to open ".toList ++ Quoting.quoted path ++ " for reading: ".toList
        ++ e.wording)
      status := 1
    | .ok channel =>
      match ← Tool.act (Act.readAll channel) with
      | .ok o =>
        Tool.print (records separator (Choice.has cs "b") (o.length + 1) [] o.reverse).flatten
      | .error e =>
        let e := if e = .isDirectory then .invalidArgument else e
        Tool.warn (Quoting.name path ++ ": read error: ".toList ++ e.wording)
        status := 1
  pure status

end MatchedLines.Host.Texts
