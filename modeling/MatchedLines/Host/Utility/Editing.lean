import MatchedLines.Host.Utility.Editing.Script
import MatchedLines.Host.Utility.Paths
import MatchedLines.Host.Utility.Source
/-!
Editing lines by a script: every line goes through all commands before the next one is read.
-/

namespace MatchedLines.Host.Editing

structure Wishes where
  quiet : Bool := false
  separate : Bool := false
  /-- Files are replaced by what comes out; this is added to the names of their old versions. -/
  inPlace : Option Octets := none
  lineEnd : Char := '\n'
  width : Nat := 70
  followsLinks : Bool := false

/-- A line, and whether it has an end. -/
structure Space where
  text : Octets := []
  ended : Bool := true

/-- Where a range of lines stands. -/
inductive Range where
  | outside
  | inside (stop : Option Nat)
  deriving DecidableEq

/-- What is printed after a line. -/
inductive Addition where
  | text (o : Octets)
  | file (path : Octets)

/-- A file that is written to. -/
structure Outlet where
  path : Octets
  /-- Nothing stands for standard output. -/
  channel : Option Nat
  lacksEnd : Bool := false

/-- The file that is being edited in place, with what has come out so far, last piece first. -/
structure Target where
  path : Octets
  pieces : List Octets := []

structure Editor where
  wishes : Wishes
  commands : Array Command
  labels : List (Octets × Nat)
  /-- The files that are still to be read. -/
  files : List Octets
  source : Option Source := none
  name : Octets := ['-']
  space : Space := {}
  hold : Space := {}
  number : Nat := 0
  replaced : Bool := false
  additions : List Addition := []
  ranges : Array Range := #[]
  outlets : List Outlet := []
  /-- The files that are read line by line. -/
  inlets : List (Octets × Source) := []
  /-- What was printed last had no end. -/
  lacksEnd : Bool := false
  target : Option Target := none
  used : Option Pattern := none
  /-- How many expressions the script was given in. -/
  expressions : Nat := 0
  failed : Bool := false

abbrev Work := StateT Editor Tool

def Work.tool {α : Type} (t : Tool α) : Work α := StateT.lift t

/-- Complains and ends the program. -/
def panic {α : Type} (o : Octets) : Work α := Work.tool (Tool.fail 4 o)

/-! ### Output -/

/-- Prints to standard output or into the file that is being edited. -/
def printOut (o : Octets) : Work Unit := do
  let s ← get
  match s.target with
  | some t => set { s with target := some { t with pieces := o :: t.pieces } }
  | none => Work.tool (Tool.print o)

/-- Ends a line that was printed without its end. -/
def endLine : Work Unit := do
  if (← get).lacksEnd then
    printOut [(← get).wishes.lineEnd]
    modify fun s => { s with lacksEnd := false }

def printText (o : Octets) : Work Unit := do
  endLine
  printOut o

def printSpace (x : Space) : Work Unit := do
  endLine
  if x.ended then printOut (x.text ++ [(← get).wishes.lineEnd])
  else
    printOut x.text
    modify fun s => { s with lacksEnd := true }

/-- Writes a line to a file. -/
def writeSpace (path : Octets) (x : Space) : Work Unit := do
  let s ← get
  match s.outlets.find? fun o => o.path = path with
  | none => pure ()
  | some outlet =>
    let e := s.wishes.lineEnd
    let o := x.text ++ if x.ended then [e] else []
    match outlet.channel with
    | none =>
      if s.target.isSome then Work.tool (Tool.print o) else printSpace x
    | some channel =>
      let o := (if outlet.lacksEnd then [e] else []) ++ o
      match ← Work.tool (Tool.act (Act.write channel o)) with
      | .ok () => pure ()
      | .error e =>
        panic ("couldn't flush <unknown>: ".toList ++ e.wording)
      modify fun s =>
        { s with outlets := s.outlets.map fun o =>
            if o.path = path then { o with lacksEnd := !x.ended } else o }

/-- Prints what is to follow a line. -/
def printAdditions : Work Unit := do
  let additions := (← get).additions.reverse
  modify fun s => { s with additions := [] }
  for a in additions do
    match a with
    | .text o => printText o
    | .file path =>
      match ← Work.tool (Tool.readFile path) with
      | .ok o => if !o.isEmpty then printText o
      | .error _ => pure ()

/-! ### Input -/

/-- The path of the old version of a file. -/
def backupPath (suffix path : Octets) : Octets :=
  if suffix.contains '*' then suffix.flatMap fun c => if c = '*' then path else [c]
  else path ++ suffix

/-- Puts a text in the place of a file. -/
def replaceFile (w : Wishes) (cwd : Nat) (path text : Octets) (f : Files) : Except Errno Files := do
  let place ← f.locate cwd path w.followsLinks
  match place.node with
  | none => throw .noEntry
  | some n =>
    let suffix := w.inPlace.getD []
    let source := (f.resolve cwd path true).toOption.getD n
    let f ←
      if suffix.isEmpty then f.unlink place
      else do f.rename place (← f.locate cwd (backupPath suffix path) false)
    let mode := ((f.node? source).map Node.mode).getD 0o644
    let made ← f.create { place with node := none } (.file (.ofOctets text)) mode
    pure made.1

/-- Ends the editing of a file in place. -/
def replaceTarget : Work Unit := do
  match (← get).target with
  | none => pure ()
  | some t =>
    modify fun s => { s with target := none, lacksEnd := false }
    let w := (← get).wishes
    let cwd ← Work.tool Tool.cwd
    match ← Work.tool (Tool.change (replaceFile w cwd t.path t.pieces.reverse.flatten)) with
    | .ok () => pure ()
    | .error e => panic ("cannot rename ".toList ++ t.path ++ ": ".toList ++ e.wording)

/-- Stops reading the current file. -/
def closeSource : Work Unit := do
  replaceTarget
  modify fun s => { s with source := none }

/-- No range holds any line yet, except those that begin before the first. -/
def freshRanges (commands : Array Command) : Array Range :=
  commands.map fun c =>
    match c.selection.first with
    | some (.line 0) => .inside none
    | _ => .outside

/-- Opens the next file. -/
def openNext : Work Unit := do
  let s ← get
  match s.files with
  | [] => pure ()
  | path :: files =>
    let isApart : Bool := s.wishes.separate || s.wishes.inPlace.isSome
    set { s with
      files, name := path
      number := if isApart then 0 else s.number
      ranges := if isApart then freshRanges s.commands else s.ranges }
    if path = ['-'] && s.wishes.inPlace.isNone then
      match (← Work.tool Tool.process).channel? 0 with
      | some channel => modify fun s => { s with source := some { channel, pieceSize := 4096 } }
      | none => panic "read error on stdin: Bad file descriptor".toList
    else
      match ← Work.tool (Tool.openOperand path) with
      | .error e =>
        Work.tool (Tool.warn ("can't read ".toList ++ path ++ ": ".toList ++ e.wording))
        modify fun s => { s with failed := true }
      | .ok channel =>
        if s.wishes.inPlace.isSome then
          let f ← Work.tool Tool.files
          let cwd ← Work.tool Tool.cwd
          let isFile : Bool := match (f.resolve cwd path true).toOption.bind f.body? with
            | some (.file _) => true
            | _ => false
          if !isFile then
            panic ("couldn't edit ".toList ++ path ++ ": not a regular file".toList)
          let parent := (f.locate cwd path false).toOption.map Place.parent
          if !(parent.any fun n => f.allows n .write) then
            panic ("couldn't open temporary file ".toList
              ++ Paths.join (Paths.parentOf path) "sedAAAAAA".toList
              ++ ": Permission denied".toList)
          modify fun s => { s with target := some { path } }
        modify fun s => { s with source := some { channel, pieceSize := 4096 } }

/-- Whether no other line follows; files are opened until one has a line. -/
def isLastLine : Nat → Work Bool
  | 0 => pure true
  | n + 1 => do
    let s ← get
    let isApart : Bool := s.wishes.separate || s.wishes.inPlace.isSome
    match s.source with
    | none =>
      if s.files.isEmpty then pure true
      else
        openNext
        isLastLine n
    | some source =>
      match ← Work.tool source.isLast with
      | .ok (false, source) =>
        set { s with source := some source }
        pure false
      | _ =>
        if isApart then pure true
        else
          closeSource
          isLastLine n

/-- Reads the next line, if there is one. -/
def readNext : Nat → Work (Option Space)
  | 0 => pure none
  | n + 1 => do
    let s ← get
    match s.source with
    | none =>
      if s.files.isEmpty then pure none
      else
        openNext
        readNext n
    | some source =>
      match ← Work.tool (source.next s.wishes.lineEnd) with
      | .error e =>
        let what := if s.name = ['-'] then "stdin".toList else s.name
        panic ("read error on ".toList ++ what ++ ": ".toList ++ e.wording)
      | .ok (none, _) =>
        closeSource
        readNext n
      | .ok (some line, source) =>
        set { s with source := some source, number := s.number + 1 }
        pure (some ⟨line.text, line.ended⟩)

/-- How many files may be opened for one line. -/
def fileLimit : Work Nat := return 2 * (← get).files.length + 4

/-- Goes on to the next line. -/
def advance (joins : Bool) : Work Bool := do
  printAdditions
  match ← readNext (← fileLimit) with
  | none => pure false
  | some x =>
    modify fun s =>
      { s with
        replaced := false
        space := if joins then ⟨s.space.text ++ s.wishes.lineEnd :: x.text, x.ended⟩ else x }
    pure true

/-! ### Selecting lines -/

/-- The expression that is meant, and from now on the one that was used last. -/
def usedPattern (p : Pattern) : Work (Pattern × Regex) := do
  let s ← get
  match p.regex, s.used with
  | some r, _ =>
    set { s with used := some p }
    pure (p, r)
  | none, some q =>
    match q.regex with
    | some r => pure (q, r)
    | none => noPattern s
  | none, none => noPattern s
where
  noPattern (s : Editor) : Work (Pattern × Regex) :=
    Work.tool (Tool.fail 1 (complaint (.expression s.expressions) 0 0
      "no previous regular expression"))

def sceneOf (p : Pattern) (r : Regex) (o : Octets) : Regex.Scene :=
  { text := o.toArray, caseless := p.caseless, byLine := p.byLine, looksBack := r.looksBack }

/-- Whether an address means the current line. -/
def isAt : Address → Work Bool
  | .line n => return (← get).number = n
  | .every first step => do
    let n := (← get).number
    pure (n ≥ first && (n - first) % step = 0)
  | .last => do isLastLine (← fileLimit)
  | .pattern p => do
    let (p, r) ← usedPattern p
    pure (Regex.find? (sceneOf p r (← get).space.text) r 0).isSome
  | .further _ | .multiple _ => pure false

def setRange (index : Nat) (r : Range) : Work Unit :=
  modify fun s => { s with ranges := s.ranges.setIfInBounds index r }

/-- Whether the line is within the range of a command, or is its one line. -/
def isWithin (index : Nat) (s : Selection) : Work Bool := do
  match s.first, s.last with
  | none, _ => pure true
  | some a, none => isAt a
  | some a, some b =>
    let number := (← get).number
    match (← get).ranges[index]?.getD .outside with
    | .outside =>
      if !(← isAt a) then pure false
      else
        match b with
        | .line n =>
          if n > number then setRange index (.inside (some n))
          pure true
        | .further n =>
          if n > 0 then setRange index (.inside (some (number + n)))
          pure true
        | .multiple n =>
          if n > 0 then
            setRange index (.inside (some ((number / n + 1) * n)))
          pure true
        | _ =>
          setRange index (.inside none)
          pure true
    | .inside (some stop) =>
      if number ≥ stop then setRange index .outside
      pure (number ≤ stop)
    | .inside none =>
      if ← isAt b then setRange index .outside
      pure true

def selects (index : Nat) (s : Selection) : Work Bool := do
  return (← isWithin index s) != s.negated

/-! ### Replacing -/

/-- How what is put in is written: all of it, and its next character. -/
structure CaseState where
  all : Option Bool := none
  next : Option Bool := none

def CaseState.change (s : CaseState) : CaseChange → CaseState
  | .upper => { s with all := some true }
  | .lower => { s with all := some false }
  | .stop => { s with all := none }
  | .nextUpper => { s with next := some true }
  | .nextLower => { s with next := some false }

def inCase (upper : Bool) (c : Char) : Char := if upper then c.toUpper else c.toLower

/-- A text as the state asks for. -/
def CaseState.apply (s : CaseState) (o : Octets) : CaseState × Octets :=
  let whole := match s.all with
    | some upper => o.map (inCase upper)
    | none => o
  match s.next, o, whole with
  | some upper, c :: _, _ :: rest => ({ s with next := none }, inCase upper c :: rest)
  | _, _, whole => (s, whole)

/-- What is put in for a match. -/
def expand (pieces : List Piece) (o : Octets) (m : Regex.Found) : Octets :=
  let step (acc : CaseState × List Octets) (p : Piece) : CaseState × List Octets :=
    let (s, found) := acc
    let put (text : Octets) : CaseState × List Octets :=
      let (s, text) := s.apply text
      (s, text :: found)
    match p with
    | .changeCase c => (s.change c, found)
    | .text text => put text
    | .group i =>
      match m.part? i with
      | some (a, b) => put ((o.drop a).take (b - a))
      | none => (s, found)
  (pieces.foldl step ({}, [])).2.reverse.flatten

/-- Replaces matches from a place on; `count` is how many there were, `last` where the latest
ended. The result is given in pieces, the last one first, unless nothing was replaced. -/
def replaceFrom (r : Regex) (scene : Regex.Scene) (o : Octets) (s : Substitution) :
    Nat → Nat → Nat → Option Nat → Bool → List Octets → Option (List Octets)
  | 0, p, _, _, done, found => if done then some (o.drop p :: found) else none
  | n + 1, p, count, last, done, found =>
    let finish : Option (List Octets) := if done then some (o.drop p :: found) else none
    match if p > o.length then none else Regex.find? scene r p with
    | none => finish
    | some m =>
      let front := (o.drop p).take (m.start - p)
      if m.length = 0 && last = some m.start then
        let found := (o.drop p).take (m.start + 1 - p) :: found
        replaceFrom r scene o s n (m.start + 1) count none done found
      else
        let count := count + 1
        let isChosen : Bool := count ≥ s.nth
        let put := if isChosen then expand s.pieces o m else (o.drop m.start).take m.length
        let found := put :: front :: found
        let done := done || isChosen
        if isChosen && !s.all then some (o.drop m.stop :: found)
        else replaceFrom r scene o s n m.stop count (some m.stop) done found

def substitute (s : Substitution) : Work Unit := do
  let (p, r) ← usedPattern s.pattern
  let x := (← get).space
  let limit := 2 * x.text.length + 4
  match replaceFrom r (sceneOf p r x.text) x.text s limit 0 0 none false [] with
  | none => pure ()
  | some pieces =>
    let x := { x with text := pieces.reverse.flatten }
    modify fun e => { e with space := x, replaced := true }
    if s.print then printSpace x
    match s.file with
    | some path => writeSpace path x
    | none => pure ()

/-! ### Commands -/

/-- A line with everything shown that could not be seen, cut to a width. -/
def visible (width : Nat) (o : Octets) : Octets :=
  let shown (c : Char) : Octets :=
    match c with
    | '\\' => ['\\', '\\']
    | '\x07' => ['\\', 'a']
    | '\x08' => ['\\', 'b']
    | '\x0c' => ['\\', 'f']
    | '\n' => ['\\', 'n']
    | '\r' => ['\\', 'r']
    | '\t' => ['\\', 't']
    | '\x0b' => ['\\', 'v']
    | c => if Quoting.isPlain c then [c] else Quoting.octal c
  let step (s : List Octets × Nat) (c : Char) : List Octets × Nat :=
    let o := shown c
    if width > 0 && s.2 + o.length > width - 1 then (o :: ['\\', '\n'] :: s.1, o.length)
    else (o :: s.1, s.2 + o.length)
  (o.foldl step ([], 0)).1.reverse.flatten ++ ['$', '\n']

/-- What comes after a command. -/
inductive Step where
  | onward
  | jump (index : Nat)
  /-- The line is done with; it is printed if lines are. -/
  | finish
  /-- The line is done with and is not printed. -/
  | drop
  /-- What is left of the line goes through the commands again. -/
  | again
  | quit (status : Nat)
  deriving DecidableEq

/-- The first line of a text with several, and whether there are more. -/
def firstOf (lineEnd : Char) (x : Space) : Space :=
  let front := x.text.takeWhile (· ≠ lineEnd)
  if front.length < x.text.length then ⟨front, true⟩ else x

def printLine : Work Unit := do
  let s ← get
  unless s.wishes.quiet do printSpace s.space

/-- Where a jump leads; without a label it leads to the end. -/
def target (s : Editor) (label : Octets) : Step :=
  if label.isEmpty then .jump s.commands.size
  else match s.labels.lookup label with
    | some index => .jump index
    | none => .onward

/-- The next line of a file that is read line by line. -/
def readFrom (path : Octets) : Work Unit := do
  let s ← get
  match s.inlets.lookup path with
  | none => pure ()
  | some source =>
    match ← Work.tool (source.next s.wishes.lineEnd) with
    | .ok (line, source) =>
      let inlets := (path, source) :: s.inlets.filter fun x => x.1 ≠ path
      let additions := match line with
        | some line => .text (line.text ++ [s.wishes.lineEnd]) :: s.additions
        | none => s.additions
      set { s with inlets, additions }
    | .error _ => pure ()

/-- Carries out a command on a line that it is for. -/
def act (index : Nat) (c : Command) : Work Step := do
  let s ← get
  let e := s.wishes.lineEnd
  let put (x : Space) : Work Step := do
    modify fun s => { s with space := x }
    pure .onward
  let keep (x : Space) : Work Step := do
    modify fun s => { s with hold := x }
    pure .onward
  let add (a : Addition) : Work Step := do
    modify fun s => { s with additions := a :: s.additions }
    pure .onward
  match c.action with
  | .opening _ | .closing | .label => pure .onward
  | .append o => add (.text o)
  | .insert o =>
    printText o
    pure .onward
  | .change o =>
    let isInside : Bool := match s.ranges[index]?.getD .outside with
      | .inside _ => c.selection.last.isSome
      | .outside => false
    unless isInside do printText o
    pure .drop
  | .jump label => pure (target s label)
  | .jumpIfReplaced label =>
    set { s with replaced := false }
    pure (if s.replaced then target s label else .onward)
  | .jumpUnlessReplaced label =>
    set { s with replaced := false }
    pure (if s.replaced then .onward else target s label)
  | .delete => pure .drop
  | .deleteFirst =>
    let front := s.space.text.takeWhile (· ≠ e)
    if front.length = s.space.text.length then pure .drop
    else
      set { s with space := { s.space with text := s.space.text.drop (front.length + 1) } }
      pure .again
  | .print =>
    printSpace s.space
    pure .onward
  | .printFirst =>
    printSpace { firstOf e s.space with ended := true }
    pure .onward
  | .number =>
    printText (Nat.toDigits 10 s.number ++ [e])
    pure .onward
  | .fileName =>
    printText (s.name ++ [e])
    pure .onward
  | .get => put s.hold
  | .getMore => put ⟨s.space.text ++ e :: s.hold.text, s.space.ended || s.hold.ended⟩
  | .hold => keep s.space
  | .holdMore => keep ⟨s.hold.text ++ e :: s.space.text, s.hold.ended || s.space.ended⟩
  | .exchange =>
    set { s with space := s.hold, hold := s.space }
    pure .onward
  | .next =>
    if ← isLastLine (← fileLimit) then
      pure .finish
    else
      printLine
      pure (if ← advance false then .onward else .finish)
  | .nextMore =>
    if ← isLastLine (← fileLimit) then
      pure .finish
    else
      pure (if ← advance true then .onward else .finish)
  | .list width =>
    printText (visible (width.getD s.wishes.width) s.space.text)
    pure .onward
  | .quit status =>
    printLine
    printAdditions
    pure (.quit status)
  | .leave status => pure (.quit status)
  | .readFile path => add (.file path)
  | .readLine path =>
    readFrom path
    pure .onward
  | .write path =>
    writeSpace path s.space
    pure .onward
  | .writeFirst path =>
    writeSpace path { firstOf e s.space with ended := true }
    pure .onward
  | .substitute sub =>
    substitute sub
    pure .onward
  | .translate pairs =>
    put { s.space with text := s.space.text.map fun c => (pairs.lookup c).getD c }
  | .empty => put { s.space with text := [] }

/-- Carries out the commands from one on; the number bounds how many. -/
def runFrom : Nat → Nat → Work Step
  | 0, _ => pure .finish
  | n + 1, index => do
    match (← get).commands[index]? with
    | none => pure .finish
    | some c =>
      let isFor ← selects index c.selection
      match c.action with
      | .opening closing => runFrom n (if isFor then index + 1 else closing + 1)
      | _ =>
        if !isFor then runFrom n (index + 1)
        else
          match ← act index c with
          | .onward => runFrom n (index + 1)
          | .jump index => runFrom n index
          | step => pure step

/-- More commands than any line goes through. -/
def maxSteps : Nat := 10000000

/-- Goes through all lines and gives the status to end with. -/
def runLines : Nat → Work Nat
  | 0 => pure 0
  | n + 1 => do
    match ← runFrom maxSteps 0 with
    | .quit status =>
      match (← get).source with
      | some source => Work.tool source.giveBack
      | none => pure ()
      closeSource
      pure status
    | .again => runLines n
    | step =>
      if step ≠ .drop then printLine
      if ← advance false then runLines n else pure 0

/-! ### Options -/

def usage : String :=
  "Usage: sed [OPTION]... \x7bscript-only-if-no-other-script\x7d [input-file]...\n\n"

def grammar : Grammar where
  short := Grammar.letters "bsnrzuEe:f:l:i::V"
  long := [("binary", .none, "b"), ("regexp-extended", .none, "r"), ("debug", .none, "debug"),
    ("in-place", .optional, "i"), ("expression", .required, "e"), ("file", .required, "f"),
    ("line-length", .required, "l"), ("null-data", .none, "z"), ("zero-terminated", .none, "z"),
    ("quiet", .none, "n"), ("posix", .none, "p"), ("silent", .none, "n"),
    ("sandbox", .none, "sandbox"), ("separate", .none, "s"), ("unbuffered", .none, "u"),
    ("version", .none, "version"), ("help", .none, "help"),
    ("follow-symlinks", .none, "follow-symlinks")]
  usage := usage.toList

/-- Carries out a reading. -/
def reading {α : Type} (r : Reading α) (s : Reader) : Tool (α × Reader) := do
  match r.run s with
  | .ok result => pure result
  | .error c => Tool.fail c.status c.text

/-- Reads the scripts that options give, and counts those that are no files. -/
def readScripts (cs : List Choice) (s : Reader) : Tool (Reader × Nat) := do
  let step (acc : Reader × Nat) (c : Choice) : Tool (Reader × Nat) := do
    let (s, n) := acc
    let value := c.value.getD []
    match c.key with
    | "e" => return ((← reading (takeScript (.expression (n + 1)) value) s).2, n + 1)
    | "f" =>
      match ← Tool.openOperand value with
      | .error e =>
        Tool.fail 1 ("couldn't open file ".toList ++ value ++ ": ".toList ++ e.wording)
      | .ok channel =>
        let content := (← Tool.act (Act.readAll channel)).toOption.getD []
        return ((← reading (takeScript (.file value) content) s).2, n)
    | _ => return (s, n)
  cs.foldlM step (s, 0)

/-- Opens a file that is written to. -/
def openOutlet (path : Octets) : Tool Outlet := do
  if path = "/dev/stdout".toList then pure { path, channel := none }
  else
    let p ← Tool.process
    let opened ←
      if path = "/dev/stderr".toList then
        pure (match p.channel? 2 with
          | some c => .ok c
          | none => .error .badDescriptor)
      else Tool.act (p.openFile path .writing)
    match opened with
    | .ok c => pure { path, channel := some c }
    | .error e => Tool.fail 4 ("couldn't open file ".toList ++ path ++ ": ".toList ++ e.wording)

/-- Opens a file that is read line by line, unless it is not there. -/
def openInlet (path : Octets) : Tool (Option (Octets × Source)) := do
  match ← Tool.openOperand (if path = "/dev/stdin".toList then ['-'] else path) with
  | .ok channel => pure (some (path, { channel }))
  | .error _ => pure none

/-- More lines than any input has. -/
def maxLines : Nat := Source.maxPieces

def sed (args : List Octets) : Tool Nat := do
  let (cs, operands) ← grammar.parse args
  let extended := Choice.has cs "r" || Choice.has cs "E"
  let reader : Reader := { extended, sandbox := Choice.has cs "sandbox" }
  let hasScript := Choice.has cs "e" || Choice.has cs "f"
  let (cs, operands) : List Choice × List Octets ←
    match hasScript, operands with
    | true, operands => pure (cs, operands)
    | false, o :: operands => pure (cs ++ [⟨"e", some o⟩], operands)
    | false, [] => grammar.explain
  let (reader, expressions) ← readScripts cs reader
  let _ ← reading takeFinish reader
  let outlets ← reader.outputs.reverse.mapM openOutlet
  let inlets ← reader.commands.toList.filterMapM fun c =>
    match c.action with
    | .readLine path => openInlet path
    | _ => pure none
  let inPlace := if Choice.has cs "i" then some ((Choice.last? cs "i").getD []) else none
  if inPlace.isSome && operands.isEmpty then Tool.fail 4 "no input files".toList
  let wishes : Wishes :=
    { quiet := reader.quiet || Choice.has cs "n"
      separate := Choice.has cs "s"
      inPlace
      lineEnd := if Choice.has cs "z" then '\x00' else '\n'
      width := ((Choice.last? cs "l").bind Octets.number?).getD 70
      followsLinks := Choice.has cs "follow-symlinks" }
  let editor : Editor :=
    { wishes, commands := reader.commands, labels := reader.labels
      files := if operands.isEmpty then [['-']] else operands
      ranges := freshRanges reader.commands
      outlets, inlets, expressions }
  let work : Work Nat := do
    if ← advance false then runLines maxLines else pure 0
  let (status, editor) ← work.run editor
  if ((← Tool.process).channel? 1).isNone then
    Tool.act (modify fun m => { m with held := [] })
    Tool.fail 4 "couldn't close stdout: Bad file descriptor".toList
  match ← Tool.flush with
  | .ok () => pure (if status = 0 && editor.failed then 2 else status)
  | .error e => Tool.fail 4 ("couldn't flush stdout: ".toList ++ e.wording)

end MatchedLines.Host.Editing
