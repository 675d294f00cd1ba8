import MatchedLines.Host.Regex.Reading
/-!
Scripts for the editing of lines: commands, each for the lines that its addresses select, and how
they are read. A complaint names the place up to which a script was read.
-/

namespace MatchedLines.Host.Editing

/-- A regular expression; without one the expression that was used last is meant. -/
structure Pattern where
  regex : Option Regex
  caseless : Bool := false
  byLine : Bool := false

inductive Address where
  | line (n : Nat)
  /-- Each `step` lines from a first one on. -/
  | every (first step : Nat)
  | last
  | pattern (p : Pattern)
  /-- So many lines further; only at the end of a range. -/
  | further (n : Nat)
  /-- The next multiple of a number; only at the end of a range. -/
  | multiple (n : Nat)

/-- The lines that a command is for. -/
structure Selection where
  first : Option Address := none
  last : Option Address := none
  negated : Bool := false

/-- How the case of what is put in changes. -/
inductive CaseChange where
  | upper
  | lower
  | stop
  | nextUpper
  | nextLower
  deriving DecidableEq

/-- A part of what is put in for a match. -/
inductive Piece where
  | text (o : Octets)
  | group (index : Nat)
  | changeCase (c : CaseChange)

structure Substitution where
  pattern : Pattern
  pieces : List Piece
  all : Bool := false
  /-- The first match that is replaced. -/
  nth : Nat := 1
  print : Bool := false
  file : Option Octets := none

inductive Action where
  /-- Goes on behind the closing brace with this index, for lines that are not selected. -/
  | opening (closing : Nat)
  | closing
  | label
  | append (o : Octets)
  | insert (o : Octets)
  | change (o : Octets)
  | jump (label : Octets)
  | jumpIfReplaced (label : Octets)
  | jumpUnlessReplaced (label : Octets)
  | delete
  | deleteFirst
  | print
  | printFirst
  | number
  | fileName
  | get
  | getMore
  | hold
  | holdMore
  | exchange
  | next
  | nextMore
  | list (width : Option Nat)
  | quit (status : Nat)
  | leave (status : Nat)
  | readFile (path : Octets)
  | readLine (path : Octets)
  | write (path : Octets)
  | writeFirst (path : Octets)
  | substitute (s : Substitution)
  | translate (pairs : List (Char × Char))
  | empty

structure Command where
  selection : Selection
  action : Action

/-! ### Reading -/

/-- Where a script comes from. -/
inductive Origin where
  | expression (number : Nat)
  | file (name : Octets)
  deriving DecidableEq

/-- Why a script cannot be used. -/
structure Complaint where
  text : Octets
  status : Nat := 1

/-- How far scripts have been read. -/
structure Reader where
  extended : Bool := false
  sandbox : Bool := false
  origin : Origin := .expression 0
  rest : Octets := []
  /-- How many characters of this script were taken. -/
  used : Nat := 0
  line : Nat := 0
  commands : Array Command := #[]
  /-- Braces that are still open, the latest first, with the origin and line of each. -/
  blocks : List (Nat × Origin × Nat) := []
  labels : List (Octets × Nat) := []
  /-- A command whose text stands in the next script. -/
  pending : Option Nat := none
  /-- Lines are not printed unless a command says so. -/
  quiet : Bool := false
  /-- This is the first script. -/
  isFirst : Bool := true
  /-- All files that are written to, the latest first. -/
  outputs : List Octets := []

abbrev Reading := StateT Reader (Except Complaint)

/-- The text of a complaint about a place. -/
def complaint (origin : Origin) (used line : Nat) (why : String) : Octets :=
  match origin with
  | .expression n =>
    "-e expression #".toList ++ Nat.toDigits 10 n ++ ", char ".toList ++ Nat.toDigits 10 used
      ++ ": ".toList ++ why.toList
  | .file name =>
    "file ".toList ++ name ++ " line ".toList ++ Nat.toDigits 10 line ++ ": ".toList ++ why.toList

/-- Gives up at the place that was reached. -/
def fail {α : Type} (why : String) : Reading α := do
  let s ← get
  throw { text := complaint s.origin s.used s.line why }

/-- Takes one character. -/
def take : Reading (Option Char) := do
  let s ← get
  match s.rest with
  | [] => pure none
  | c :: rest =>
    set { s with rest, used := s.used + 1, line := if c = '\n' then s.line + 1 else s.line }
    pure (some c)

/-- Puts a character back. -/
def untake : Option Char → Reading Unit
  | none => pure ()
  | some c => modify fun s =>
    { s with
      rest := c :: s.rest, used := s.used - 1, line := if c = '\n' then s.line - 1 else s.line }

/-- The same for the first character that is no blank. -/
def takeNonBlank : Reading (Option Char) := do
  let s ← get
  let blanks := (s.rest.takeWhile Octets.isBlank).length
  set { s with rest := s.rest.drop blanks, used := s.used + blanks }
  take

def isSpace (c : Char) : Bool := Letters.isIn Letters.spaceRanges c

/-- Takes the digits that go on after a first character. -/
def takeNumber (first : Option Char) : Reading Nat := do
  match first with
  | some c =>
    if !c.isDigit then
      untake first
      pure 0
    else
      let s ← get
      let digits := s.rest.takeWhile Char.isDigit
      set { s with rest := s.rest.drop digits.length, used := s.used + digits.length }
      pure (Nat.ofDigitChars 10 (c :: digits) 0)
  | none => pure 0

/-- The end of a command. -/
def takeEnd : Reading Unit := do
  match ← takeNonBlank with
  | some '\x7d' => untake (some '\x7d')
  | some '#' => untake (some '#')
  | none | some '\n' | some ';' => pure ()
  | some _ => fail "extra characters after command"

/-! ### Escapes -/

def digitValue? (base : Nat) (c : Char) : Option Nat :=
  let n := c.toNat
  let v := if c.isDigit then some (n - 48)
    else if 'a' ≤ c && c ≤ 'f' then some (n - 87)
    else if 'A' ≤ c && c ≤ 'F' then some (n - 55)
    else none
  v.filter (· < base)

/-- A character by its number: the digits at the front, as far as they count. -/
def numbered (base digits : Nat) (o : Octets) : Option (Char × Octets) :=
  let ds := (o.take digits).takeWhile fun c => (digitValue? base c).isSome
  if ds.isEmpty then none
  else
    let n := ds.foldl (fun n c => n * base + (digitValue? base c).getD 0) 0
    some (Octets.byte n, o.drop ds.length)

/-- The character that an escape stands for everywhere, and what follows it. The text begins
behind the backslash. -/
def escape? : Octets → Option (Char × Octets)
  | 'a' :: o => some ('\x07', o)
  | 'f' :: o => some ('\x0c', o)
  | 'r' :: o => some ('\r', o)
  | 't' :: o => some ('\t', o)
  | 'v' :: o => some ('\x0b', o)
  | 'c' :: c :: o => some (Octets.byte (c.toUpper.toNat ^^^ 64), o)
  | 'd' :: o => numbered 10 3 o
  | 'o' :: o => numbered 8 3 o
  | 'x' :: o => numbered 16 2 o
  | _ => none

/-- A text without its backslashes. -/
def plainText : Nat → Octets → Octets
  | 0, _ => []
  | _ + 1, [] => []
  | n + 1, '\\' :: o =>
    match escape? o with
    | some (c, rest) => c :: plainText n rest
    | none =>
      match o with
      | 'n' :: rest => '\n' :: plainText n rest
      | c :: rest => c :: plainText n rest
      | [] => []
  | n + 1, c :: o => c :: plainText n o

/-- A regular expression in which escapes for single characters are replaced by these. -/
def plainPattern (extended : Bool) : Nat → Octets → Octets
  | 0, _ => []
  | _ + 1, [] => []
  | n + 1, '\\' :: o =>
    match escape? o with
    | some (c, rest) =>
      let special := "$*./[\\]^".toList ++ if extended then "+?()\x7b|\x7d".toList else []
      (if special.contains c then ['\\', c] else [c])
        ++ plainPattern extended n rest
    | none =>
      match o with
      | c :: rest => '\\' :: c :: plainPattern extended n rest
      | [] => ['\\']
  | n + 1, c :: o => c :: plainPattern extended n o

/-! ### Texts between marks -/

/-- How far the members of a set in brackets reach, with the bracket that closes it. -/
def membersLength : Nat → Octets → Option Nat
  | 0, _ => none
  | _ + 1, [] => none
  | _ + 1, ']' :: _ => some 1
  | n + 1, '[' :: c :: o =>
    if c = ':' || c = '.' || c = '=' then
      let name := o.takeWhile fun d => d ≠ ']' && d ≠ '\n'
      match o.drop name.length with
      | ']' :: rest =>
        if name.getLast? = some c then (membersLength n rest).map (· + name.length + 3)
        else (membersLength n o).map (· + 2)
      | _ => none
    else (membersLength n (c :: o)).map (· + 1)
  | n + 1, c :: o => if c = '\n' then none else (membersLength n o).map (· + 1)

/-- How far a set reaches behind its opening bracket. A closing bracket that comes first belongs to
the set. -/
def setLength (o : Octets) : Option Nat :=
  let front := if o.head? = some '^' then 1 else 0
  let front := if (o.drop front).head? = some ']' then front + 1 else front
  (membersLength (o.length + 1) (o.drop front)).map (· + front)

/-- What stands in brackets, with its line feeds. -/
def plainSet : Octets → Octets
  | '\\' :: 'n' :: o => '\n' :: plainSet o
  | c :: o => c :: plainSet o
  | [] => []

/-- Takes a text up to a mark; what is found stands in reverse. In a pattern the mark means itself
where it stands in brackets. -/
def takeMarked (mark : Char) (isPattern : Bool) : Nat → Octets → Reading (Option Octets)
  | 0, _ => pure none
  | n + 1, found => do
    match ← take with
    | none => pure none
    | some c =>
      if c = mark then pure (some found.reverse)
      else if c = '\n' then
        untake (some c)
        pure none
      else if c = '[' && isPattern then
        let s ← get
        let length := (setLength s.rest).getD (s.rest.takeWhile (· ≠ '\n')).length
        let inside := s.rest.take length
        set { s with rest := s.rest.drop length, used := s.used + length }
        takeMarked mark isPattern n ((plainSet inside).reverse ++ c :: found)
      else if c = '\\' then
        match ← take with
        | none => pure none
        | some d =>
          let kept : Octets :=
            if d = mark then (if d = '&' && !isPattern then [d, c] else [d])
            else if d = 'n' && isPattern then ['\n']
            else if d = '\n' && isPattern then [d]
            else [d, c]
          takeMarked mark isPattern n (kept ++ found)
      else takeMarked mark isPattern n (c :: found)

/-- Takes a text up to a mark from where the reading stands. -/
def takeText (mark : Char) (isPattern : Bool) : Reading (Option Octets) := do
  takeMarked mark isPattern ((← get).rest.length + 1) []

/-- Reads a regular expression; `groups` is the highest group that is referred to. -/
def readPattern (o : Octets) (caseless byLine : Bool) (groups : Nat) : Reading Pattern := do
  let s ← get
  if o.isEmpty then
    if caseless || byLine then fail "cannot specify modifiers on empty regexp"
    pure { regex := none }
  else
    match Regex.read { extended := s.extended } caseless (plainPattern s.extended (o.length + 1) o)
      with
    | .error problem => fail problem.message
    | .ok read =>
      if read.groups < groups then
        fail ("invalid reference \\" ++ toString groups ++ " on \x60s' command's RHS")
      pure { regex := some read.regex, caseless, byLine }

/-! ### Addresses -/

/-- The letters behind an expression: whether case and lines count. -/
def takeFlags : Nat → Bool → Bool → Reading (Bool × Bool)
  | 0, i, m => pure (i, m)
  | n + 1, i, m => do
    match ← takeNonBlank with
    | some 'I' => takeFlags n true m
    | some 'M' => takeFlags n i true
    | c =>
      untake c
      pure (i, m)

/-- Takes an address that begins with a character, if one does. -/
def takeAddress (first : Option Char) : Reading (Option Address) := do
  match first with
  | some '$' => pure (some .last)
  | some c =>
    if c = '/' || c = '\\' then
      let mark ← if c = '\\' then take else pure (some c)
      match mark with
      | none => fail "unterminated address regex"
      | some mark =>
        match ← takeText mark true with
        | none => fail "unterminated address regex"
        | some o =>
          let (caseless, byLine) ← takeFlags (o.length + (← get).rest.length + 1) false false
          return some (.pattern (← readPattern o caseless byLine 0))
    else if c.isDigit then
      let n ← takeNumber first
      match ← takeNonBlank with
      | some '~' =>
        let step ← takeNumber (← takeNonBlank)
        pure (some (if step = 0 then .line n else .every n step))
      | c =>
        untake c
        pure (some (.line n))
    else if c = '+' then return some (.further (← takeNumber (← takeNonBlank)))
    else if c = '~' then return some (.multiple (← takeNumber (← takeNonBlank)))
    else pure none
  | none => pure none

/-- Takes the addresses of a command; the first character of what follows is given too. -/
def takeSelection (first : Option Char) : Reading (Selection × Option Char) := do
  match ← takeAddress first with
  | none => takeBang {} first
  | some (.further _) | some (.multiple _) =>
    fail "invalid usage of +N or ~N as first address"
  | some a =>
    let c ← takeNonBlank
    let (last, c) : Option Address × Option Char ←
      if c = some ',' then
        match ← takeAddress (← takeNonBlank) with
        | none => fail "unexpected \x60,'"
        | some b => pure (some b, ← takeNonBlank)
      else pure (none, c)
    let isZero : Bool := match a with
      | .line 0 => true
      | _ => false
    let endsAtPattern : Bool := match last with
      | some (.pattern _) => true
      | _ => false
    if isZero && !endsAtPattern then fail "invalid usage of line address 0"
    takeBang { first := some a, last } c
where
  takeBang (s : Selection) (c : Option Char) : Reading (Selection × Option Char) := do
    if c = some '!' then
      let c ← takeNonBlank
      if c = some '!' then fail "multiple \x60!'s"
      pure ({ s with negated := true }, c)
    else pure (s, c)

/-! ### Commands -/

/-- Takes a label. -/
def takeLabel : Reading Octets := do
  let c ← takeNonBlank
  untake c
  let s ← get
  let label := s.rest.takeWhile fun c => !(isSpace c || c = ';' || c = '\x7d')
  set { s with rest := s.rest.drop label.length, used := s.used + label.length }
  pure label

/-- Takes the name of a file, which goes on to the end of the line. -/
def takeFileName : Reading Octets := do
  if (← get).sandbox then fail "e/r/w commands disabled in sandbox mode"
  let c ← takeNonBlank
  untake c
  let s ← get
  let name := s.rest.takeWhile (· ≠ '\n')
  set { s with rest := s.rest.drop name.length, used := s.used + name.length }
  let _ ← take
  if name.isEmpty then
    if c.isSome then untake (some '\n')
    fail "missing filename in r/R/w/W commands"
  pure name

/-- The same for a file that is written to. -/
def takeOutput : Reading Octets := do
  let name ← takeFileName
  modify fun s =>
    { s with outputs := if s.outputs.contains name then s.outputs else name :: s.outputs }
  pure name

/-- Takes lines of text; a backslash at the end of a line leads on to the next. -/
def takeLines : Nat → Octets → Reading Octets
  | 0, found => pure found.reverse
  | n + 1, found => do
    match ← take with
    | none | some '\n' => pure found.reverse
    | some '\\' =>
      match ← take with
      | none => pure found.reverse
      | some c => takeLines n (c :: '\\' :: found)
    | some c => takeLines n (c :: found)

/-- The text of a command from where the reading stands. -/
def takeCommandText : Reading Octets := do
  let o ← takeLines ((← get).rest.length + 1) []
  pure (plainText (o.length + 1) o ++ ['\n'])

/-- The text of a command, if it is not left to the next script. -/
def takeAddition : Reading (Option Octets) := do
  match ← takeNonBlank with
  | none => fail "expected \\ after \x60a', \x60c' or \x60i'"
  | some '\\' =>
    match ← take with
    | none => pure none
    | some '\n' => some <$> takeCommandText
    | c =>
      untake c
      some <$> takeCommandText
  | c =>
    untake c
    some <$> takeCommandText

/-- What is put in for a match, and the highest group in it. -/
def replacement : Nat → Octets → Octets → List Piece
  | 0, _, text => [.text text.reverse]
  | _ + 1, [], text => [.text text.reverse]
  | n + 1, '&' :: o, text => .text text.reverse :: .group 0 :: replacement n o []
  | n + 1, '\\' :: o, text =>
    match escape? o with
    | some (c, rest) => replacement n rest (c :: text)
    | none =>
      let change (c : CaseChange) (rest : Octets) : List Piece :=
        .text text.reverse :: .changeCase c :: replacement n rest []
      match o with
      | [] => [.text ('\\' :: text).reverse]
      | 'n' :: rest => replacement n rest ('\n' :: text)
      | 'U' :: rest => change .upper rest
      | 'L' :: rest => change .lower rest
      | 'E' :: rest => change .stop rest
      | 'u' :: rest => change .nextUpper rest
      | 'l' :: rest => change .nextLower rest
      | c :: rest =>
        if c.isDigit then
          .text text.reverse :: .group (c.toNat - 48) :: replacement n rest []
        else replacement n rest (c :: text)
  | n + 1, c :: o, text => replacement n o (c :: text)

def highestGroup (pieces : List Piece) : Nat :=
  pieces.foldl (fun n p => match p with
    | .group i => max n i
    | _ => n) 0

/-- The letters behind a replacement. -/
structure Flags where
  all : Bool := false
  print : Bool := false
  caseless : Bool := false
  byLine : Bool := false
  nth : Nat := 0
  file : Option Octets := none

def takeOptions : Nat → Flags → Reading Flags
  | 0, f => pure f
  | n + 1, f => do
    match ← takeNonBlank with
    | none | some '\n' | some ';' => pure f
    | some 'i' | some 'I' => takeOptions n { f with caseless := true }
    | some 'm' | some 'M' => takeOptions n { f with byLine := true }
    | some 'e' =>
      if (← get).sandbox then fail "e/r/w commands disabled in sandbox mode"
      takeOptions n f
    | some 'p' =>
      if f.print then fail "multiple \x60p' options to \x60s' command"
      takeOptions n { f with print := true }
    | some 'g' =>
      if f.all then fail "multiple \x60g' options to \x60s' command"
      takeOptions n { f with all := true }
    | some 'w' => return { f with file := some (← takeOutput) }
    | some c =>
      if c = '\x7d' || c = '#' then
        untake (some c)
        pure f
      else if c.isDigit then
        if f.nth > 0 then fail "multiple number options to \x60s' command"
        let number ← takeNumber (some c)
        if number = 0 then fail "number option to \x60s' command may not be zero"
        takeOptions n { f with nth := number }
      else fail "unknown option to \x60s'"

def takeSubstitution : Reading Action := do
  let broken {α : Type} : Reading α := fail "unterminated \x60s' command"
  match ← take with
  | none => broken
  | some mark =>
    match ← takeText mark true with
    | none => broken
    | some o =>
      match ← takeText mark false with
      | none => broken
      | some with_ =>
        let pieces := replacement (with_.length + 1) with_ []
        let f ← takeOptions ((← get).rest.length + 1) {}
        let pattern ← readPattern o f.caseless f.byLine (highestGroup pieces)
        pure (.substitute { pattern, pieces, all := f.all, nth := max f.nth 1, print := f.print
                            file := f.file })

def takeTranslation : Reading Action := do
  let broken {α : Type} : Reading α := fail "unterminated \x60y' command"
  match ← take with
  | none => broken
  | some mark =>
    match ← takeText mark false with
    | none => broken
    | some a =>
      match ← takeText mark false with
      | none => broken
      | some b =>
        let a := plainText (a.length + 1) a
        let b := plainText (b.length + 1) b
        if a.length ≠ b.length then fail "strings for \x60y' command are different lengths"
        takeEnd
        pure (.translate (a.zip b).reverse)

/-- A command without arguments. -/
def simple? : Char → Option Action
  | '=' => some .number
  | 'd' => some .delete
  | 'D' => some .deleteFirst
  | 'F' => some .fileName
  | 'g' => some .get
  | 'G' => some .getMore
  | 'h' => some .hold
  | 'H' => some .holdMore
  | 'n' => some .next
  | 'N' => some .nextMore
  | 'p' => some .print
  | 'P' => some .printFirst
  | 'z' => some .empty
  | 'x' => some .exchange
  | _ => none

/-- Adds a command. -/
def add (selection : Selection) (action : Action) : Reading Unit :=
  modify fun s => { s with commands := s.commands.push ⟨selection, action⟩ }

/-- Takes a comment; the first of all may ask not to print lines. -/
def takeComment : Reading Unit := do
  let s ← get
  let o := s.rest.takeWhile (· ≠ '\n')
  set { s with
    rest := s.rest.drop o.length, used := s.used + o.length
    quiet := s.quiet || (s.isFirst && s.used = 1 && o = ['n']) }

/-- Takes what follows a command's letter. -/
def takeAction (selection : Selection) (c : Char) : Reading Unit := do
  match c with
  | '\x7b' =>
    let s ← get
    set { s with blocks := (s.commands.size, s.origin, s.line) :: s.blocks }
    add selection (.opening 0)
  | '\x7d' =>
    let s ← get
    match s.blocks with
    | [] => fail "unexpected \x60\x7d'"
    | (index, _, _) :: blocks =>
      if selection.first.isSome then fail "\x60\x7d' doesn't want any addresses"
      takeEnd
      modify fun s =>
        { s with
          blocks
          commands := s.commands.modify index fun c =>
            { c with action := .opening s.commands.size } }
      add selection .closing
  | 'a' | 'i' | 'c' =>
    let addition ← takeAddition
    if addition.isNone then modify fun s => { s with pending := some s.commands.size }
    let o := addition.getD []
    add selection (if c = 'a' then .append o else if c = 'i' then .insert o else .change o)
  | ':' =>
    if selection.first.isSome then fail ": doesn't want any addresses"
    let label ← takeLabel
    if label.isEmpty then fail "\":\" lacks a label"
    modify fun s => { s with labels := s.labels ++ [(label, s.commands.size)] }
    add selection .label
  | 'b' => add selection (.jump (← takeLabel))
  | 't' => add selection (.jumpIfReplaced (← takeLabel))
  | 'T' => add selection (.jumpUnlessReplaced (← takeLabel))
  | 'q' | 'Q' | 'l' | 'L' =>
    if (c = 'q' || c = 'Q') && selection.last.isSome then fail "command only uses one address"
    let first ← takeNonBlank
    let number : Option Nat ←
      if first.any Char.isDigit then some <$> takeNumber first
      else do
        untake first
        pure none
    takeEnd
    add selection (match c with
      | 'q' => .quit (number.getD 0)
      | 'Q' => .leave (number.getD 0)
      | _ => .list number)
  | 'r' => add selection (.readFile (← takeFileName))
  | 'R' => add selection (.readLine (← takeFileName))
  | 'w' => add selection (.write (← takeOutput))
  | 'W' => add selection (.writeFirst (← takeOutput))
  | 's' => add selection (← takeSubstitution)
  | 'y' => add selection (← takeTranslation)
  | 'v' =>
    let version ← takeLabel
    if !version.isEmpty && Octets.le "4.9".toList version && version ≠ "4.9".toList then
      fail "expected newer version of sed"
  | c =>
    match simple? c with
    | some action =>
      takeEnd
      add selection action
    | none => fail ("unknown command: \x60" ++ String.ofList [c] ++ "'")

/-- Takes all commands; the number bounds how many there are. -/
def takeCommands : Nat → Reading Unit
  | 0 => pure ()
  | n + 1 => do
    let s ← get
    let gap := s.rest.takeWhile fun c => isSpace c || c = ';'
    set { s with
      rest := s.rest.drop gap.length, used := s.used + gap.length
      line := s.line + gap.count '\n' }
    match ← take with
    | none => pure ()
    | some c =>
      let (selection, c) ← takeSelection (some c)
      match c with
      | none => fail "missing command"
      | some '#' =>
        if selection.first.isSome then fail "comments don't accept any addresses"
        takeComment
      | some c => takeAction selection c
      takeCommands n

/-- Takes one script. -/
def takeScript (origin : Origin) (o : Octets) : Reading Unit := do
  modify fun s => { s with origin, rest := o, used := 0, line := 1 }
  match (← get).pending with
  | some index =>
    let text ← takeCommandText
    modify fun s =>
      { s with
        pending := none
        commands := s.commands.modify index fun c =>
          { c with action := match c.action with
              | .append _ => .append text
              | .insert _ => .insert text
              | .change _ => .change text
              | a => a } }
  | none => pure ()
  takeCommands (o.length + 1)
  modify fun s => { s with isFirst := false }

/-- The label that a command jumps to. -/
def Action.target? : Action → Option Octets
  | .jump l | .jumpIfReplaced l | .jumpUnlessReplaced l => if l.isEmpty then none else some l
  | _ => none

/-- Checks what can be checked only once all is read. -/
def takeFinish : Reading Unit := do
  let s ← get
  match s.blocks.getLast? with
  | some _ =>
    match s.blocks with
    | (_, origin, line) :: _ => throw { text := complaint origin 0 line "unmatched \x60\x7b'" }
    | [] => pure ()
  | none => pure ()
  for c in s.commands do
    match c.action.target? with
    | some l =>
      if (s.labels.lookup l).isNone then
        throw { text := "can't find label for jump to \x60".toList ++ l ++ ['\''], status := 4 }
    | none => pure ()

end MatchedLines.Host.Editing
