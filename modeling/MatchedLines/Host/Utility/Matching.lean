import MatchedLines.Host.Regex.Reading
import MatchedLines.Host.Utility.Paths
import MatchedLines.Host.Utility.Source
/-!
Looking for lines that match patterns.
-/

namespace MatchedLines.Host.Matching

/-- How patterns are written. -/
inductive Manner where
  | basic
  | extended
  | fixed
  | perl
  deriving DecidableEq

/-- What becomes of files that hold more than text. -/
inductive Binary where
  | report
  | text
  | skip
  deriving DecidableEq

/-- What becomes of directories. -/
inductive Directories where
  | read
  | skip
  | recurse
  deriving DecidableEq

/-- What is shown. -/
inductive Output where
  | lines
  | parts
  | counts
  | matchingNames
  | otherNames
  | nothing
  deriving DecidableEq

structure Wishes where
  manner : Manner := .basic
  caseless : Bool := false
  inverted : Bool := false
  wholeWords : Bool := false
  wholeLines : Bool := false
  output : Output := .lines
  /-- Only the matching parts are shown, whatever else is asked for. -/
  onlyParts : Bool := false
  names : Option Bool := none
  numbers : Bool := false
  offsets : Bool := false
  tab : Bool := false
  nameEnd : Option Char := none
  lineEnd : Char := '\n'
  before : Nat := 0
  after : Nat := 0
  separator : Option Octets := some ['-', '-']
  /-- Whether lines around matches were asked for. -/
  hasContext : Bool := false
  limit : Option Nat := none
  /-- What was not looked at before the limit is left for others to read. -/
  givesBack : Bool := false
  silent : Bool := false
  binary : Binary := .report
  directories : Directories := .read
  colored : Bool := false
  label : Octets := "(standard input)".toList
  /-- Only files with these names are looked at. -/
  included : List Octets := []
  excluded : List Octets := []
  excludedDirectories : List Octets := []

/-! ### Matches -/

/-- Whether what was found is a whole word. -/
def isWord (s : Regex.Scene) (m : Regex.Found) : Bool :=
  !s.isWordBefore m.start && !s.isWordAt m.stop

/-- The longest match at a place that is admitted. -/
def bestAt (w : Wishes) (s : Regex.Scene) (r : Regex) (p : Nat) : Option Regex.Found :=
  if w.wholeLines then
    if p = 0 then
      ((Regex.stops s r (0, [])).find? fun x => x.1 = s.text.size).map fun x => ⟨0, x.1, x.2⟩
    else none
  else if w.wholeWords then
    let fits := (Regex.stops s r (p, [])).filter fun x =>
      isWord s ⟨p, x.1, x.2⟩
    let whole := Regex.longest (Regex.stops s r (p, []))
    (Regex.longest (fits.filter fun x => x.1 > p || whole.any fun y => y.1 = p)).map
      fun x => ⟨p, x.1, x.2⟩
  else Regex.foundAt s r p

/-- The first match of any pattern, and of those that begin together the longest. -/
def firstMatch (w : Wishes) (rs : List Regex) (s : Regex.Scene) : Nat → Nat → Option Regex.Found
  | 0, _ => none
  | n + 1, p =>
    let found := rs.filterMap fun r => bestAt w { s with looksBack := r.looksBack } r p
    match found with
    | [] => firstMatch w rs s n (p + 1)
    | m :: ms => some (ms.foldl (fun best x => if x.stop > best.stop then x else best) m)

/-- The first match in a line from a place on. -/
def matchFrom (w : Wishes) (rs : List Regex) (s : Regex.Scene) (p : Nat) : Option Regex.Found :=
  firstMatch w rs s (s.text.size + 1 - p) p

/-- All parts of a line that match and are not empty. -/
def parts (w : Wishes) (rs : List Regex) (s : Regex.Scene) : Nat → Nat → List Regex.Found
  | 0, _ => []
  | n + 1, p =>
    match matchFrom w rs s p with
    | none => []
    | some m =>
      if m.stop = m.start then parts w rs s n (m.stop + 1) else m :: parts w rs s n m.stop

/-! ### What is shown -/

/-- A text between the signs for a colour and for its end. -/
def colored (w : Wishes) (code : String) (o : Octets) : Octets :=
  if w.colored && !o.isEmpty then
    "\x1b[".toList ++ code.toList ++ "m\x1b[K".toList ++ o ++ "\x1b[m\x1b[K".toList
  else o

/-- What stands before a line; `mark` tells lines that were found from those around them. -/
def lineHead (w : Wishes) (name : Option Octets) (mark : Char) (number offset : Nat) : Octets :=
  let sign (c : Char) : Octets :=
    if c = '\x00' then [c] else colored w "36" [c]
  let fields :=
    (match name with
      | some name => colored w "35" name ++ sign (w.nameEnd.getD mark)
      | none => [])
    ++ (if w.numbers then colored w "32" (Nat.toDigits 10 number) ++ sign mark else [])
    ++ (if w.offsets then colored w "32" (Nat.toDigits 10 offset) ++ sign mark else [])
  if w.tab && !fields.isEmpty then fields ++ ['\t'] else fields

/-- A line in which the parts that match are coloured. -/
def highlighted (w : Wishes) (found : List Regex.Found) (o : Octets) : Octets :=
  let step (s : Octets × Octets × Nat) (m : Regex.Found) : Octets × Octets × Nat :=
    let (shown, rest, p) := s
    let (front, rest) := rest.splitAt (m.start - p)
    let (part, rest) := rest.splitAt m.length
    (shown ++ front ++ colored w "01;31" part, rest, m.stop)
  let (shown, rest, _) := found.foldl step ([], o, 0)
  shown ++ rest

/-- Where the search through a file stands. -/
structure Progress where
  number : Nat := 0
  offset : Nat := 0
  selected : Nat := 0
  /-- So many lines after a match are still to be shown. -/
  pending : Nat := 0
  /-- The lines before, the latest first, that were not shown. -/
  kept : List (Nat × Nat × Octets) := []
  /-- The number of the line that was shown last. -/
  shown : Option Nat := none
  binary : Bool := false

/-- Whether any line was shown in an earlier file. -/
structure Tally where
  anyShown : Bool := false
  anySelected : Bool := false
  failed : Bool := false

structure Search where
  wishes : Wishes
  regexes : List Regex

def Search.scene (s : Search) (o : Octets) : Regex.Scene :=
  { text := o.toArray, caseless := s.wishes.caseless }

/-- Shows one line. -/
def showLine (s : Search) (name : Option Octets) (mark : Char) (number offset : Nat) (o : Octets) :
    Tool Unit := do
  let w := s.wishes
  let scene := s.scene o
  let isMatch : Bool := (mark = ':') != w.inverted
  if w.onlyParts then
    if isMatch then
      for m in parts w s.regexes scene (o.length + 2) 0 do
        let part := (o.drop m.start).take m.length
        Tool.print (lineHead w name mark number (offset + m.start) ++ colored w "01;31" part
          ++ [w.lineEnd])
  else
    let shown :=
      if w.colored && isMatch then highlighted w (parts w s.regexes scene (o.length + 2) 0) o
      else o
    Tool.print (lineHead w name mark number offset ++ shown ++ [w.lineEnd])

/-- Shows what separates lines that do not follow one another. -/
def showGap (w : Wishes) : Tool Unit := do
  match w.separator with
  | some o => Tool.print (colored w "36" o ++ ['\n'])
  | none => pure ()

/-- Shows lines that were found or stand around such, with a sign where some are left out. -/
def showFrom (s : Search) (name : Option Octets) (anyShown : Bool) (p : Progress)
    (lines : List (Char × Nat × Nat × Octets)) : Tool Progress := do
  let w := s.wishes
  match lines with
  | [] => pure p
  | (_, first, _) :: _ =>
    let isGap : Bool := match p.shown with
      | some last => last + 1 < first
      | none => anyShown
    if isGap && w.hasContext then showGap w
    for (mark, number, offset, o) in lines do
      showLine s name mark number offset o
    pure { p with shown := (lines.getLast?.map fun x => x.2.1).orElse fun _ => p.shown, kept := [] }

/-- Whether a file is more than text, as far as its first bytes tell. -/
def isBinary (w : Wishes) (front : Octets) : Bool :=
  w.binary ≠ .text && w.lineEnd = '\n' && front.contains '\x00'

/-- Goes on with the search, line by line. -/
def searchLines (s : Search) (name : Option Octets) (anyShown : Bool) : Nat → Source → Progress →
    Tool (Except Errno (Progress × Source))
  | 0, source, p => pure (.ok (p, source))
  | n + 1, source, p => do
    let w := s.wishes
    let isDone : Bool := w.limit.any (· ≤ p.selected)
    if isDone && p.pending = 0 then pure (.ok (p, source))
    else
      match ← source.next w.lineEnd with
      | .error e => pure (.error e)
      | .ok (none, source) => pure (.ok (p, source))
      | .ok (some line, source) =>
        let number := p.number + 1
        let offset := p.offset
        let p := { p with number, offset := p.offset + line.text.length + 1 }
        let isMatch : Bool := (matchFrom w s.regexes (s.scene line.text) 0).isSome
        let isSelected : Bool := !isDone && (isMatch != w.inverted)
        let showsLines : Bool := w.output = .lines || w.output = .parts
        if isSelected then
          let p := { p with selected := p.selected + 1 }
          if w.output = .counts then searchLines s name anyShown n source p
          else if !showsLines then pure (.ok (p, source))
          else if p.binary then pure (.ok (p, source))
          else
            let around := p.kept.reverse.map fun x => ('-', x)
            let p ← showFrom s name anyShown p (around ++ [(':', number, offset, line.text)])
            searchLines s name anyShown n source { p with pending := w.after }
        else if showsLines && p.pending > 0 then
          let p ← showFrom s name anyShown p [('-', number, offset, line.text)]
          searchLines s name anyShown n source { p with pending := p.pending - 1 }
        else
          let kept := ((number, offset, line.text) :: p.kept).take w.before
          searchLines s name anyShown n source { p with kept }

/-! ### Files -/

/-- Whether a name fits one of some patterns. -/
def fitsAny (patterns : List Octets) (name : Octets) : Bool :=
  patterns.any fun o =>
    Pattern.accepts (Pattern.ofGlyphs (o.map fun c => ⟨c, false⟩)) name

/-- Whether a file with this name is left out. -/
def isLeftOut (w : Wishes) (path : Octets) : Bool :=
  let name := Paths.lastName path
  fitsAny w.excluded name || fitsAny w.excluded path
    || (!w.included.isEmpty && !fitsAny w.included name && !fitsAny w.included path)

/-- Shows what was found in a file once it has been searched. -/
def conclude (s : Search) (name : Option Octets) (shownName : Octets) (p : Progress) :
    Tool Unit := do
  let w := s.wishes
  let sign (c : Char) : Octets := if c = '\x00' then [c] else colored w "36" [c]
  let named : Octets := colored w "35" shownName ++ [w.nameEnd.getD '\n']
  match w.output with
  | .counts =>
    let front := match name with
      | some name => colored w "35" name ++ sign (w.nameEnd.getD ':')
      | none => []
    Tool.print (front ++ Nat.toDigits 10 p.selected ++ ['\n'])
  | .matchingNames => if p.selected > 0 then Tool.print named
  | .otherNames => if p.selected = 0 then Tool.print named
  | .lines | .parts =>
    if p.binary && p.selected > 0 then Tool.warn (shownName ++ ": binary file matches".toList)
  | .nothing => pure ()

def complain (s : Search) (shown : Octets) (e : Errno) : Tool Unit := do
  unless s.wishes.silent do Tool.warnAbout shown e

/-- Searches what a channel gives. -/
def searchChannel (s : Search) (channel : Nat) (shown : Octets) (named : Bool) (t : Tally) :
    Tool Tally := do
  let w := s.wishes
  if w.limit = some 0 then pure t
  else
    let name := if named then some shown else none
    let source : Source := { channel }
    match ← source.isLast with
    | .error e =>
      complain s shown e
      pure { t with failed := true }
    | .ok (_, source) =>
      let binary := isBinary w source.ahead
      if binary && w.binary = .skip then
        conclude s name shown {}
        pure t
      else
        match ← searchLines s name t.anyShown Source.maxPieces source { binary } with
        | .error e =>
          complain s shown e
          pure { t with failed := true }
        | .ok (p, source) =>
          if w.givesBack && w.limit.any (· ≤ p.selected) then source.giveBack
          conclude s name shown p
          pure { t with
            anyShown := t.anyShown || p.shown.isSome
            anySelected := t.anySelected || p.selected > 0 }

/-- Whether what is read is also what standard output is added to. -/
def feedsItself (s : Search) (channel : Nat) : Tool Bool := do
  let w := s.wishes
  let m ← Tool.act get
  let p ← Tool.process
  match m.channels[channel]?, (p.channel? 1).bind (m.channels[·]?) with
  | some (.file n _ _ _ _), some (.file o _ _ _ _) =>
    pure (n = o && (w.output = .lines || w.output = .parts) && w.limit ≠ some 1)
  | _, _ => pure false

/-- Searches a file that is open. -/
def searchOpen (s : Search) (channel : Nat) (shown : Octets) (named : Bool) (t : Tally) :
    Tool Tally := do
  if ← feedsItself s channel then
    unless s.wishes.silent do
      Tool.warn (shown ++ ": input file is also the output".toList)
    pure { t with failed := true }
  else searchChannel s channel shown named t

/-- Searches a file, or all files below a directory; the number bounds how deep. -/
def searchPath (s : Search) : Nat → Bool → Bool → Octets → Tally → Tool Tally
  | 0, _, _, _, t => pure t
  | n + 1, isOperand, named, path, t => do
    let w := s.wishes
    if w.output = .nothing && t.anySelected then pure t
    else
      let f ← Tool.files
      let cwd ← Tool.cwd
      let openAndSearch : Tool Tally := do
        match ← Tool.openOperand path with
        | .error e =>
          complain s path e
          pure { t with failed := true }
        | .ok channel => searchOpen s channel path named t
      match f.resolve cwd (if path.isEmpty then ['.'] else path) isOperand with
      | .error e =>
        complain s path e
        pure { t with failed := true }
      | .ok node =>
        match f.body? node with
        | some (.directory _ entries) =>
          match w.directories with
          | .read => openAndSearch
          | .skip => pure t
          | .recurse =>
            if fitsAny w.excludedDirectories (Paths.lastName path) && !path.isEmpty then pure t
            else if !f.allows node .read then
              complain s path .accessDenied
              pure { t with failed := true }
            else
              let mut t := t
              for (name, _) in entries do
                let inner := if path.isEmpty then name else Paths.join path name
                t ← searchPath s n false (w.names.getD true) inner t
              pure t
        | some (.file _) => if isLeftOut w path then pure t else openAndSearch
        | _ => if isOperand then openAndSearch else pure t

/-! ### Options -/

def usage : String :=
  "Usage: grep [OPTION]... PATTERNS [FILE]...\nTry 'grep --help' for more information.\n"

def grammar : Grammar where
  short := Grammar.letters "A:B:C:D:EFGHILPTUVX:abcd:e:f:hiLlm:noqRrsuvwxyZz0123456789"
  long := [("basic-regexp", .none, "G"), ("extended-regexp", .none, "E"),
    ("fixed-regexp", .none, "F"), ("fixed-strings", .none, "F"), ("perl-regexp", .none, "P"),
    ("after-context", .required, "A"), ("before-context", .required, "B"),
    ("binary-files", .required, "binary"), ("line-buffered", .none, "buffered"),
    ("byte-offset", .none, "b"), ("context", .required, "C"), ("color", .optional, "color"),
    ("colour", .optional, "color"), ("count", .none, "c"), ("devices", .required, "D"),
    ("directories", .required, "d"), ("exclude", .required, "exclude"),
    ("exclude-from", .required, "exclude-from"), ("exclude-dir", .required, "exclude-dir"),
    ("file", .required, "f"), ("files-with-matches", .none, "l"),
    ("files-without-match", .none, "L"), ("group-separator", .required, "separator"),
    ("help", .none, "help"), ("include", .required, "include"), ("ignore-case", .none, "i"),
    ("no-ignore-case", .none, "no-i"), ("initial-tab", .none, "T"), ("label", .required, "label"),
    ("line-number", .none, "n"), ("line-regexp", .none, "x"), ("max-count", .required, "m"),
    ("no-filename", .none, "h"), ("no-group-separator", .none, "no-separator"),
    ("no-messages", .none, "s"), ("null", .none, "Z"), ("null-data", .none, "z"),
    ("only-matching", .none, "o"), ("quiet", .none, "q"), ("recursive", .none, "r"),
    ("dereference-recursive", .none, "R"), ("regexp", .required, "e"),
    ("invert-match", .none, "v"), ("silent", .none, "q"), ("text", .none, "a"),
    ("binary", .none, "U"), ("unix-byte-offsets", .none, "u"), ("version", .none, "V"),
    ("with-filename", .none, "H"), ("word-regexp", .none, "w")]
  failure := 2
  usage := usage.toList

/-- A number of lines around a match. -/
def contextLength (o : Octets) : Tool Nat := do
  match Octets.number? (o.dropWhile (· = ' ')) with
  | some n => pure n
  | none => Tool.fail 2 (o ++ ": invalid context length argument".toList)

/-- What the options of a call ask for, besides the patterns. -/
structure Request where
  wishes : Wishes
  manner : Option Manner := none
  patterns : Option (List Octets) := none
  before : Option Nat := none
  after : Option Nat := none
  around : Option Nat := none
  digits : Octets := []
  quiet : Bool := false
  counts : Bool := false
  /-- The names of files with matches, or of those without. -/
  listed : Option Bool := none

/-- The patterns in a text, one a line. -/
def patternLines (o : Octets) : List Octets := o.splitOn '\n'

def setManner (r : Request) (m : Manner) : Tool Request := do
  match r.manner with
  | some n =>
    if n ≠ m && (n = .perl || n = .fixed || m = .perl || m = .fixed) then
      Tool.fail 2 "conflicting matchers specified".toList
    else pure { r with manner := some m }
  | none => pure { r with manner := some m }

/-- Takes one option into account. -/
def applyChoice (r : Request) (c : Choice) : Tool Request := do
  let value := c.value.getD []
  let w := r.wishes
  let wish (w : Wishes) : Request := { r with wishes := w }
  match c.key with
  | "E" => setManner r .extended
  | "F" => setManner r .fixed
  | "G" => setManner r .basic
  | "P" => setManner r .perl
  | "A" => return { r with after := some (← contextLength value) }
  | "B" => return { r with before := some (← contextLength value) }
  | "C" => return { r with around := some (← contextLength value) }
  | "e" => return { r with patterns := some (r.patterns.getD [] ++ patternLines value) }
  | "f" =>
    match ← Tool.readOperand value with
    | .error e =>
      Tool.warnAbout value e
      Tool.exit 2
    | .ok o =>
      let lines := if o.isEmpty then []
        else patternLines (if o.getLast? = some '\n' then o.dropLast else o)
      return { r with patterns := some (r.patterns.getD [] ++ lines) }
  | "i" | "y" => return wish { w with caseless := true }
  | "no-i" => return wish { w with caseless := false }
  | "v" => return wish { w with inverted := true }
  | "w" => return wish { w with wholeWords := true }
  | "x" => return wish { w with wholeLines := true }
  | "c" => return { r with counts := true }
  | "l" => return { r with listed := some true }
  | "L" => return { r with listed := some false }
  | "q" => return { r with quiet := true }
  | "o" => return wish { w with onlyParts := true }
  | "s" => return wish { w with silent := true }
  | "b" => return wish { w with offsets := true }
  | "n" => return wish { w with numbers := true }
  | "H" => return wish { w with names := some true }
  | "h" => return wish { w with names := some false }
  | "T" => return wish { w with tab := true }
  | "Z" => return wish { w with nameEnd := some '\x00' }
  | "z" => return wish { w with lineEnd := '\x00' }
  | "a" => return wish { w with binary := .text }
  | "I" => return wish { w with binary := .skip }
  | "u" =>
    Tool.warn "warning: --unix-byte-offsets (-u) is obsolete".toList
    return r
  | "r" | "R" => return wish { w with directories := .recurse }
  | "d" =>
    let words := [["read"], ["recurse"], ["skip"]]
    match ← { grammar with failure := 1 }.oneOf "--directories" words value with
    | 0 => return wish { w with directories := .read }
    | 1 => return wish { w with directories := .recurse }
    | _ => return wish { w with directories := .skip }
  | "D" =>
    if value = "read".toList || value = "skip".toList then return r
    else Tool.fail 2 "unknown devices method".toList
  | "binary" =>
    match String.ofList value with
    | "binary" => return wish { w with binary := .report }
    | "text" => return wish { w with binary := .text }
    | "without-match" => return wish { w with binary := .skip }
    | _ => Tool.fail 2 "unknown binary-files type".toList
  | "m" =>
    match Octets.int? (value.dropWhile (· = ' ')) with
    | some n => return wish { w with limit := if n < 0 then none else some n.toNat }
    | none => Tool.fail 2 "invalid max count".toList
  | "color" =>
    let always := ["always", "yes", "force"].map String.toList
    return wish { w with colored := c.value.any always.contains }
  | "label" => return wish { w with label := value }
  | "separator" => return wish { w with separator := some value }
  | "no-separator" => return wish { w with separator := none }
  | "include" => return wish { w with included := w.included ++ [value] }
  | "exclude" => return wish { w with excluded := w.excluded ++ [value] }
  | "exclude-dir" =>
    return wish { w with excludedDirectories := w.excludedDirectories ++ [Paths.trimmed value] }
  | key =>
    if key.toList.all Char.isDigit then return { r with digits := r.digits ++ key.toList }
    else return r

/-- What is shown: nothing before names before counts before lines. -/
def Request.output (r : Request) : Output :=
  if r.quiet then .nothing
  else match r.listed with
    | some true => .matchingNames
    | some false => .otherNames
    | none => if r.counts then .counts else if r.wishes.onlyParts then .parts else .lines

/-- Reads one pattern. -/
def readPattern (manner : Manner) (caseless : Bool) (o : Octets) : Tool Regex := do
  match manner with
  | .fixed => pure (Regex.literal o)
  | manner =>
    let style : Regex.Style := { extended := manner ≠ .basic, lenient := true }
    match Regex.read style caseless o with
    | .error problem => Tool.fail 2 problem.message.toList
    | .ok read =>
      for what in read.idle do
        Tool.warn ("warning: ".toList ++ what.toList ++ " at start of expression".toList)
      pure read.regex

/-- Carries out a search. -/
def perform (manner : Option Manner) (args : List Octets) : Tool Nat := do
  let (cs, operands) ← grammar.parse args
  let r ← cs.foldlM applyChoice { wishes := {}, manner }
  let around := r.around.orElse fun _ => Octets.number? r.digits
  let before := r.before.orElse fun _ => around
  let after := r.after.orElse fun _ => around
  let (patterns, operands) : List Octets × List Octets ←
    match r.patterns, operands with
    | some ps, operands => pure (ps, operands)
    | none, o :: operands => pure (patternLines o, operands)
    | none, [] => grammar.explain
  let manner := r.manner.getD .basic
  let regexes ← patterns.mapM (readPattern manner r.wishes.caseless)
  let output := r.output
  let isPlain : Bool := output = .lines || output = .parts
  let w : Wishes :=
    { r.wishes with
      output
      before := if isPlain && output ≠ .parts then before.getD 0 else 0
      after := if isPlain then after.getD 0 else 0
      hasContext := before.isSome || after.isSome
      givesBack := r.wishes.limit.isSome && !r.quiet && r.listed.isNone
      limit := if output = .nothing || r.listed.isSome then
          some (min 1 (r.wishes.limit.getD 1)) else r.wishes.limit }
  let s : Search := { wishes := w, regexes }
  let depth := 64
  let named := w.names.getD (operands.length > 1)
  let t ←
    if operands.isEmpty && w.directories = .recurse then
      searchPath s depth true (w.names.getD true) [] {}
    else
      (if operands.isEmpty then [['-']] else operands).foldlM (fun t path => do
        if path = ['-'] then
          if w.output = .nothing && t.anySelected then pure t
          else match ← Tool.openOperand path with
            | .error e =>
              complain s w.label e
              pure { t with failed := true }
            | .ok channel => searchOpen s channel w.label named t
        else searchPath s depth true named path t) ({} : Tally)
  if w.output = .nothing && t.anySelected then pure 0
  else if t.failed then pure 2
  else pure (if t.anySelected then 0 else 1)

def grep (args : List Octets) : Tool Nat := perform none args

/-- Gives the work of a program another name. -/
def named (name : String) (work : Tool Nat) : Tool Nat := fun t =>
  work { t with name := name.toList }

def egrep (args : List Octets) : Tool Nat := named "grep" (perform (some .extended) args)

def fgrep (args : List Octets) : Tool Nat := named "grep" (perform (some .fixed) args)

end MatchedLines.Host.Matching
