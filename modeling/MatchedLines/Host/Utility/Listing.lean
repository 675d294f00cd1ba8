import MatchedLines.Host.Pattern
import MatchedLines.Host.Utility.Basic
import MatchedLines.Host.Utility.Mode
import MatchedLines.Host.Utility.Paths
import MatchedLines.Host.Utility.Surroundings
/-!
Lists of the files in directories.
-/

namespace MatchedLines.Host.Listing

/-- How the names are arranged. -/
inductive Layout where
  | lines
  | columns
  | across
  | commas
  | long
  deriving DecidableEq

inductive Order where
  | name
  | time
  | size
  | suffix
  | version
  | width
  | none
  deriving DecidableEq

structure Wishes where
  layout : Layout := .lines
  order : Order := .name
  reversed : Bool := false
  /-- Names that begin with a point are shown, and the two that every directory has. -/
  hidden : Bool := false
  dots : Bool := false
  /-- Directories are shown themselves. -/
  plainDirectories : Bool := false
  recursive : Bool := false
  follows : Bool := false
  /-- What is shown after a name: slashes after directories, and marks after other things. -/
  slashes : Bool := false
  marks : Bool := false
  executables : Bool := false
  numbers : Bool := false
  blocks : Bool := false
  owner : Bool := true
  group : Bool := true
  numeric : Bool := false
  directoriesFirst : Bool := false
  width : Nat := 80
  lineEnd : Char := '\n'
  /-- How the sizes of files and of what they take up are written, for a number of bytes. -/
  sizeText : Nat → Octets := Nat.toDigits 10
  blockText : Nat → Octets := Nat.toDigits 10
  shown : Octets → Octets := id
  skips : List (List Pattern.Atom) := []

/-- A file to show, with what is known of it. -/
structure Item where
  name : Octets
  path : Octets
  node : Nat

/-! ### Order -/

/-- The part of a name from its last point on. -/
def suffixOf (o : Octets) : Octets :=
  let back := o.reverse.takeWhile (· ≠ '.')
  if back.length = o.length then [] else '.' :: back.reverse

/-- How a character counts in the order of versions. -/
def versionRank (c : Char) : Int :=
  if c = '~' then -1 else if c.isAlpha then c.toNat else if c.isDigit then 0 else c.toNat + 256

/-- The order of versions: numbers in them count by their value. Negative, zero or positive. -/
def compareVersions : Nat → Octets → Octets → Int
  | 0, _, _ => 0
  | n + 1, a, b =>
    if a.isEmpty && b.isEmpty then 0
    else
      let x := a.takeWhile (!Char.isDigit ·)
      let y := b.takeWhile (!Char.isDigit ·)
      let rec letters : Octets → Octets → Int
        | [], [] => 0
        | c :: cs, [] => if versionRank c = 0 then letters cs [] else versionRank c
        | [], d :: ds => if versionRank d = 0 then letters [] ds else -(versionRank d)
        | c :: cs, d :: ds =>
          if versionRank c = versionRank d then letters cs ds else versionRank c - versionRank d
      match letters x y with
      | 0 =>
        let a := a.drop x.length
        let b := b.drop y.length
        let x := a.takeWhile Char.isDigit
        let y := b.takeWhile Char.isDigit
        let m := Nat.ofDigitChars 10 x 0
        let k := Nat.ofDigitChars 10 y 0
        if m = k then compareVersions n (a.drop x.length) (b.drop y.length)
        else (m : Int) - k
      | d => d

/-- Whether one item comes no later than another. -/
def before (w : Wishes) (f : Files) (a b : Item) : Bool :=
  let byName := Octets.le a.name b.name
  match w.order with
  | .none => true
  | .name => byName
  | .time => f.stamp a.node > f.stamp b.node || (f.stamp a.node = f.stamp b.node && byName)
  | .size => f.size a.node > f.size b.node || (f.size a.node = f.size b.node && byName)
  | .suffix =>
    let x := suffixOf a.name
    let y := suffixOf b.name
    if x = y then byName else Octets.le x y
  | .width =>
    let x := (w.shown a.name).length
    let y := (w.shown b.name).length
    x < y || (x = y && byName)
  | .version =>
    let d := compareVersions (a.name.length + b.name.length + 2) a.name b.name
    d < 0 || (d = 0 && byName)

def sort (w : Wishes) (f : Files) (items : List Item) : List Item :=
  let sorted := items.mergeSort (before w f)
  let sorted := if w.reversed && w.order ≠ .none then sorted.reverse else sorted
  if w.directoriesFirst then
    sorted.filter (fun i => f.isDirectory i.node) ++ sorted.filter fun i => !f.isDirectory i.node
  else sorted

/-! ### Single items -/

/-- The mark after a name. -/
def markOf (w : Wishes) (f : Files) (i : Item) : Octets :=
  match f.node? i.node with
  | none => []
  | some node =>
    match node.body with
    | .directory _ _ => if w.slashes then ['/'] else []
    | .link _ => if w.marks then ['@'] else []
    | .file _ | .program _ =>
      if w.executables && node.mode &&& 0o111 ≠ 0 then ['*'] else []
    | _ => []

/-- A number of bytes in units of a size. -/
def inUnits (unit bytes : Nat) : Octets := Nat.toDigits 10 ((bytes + unit - 1) / unit)

/-- A number of bytes as a number below ten with one place, or below the base with none, and the
letter of its unit. Nothing is rounded down. -/
def human (base : Nat) (bytes : Nat) : Octets :=
  let letters := if base = 1000 then "kMGTPE" else "KMGTPE"
  let rec go : Nat → Octets → Octets
    | _, [] => Nat.toDigits 10 bytes
    | unit, c :: more =>
      let tenths := (bytes * 10 + unit - 1) / unit
      let whole := (bytes + unit - 1) / unit
      if tenths < 100 then
        Nat.toDigits 10 (tenths / 10) ++ '.' :: (Nat.toDigits 10 (tenths % 10) ++ [c])
      else if whole < base then Nat.toDigits 10 whole ++ [c]
      else go (unit * base) more
  if bytes < base then Nat.toDigits 10 bytes else go base letters.toList

/-- How many blocks of a kibibyte a node takes up. -/
def blocksOf (f : Files) (n : Nat) : Nat :=
  match f.body? n with
  | some (.file c) => (c.size + 4095) / 4096 * 4
  | some (.directory _ _) => 4
  | _ => 0

def right (width : Nat) (o : Octets) : Octets := List.replicate (width - o.length) ' ' ++ o

def left (width : Nat) (o : Octets) : Octets := o ++ List.replicate (width - o.length) ' '

/-- The letter for the kind of a node. -/
def kindLetter (f : Files) (n : Nat) : Char :=
  match f.body? n with
  | some (.directory _ _) => 'd'
  | some (.link _) => 'l'
  | some (.device _) => 'c'
  | some (.descriptor _) => 's'
  | _ => '-'

/-- Who a node belongs to. -/
def ownerOf (w : Wishes) (f : Files) (n : Nat) : Octets :=
  let own := ((f.node? n).map Node.own).getD false
  if w.numeric then Nat.toDigits 10 (if own then Surroundings.userNumber else 0)
  else if own then Surroundings.userName else "root".toList

/-- The time at which every file was changed, as far as it is shown. -/
def dateText (f : Files) (n : Nat) : Octets :=
  (if f.stamp n = 0 then "Jan  1  2000" else "Jan  1 00:00").toList

/-- The fields of a long line before the name. -/
def longFields (w : Wishes) (f : Files) (i : Item) : List Octets :=
  let mode := ((f.node? i.node).map Node.mode).getD 0
  [kindLetter f i.node :: Mode.letters mode, Nat.toDigits 10 (f.linkCount i.node)]
    ++ (if w.owner then [ownerOf w f i.node] else [])
    ++ (if w.group then [ownerOf w f i.node] else [])
    ++ [w.sizeText (f.size i.node), dateText f i.node]

def blockTextOf (w : Wishes) (f : Files) (i : Item) : Octets :=
  w.blockText (blocksOf f i.node * 1024)

/-- What stands before the name, apart from the fields of long lines. -/
def frontOf (w : Wishes) (f : Files) (numberWidth blockWidth : Nat) (i : Item) : Octets :=
  (if w.numbers then right numberWidth (Nat.toDigits 10 (i.node + 1000)) ++ [' '] else [])
    ++ (if w.blocks then right blockWidth (blockTextOf w f i) ++ [' '] else [])

def nameOf (w : Wishes) (f : Files) (i : Item) : Octets := w.shown i.name ++ markOf w f i

/-- The name in a long line, with what a link leads to. -/
def longNameOf (w : Wishes) (f : Files) (cwd : Nat) (i : Item) : Octets :=
  match f.body? i.node with
  | some (.link target) =>
    let end_ := match f.resolve cwd i.path true with
      | .ok n => if w.marks || w.slashes then markOf w f { i with node := n } else []
      | .error _ => []
    w.shown i.name ++ " -> ".toList ++ w.shown target ++ end_
  | _ => nameOf w f i

/-! ### Arrangements -/

/-- Lines with the fields of all items below each other. -/
def longLines (w : Wishes) (f : Files) (cwd : Nat) (fronts : List Octets) (items : List Item) :
    Octets :=
  let rows := items.map (longFields w f)
  let widths := (List.range ((rows.map List.length).foldl max 0)).map fun i =>
    (rows.map fun row => (row[i]?.getD []).length).foldl max 0
  let isLeft (i : Nat) : Bool := 2 ≤ i && i + 2 < widths.length
  let lines := (items.zip (rows.zip fronts)).map fun (i, row, front) =>
    let fields := (row.zip widths).zipIdx.map fun ((o, width), k) =>
      if isLeft k then left width o else right width o
    front ++ [' '].intercalate fields ++ ' ' :: (longNameOf w f cwd i ++ [w.lineEnd])
  lines.flatten

/-- Goes from one column to another with tabs and blanks. -/
def indent : Nat → Nat → Nat → Octets
  | 0, _, _ => []
  | n + 1, from_, goal =>
    if from_ < goal then
      if goal / 8 > (from_ + 1) / 8 then '\t' :: indent n (from_ + 8 - from_ % 8) goal
      else ' ' :: indent n (from_ + 1) goal
    else []

/-- The widths of columns for texts of these lengths: as many columns as fit. -/
def columnWidths (down : Bool) (width : Nat) (lengths : List Nat) : List Nat :=
  let count := lengths.length
  let most := min count (max 1 (width / 3 + (if width % 3 ≠ 0 then 1 else 0)))
  let most := if width = 0 then count else most
  let widthsFor (columns : Nat) : List Nat :=
    let place (i : Nat) : Nat :=
      if down then i / ((count + columns - 1) / columns) else i % columns
    lengths.zipIdx.foldl (fun ws (length, i) =>
      let k := place i
      ws.modify k fun old => max old (length + if k + 1 = columns then 0 else 2))
      (List.replicate columns 3)
  let fits (columns : Nat) : Bool :=
    columns ≤ 1 || width = 0 || (widthsFor columns).foldl (· + ·) 0 < width
  match ((List.range most).reverse.map (· + 1)).find? fits with
  | some columns => widthsFor columns
  | none => widthsFor 1

/-- Names in columns, in order down or across. -/
def inColumns (down : Bool) (width : Nat) (names : List Octets) : Octets :=
  let widths := columnWidths down width (names.map List.length)
  let columns := widths.length
  let rows := (names.length + columns - 1) / columns
  let cell (row column : Nat) : Option Octets :=
    names[if down then column * rows + row else row * columns + column]?
  let line (row : Nat) : Octets :=
    let rec go : Nat → Nat → Nat → Octets
      | 0, _, _ => []
      | n + 1, column, start =>
        match cell row column with
        | none => []
        | some o =>
          let next := start + widths[column]?.getD 0
          let more := column + 1 < columns && (cell row (column + 1)).isSome
          o ++ (if more then indent 1000 (start + o.length) next else []) ++ go n (column + 1) next
    go columns 0 0 ++ ['\n']
  ((List.range rows).map line).flatten

/-- Names with commas between them. -/
def withCommas (width : Nat) (names : List Octets) : Octets :=
  let (o, _) := names.zipIdx.foldl (fun (taken, pos) (o, i) =>
    if i = 0 then (taken ++ o, o.length)
    else if width = 0 || pos + o.length + 2 < width then
      (taken ++ ", ".toList ++ o, pos + 2 + o.length)
    else (taken ++ ",\n".toList ++ o, o.length)) ([], 0)
  o ++ ['\n']

/-- All items in the arrangement that is asked for. -/
def arranged (w : Wishes) (f : Files) (cwd : Nat) (items : List Item) : Octets :=
  if items.isEmpty then []
  else
    let widest (g : Item → Octets) : Nat := (items.map fun i => (g i).length).foldl max 0
    let numberWidth := widest fun i => Nat.toDigits 10 (i.node + 1000)
    let blockWidth := widest (blockTextOf w f)
    let fronts := items.map (frontOf w f numberWidth blockWidth)
    let names := (items.zip fronts).map fun (i, front) => front ++ nameOf w f i
    match w.layout with
    | .lines => names.flatMap (· ++ [w.lineEnd])
    | .long => longLines w f cwd fronts items
    | .columns => inColumns true w.width names
    | .across => inColumns false w.width names
    | .commas => withCommas w.width names

/-! ### Directories -/

/-- The line with the size of everything. -/
def total (w : Wishes) (f : Files) (items : List Item) : Octets :=
  if w.layout = .long || w.blocks then
    let blocks := (items.map fun i => blocksOf f i.node).foldl (· + ·) 0
    "total ".toList ++ w.blockText (blocks * 1024) ++ [w.lineEnd]
  else []

/-- The items of a directory. -/
def itemsOf (w : Wishes) (f : Files) (cwd dir : Nat) (path : Octets) : List Item :=
  let parent := match f.body? dir with
    | some (.directory parent _) => parent
    | _ => dir
  let dots := if w.dots then [(['.'], dir), (['.', '.'], parent)] else []
  let shown := ((f.entries? dir).getD []).filter fun (name, _) =>
    (w.hidden || name.head? ≠ some '.') && !w.skips.any (Pattern.accepts · name)
  let items := (dots ++ shown).map fun (name, n) =>
    let path := Paths.join path name
    let node := if w.follows then ((f.resolve cwd path true).toOption).getD n else n
    ({ name, path, node } : Item)
  sort w f items

/-- Shows a directory and, if that is asked for, those below it. Gives whether one could not be
shown, and whether nothing was printed yet. -/
def directory (w : Wishes) : Nat → Bool → Bool → Octets → Bool → Tool (Nat × Bool)
  | 0, _, _, _, first => pure (1, first)
  | depth + 1, named, atTop, path, first => do
    let cwd ← Tool.cwd
    let f ← Tool.files
    match f.resolve cwd path true with
    | .error e =>
      Tool.warn ("cannot open directory ".toList ++ Quoting.quoted path ++ ": ".toList ++ e.wording)
      pure (if atTop then 2 else 1, first)
    | .ok n =>
      if !f.allows n .read then
        Tool.warn ("cannot open directory ".toList ++ Quoting.quoted path ++ ": ".toList
          ++ Errno.accessDenied.wording)
        pure (if atTop then 2 else 1, first)
      else
        if named then
          Tool.print ((if first then [] else ['\n']) ++ w.shown path ++ ":\n".toList)
        let items := itemsOf w f cwd n path
        Tool.print (total w f items ++ arranged w f cwd items)
        if !w.recursive then pure (0, false)
        else
          let mut status := 0
          for i in items do
            if f.isDirectory i.node && !Paths.isDots i.name then
              let (s, _) ← directory w depth true false i.path false
              status := max status s
          pure (status, false)

def grammar : Grammar where
  short := Grammar.letters "abcdfghiklmnopqrstuvw:xABCDFGHI:LNQRST:UXZ1"
  long := [("all", .none, "a"), ("escape", .none, "b"), ("directory", .none, "d"),
    ("dired", .none, "D"), ("full-time", .none, "l"),
    ("group-directories-first", .none, "first"), ("human-readable", .none, "h"),
    ("inode", .none, "i"), ("kibibytes", .none, "k"), ("numeric-uid-gid", .none, "n"),
    ("no-group", .none, "G"), ("hide-control-chars", .none, "q"), ("reverse", .none, "r"),
    ("size", .none, "s"), ("width", .required, "w"), ("almost-all", .none, "A"),
    ("ignore-backups", .none, "B"), ("classify", .optional, "F"), ("file-type", .none, "type"),
    ("si", .none, "si"), ("dereference-command-line", .none, "H"),
    ("dereference-command-line-symlink-to-dir", .none, "H"), ("hide", .required, "hide"),
    ("ignore", .required, "I"), ("indicator-style", .required, "indicator"),
    ("dereference", .none, "L"), ("literal", .none, "N"), ("quote-name", .none, "Q"),
    ("quoting-style", .required, "style"), ("recursive", .none, "R"),
    ("format", .required, "format"),
    ("show-control-chars", .none, "show"), ("sort", .required, "sort"), ("tabsize", .required, "T"),
    ("time", .required, "time"), ("time-style", .required, "timestyle"), ("zero", .none, "zero"),
    ("color", .optional, "color"), ("hyperlink", .optional, "link"),
    ("block-size", .required, "block"), ("context", .none, "Z"), ("author", .none, "author"),
    ("help", .none, "help"), ("version", .none, "version")]
  failure := 2

/-- The layout that the last option about it asks for. -/
def layoutOf (cs : List Choice) : Tool Layout := do
  match cs.reverse.find? fun c =>
      ["l", "g", "o", "n", "1", "C", "x", "m", "format", "zero"].contains c.key with
  | none => pure .lines
  | some c =>
    match c.key with
    | "C" => pure .columns
    | "x" => pure .across
    | "m" => pure .commas
    | "1" | "zero" =>
      pure (if ["l", "g", "o", "n"].any (Choice.has cs) then .long else .lines)
    | "format" =>
      let i ← Tool.oneOf 1 "--format" [["verbose", "long"], ["commas"], ["horizontal", "across"],
        ["vertical"], ["single-column"]] (c.value.getD [])
      pure ([Layout.long, .commas, .across, .columns, .lines][i]?.getD .lines)
    | _ => pure .long

def orderOf (cs : List Choice) : Tool Order := do
  match cs.reverse.find? fun c => ["t", "S", "X", "v", "U", "f", "sort"].contains c.key with
  | none => pure .name
  | some c =>
    match c.key with
    | "t" => pure .time
    | "S" => pure .size
    | "X" => pure .suffix
    | "v" => pure .version
    | "sort" =>
      let i ← Tool.oneOf 1 "--sort" [["none"], ["time"], ["size"], ["extension"], ["version"],
        ["width"]] (c.value.getD [])
      pure ([Order.none, .time, .size, .suffix, .version, .width][i]?.getD .name)
    | _ => pure .none

/-- How names are written. -/
def writingOf (cs : List Choice) : Tool (Octets → Octets) := do
  match cs.reverse.find? fun c => ["b", "Q", "N", "style"].contains c.key with
  | none =>
    pure (if Choice.latest? cs ["q", "show"] = some "q" then
      (·.map fun c => if Quoting.isPlain c then c else '?') else id)
  | some c =>
    match c.key with
    | "b" => pure Quoting.escaped
    | "Q" => pure Quoting.doubled
    | "style" =>
      let i ← Tool.oneOf 1 "--quoting-style" [["literal"], ["shell"], ["shell-always"],
        ["shell-escape"], ["shell-escape-always"], ["c"], ["c-maybe"], ["escape"], ["locale"],
        ["clocale"]] (c.value.getD [])
      pure (match i with
        | 0 => id
        | 1 | 3 => Quoting.name
        | 2 | 4 => Quoting.quoted
        | 7 => Quoting.escaped
        | 8 => Quoting.shown
        | _ => Quoting.doubled)
    | _ => pure id

/-- Words that say when to do something. -/
def always : List (List String) :=
  [["always", "yes", "force"], ["never", "no", "none"], ["auto", "tty", "if-tty"]]

/-- How sizes are written: those of files, and those of what they take up. -/
def sizesOf (cs : List Choice) : Tool ((Nat → Octets) × (Nat → Octets)) := do
  match cs.reverse.find? fun c => ["h", "si", "block"].contains c.key with
  | none => pure (Nat.toDigits 10, inUnits 1024)
  | some c =>
    match c.key, c.value with
    | "h", _ => pure (human 1024, human 1024)
    | "si", _ => pure (human 1000, human 1000)
    | _, value =>
      let o := value.getD []
      match Numeral.scaled? o with
      | some (unit + 1) =>
        let mark := if o.head?.any Char.isDigit then [] else o
        let text (bytes : Nat) : Octets := inUnits (unit + 1) bytes ++ mark
        pure (text, text)
      | _ => Tool.fail 2 ("invalid --block-size argument ".toList ++ Quoting.shown o)

/-- What the options ask for. -/
def wishesOf (cs : List Choice) : Tool Wishes := do
  let has := Choice.has cs
  let hidden := Choice.latest? cs ["a", "A", "f"]
  let indicator ←
    match cs.reverse.find? fun c => ["F", "p", "type", "indicator"].contains c.key with
    | none => pure 0
    | some c =>
      match c.key with
      | "F" =>
        match c.value with
        | none => pure 3
        | some o =>
          let i ← Tool.oneOf 1 "--classify" always o
          pure (if i = 0 then 3 else 0)
      | "p" => pure 1
      | "type" => pure 2
      | _ =>
        Tool.oneOf 1 "--indicator-style" [["none"], ["slash"], ["file-type"], ["classify"]]
          (c.value.getD [])
  match Choice.last? cs "color" with
  | some o =>
    let _ ← Tool.oneOf 1 "--color" always o
  | none => pure ()
  match Choice.last? cs "link" with
  | some o =>
    let _ ← Tool.oneOf 1 "--hyperlink" always o
  | none => pure ()
  match Choice.last? cs "time" with
  | some o =>
    let _ ← Tool.oneOf 1 "--time" [["atime", "access", "use"], ["ctime", "status"],
      ["mtime", "modification"], ["birth", "creation"]] o
  | none => pure ()
  match (Choice.last? cs "T").filter fun o => (Octets.number? o).isNone with
  | some o => Tool.fail 2 ("invalid tab size: ".toList ++ Quoting.shown o)
  | none => pure ()
  let sizes ← sizesOf cs
  let width ← match Choice.last? cs "w" with
    | none => pure 80
    | some o =>
      match Octets.number? o with
      | some n => pure n
      | none => Tool.fail 2 ("invalid line width: ".toList ++ Quoting.shown o)
  let layout ← layoutOf cs
  let ignored := cs.filterMap fun c =>
    if c.key = "I" || (c.key = "hide" && hidden.isNone) then c.value else none
  let ignored := if has "B" then ['*', '~'] :: ignored else ignored
  let order ← orderOf cs
  pure
    { layout
      order := if order = .name && has "t" then .time else order
      reversed := has "r"
      hidden := hidden.isSome
      dots := hidden = some "a" || hidden = some "f"
      plainDirectories := has "d"
      recursive := has "R" && !has "d"
      follows := has "L"
      slashes := indicator ≥ 1
      marks := indicator ≥ 2
      executables := indicator = 3
      numbers := has "i"
      blocks := has "s"
      owner := !has "g"
      group := !has "o" && !has "G"
      numeric := has "n"
      directoriesFirst := has "first"
      width
      sizeText := sizes.1
      blockText := sizes.2
      lineEnd := if has "zero" then '\x00' else '\n'
      shown := ← writingOf cs
      skips := ignored.map fun o => Pattern.ofGlyphs (o.map fun c => ⟨c, false⟩) }

def ls (args : List Octets) : Tool Nat := do
  let (cs, operands) ← grammar.parse args
  let w ← wishesOf cs
  let cwd ← Tool.cwd
  let mut status := 0
  let mut others : List Item := []
  let mut found : List Item := []
  let followsLinks := w.follows || Choice.has cs "H"
    || !(w.plainDirectories || w.layout = .long || w.marks)
  for path in if operands.isEmpty then [['.']] else operands do
    let f ← Tool.files
    let outcome : Except Errno Nat :=
      match f.resolve cwd path followsLinks, f.resolve cwd path false with
      | .ok n, .ok link =>
        if followsLinks && !w.follows && !f.isDirectory n && !Choice.has cs "H" then .ok link
        else .ok n
      | .error e, .ok link => if w.follows then .error e else .ok link
      | r, _ => r
    match outcome with
    | .error e =>
      Tool.warn ("cannot access ".toList ++ Quoting.quoted path ++ ": ".toList ++ e.wording)
      status := 2
    | .ok n =>
      let item : Item := { name := path, path, node := n }
      if f.isDirectory n && !w.plainDirectories then found := item :: found
      else others := item :: others
  let f ← Tool.files
  let plain := sort w f others.reverse
  let directories := sort w f found.reverse
  Tool.print (arranged w f cwd plain)
  let named := w.recursive || !(plain.isEmpty && operands.length ≤ 1 && directories.length = 1)
  let mut first := plain.isEmpty
  for i in directories do
    let (s, next) ← directory w 4096 named true i.path first
    status := max status s
    first := next
  pure status

end MatchedLines.Host.Listing
