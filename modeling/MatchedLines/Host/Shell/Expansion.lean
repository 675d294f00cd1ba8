import MatchedLines.Host.Shell.Arithmetic
/-!
From words to fields. The parts of a word are replaced first, and each piece keeps how it may be
cut: only what was put in without quotes is cut at the separators, and only what was not quoted can
be a pattern for file names.
-/

namespace MatchedLines.Host.Shell

/-- What a replaced word is made of. -/
inductive Mark where
  | char (c : Char) (quoted : Bool)
  /-- Quotes stood here, so there is a field even if nothing else is in it. -/
  | edge
  /-- One value of a list ends and the next begins. -/
  | gap
  deriving DecidableEq

/-- Where a piece of a replaced word can be cut. -/
inductive Cut where
  | never
  /-- At the separators of fields. -/
  | separators
  /-- Only where one value of a list ends. -/
  | gaps
  deriving DecidableEq

structure Piece where
  marks : List Mark
  cut : Cut

/-- How a word is replaced. -/
structure Manner where
  /-- It will be cut into fields. -/
  full : Bool := false
  /-- It stands inside the braces of a parameter, where plain text can be cut too. -/
  inBraces : Bool := false
  /-- A home directory may begin it. -/
  home : Bool := false
  /-- It assigns a value, in which each part of a list may begin with a home directory. -/
  assigns : Bool := false

namespace Mark

def ofText (quoted : Bool) (o : Octets) : List Mark := o.map (.char · quoted)

/-- The characters. -/
def text (marks : List Mark) : Octets := marks.filterMap fun mark =>
  match mark with
  | .char c _ => some c
  | _ => none

def glyphs (marks : List Mark) : List Glyph := marks.filterMap fun mark =>
  match mark with
  | .char c quoted => some ⟨c, quoted⟩
  | _ => none

end Mark

namespace Piece

def text (pieces : List Piece) : Octets := pieces.flatMap fun p => Mark.text p.marks

def glyphs (pieces : List Piece) : List Glyph := pieces.flatMap fun p => Mark.glyphs p.marks

/-- The piece for a value that was put in. -/
def ofValue (quoted : Bool) (o : Octets) : Piece :=
  ⟨Mark.ofText quoted o, if quoted then .never else .separators⟩

/-! ### Cutting into fields -/

/-- The state of cutting: the fields so far and the current one, both last first. -/
structure Cutting where
  fields : List (List Mark) := []
  current : List Mark := []
  /-- The last separator was a blank. -/
  blank : Bool := false
  /-- A field has just ended, and blanks that follow do not count. -/
  skipping : Bool := false

def isSeparator (separators : Octets) : Mark → Bool
  | .char c _ => separators.contains c
  | .gap => true
  | .edge => false

def isBlank : Mark → Bool
  | .char c _ => c = ' ' || c = '\t' || c = '\n'
  | .gap => true
  | .edge => false

namespace Cutting

def add (s : Cutting) (m : Mark) : Cutting :=
  { s with current := m :: s.current, skipping := false }

def close (s : Cutting) : Cutting :=
  { s with fields := s.current.reverse :: s.fields, current := [] }

/-- One character of a piece that is cut at separators; `afterGaps` says that the piece before it
was cut at gaps. -/
def step (separators : Octets) (afterGaps : Bool) (s : Cutting) (m : Mark) : Cutting :=
  if !isSeparator separators m then s.add m
  else if s.skipping && isBlank m then s
  else if s.skipping && s.blank then { s with blank := false }
  else
    let s := { s with skipping := false, blank := if afterGaps then s.blank else isBlank m }
    if s.current.isEmpty && s.blank then s
    else { s.close with skipping := true }

/-- One piece; the flag says that the one before it was cut at gaps. -/
def piece (separators : Octets) (state : Cutting × Bool) (p : Piece) : Cutting × Bool :=
  let (s, afterGaps) := state
  match p.cut with
  | .never => (p.marks.foldl add s, afterGaps)
  | .separators =>
    let s := p.marks.foldl (step separators afterGaps) { s with blank := false, skipping := false }
    ({ s with skipping := false }, false)
  | .gaps =>
    (p.marks.foldl (fun s m => if m = .gap then s.close else s.add m)
      { s with blank := false, skipping := false }, true)

end Cutting

/-- The fields of a replaced word. -/
def fields (separators : Octets) (pieces : List Piece) : List (List Mark) :=
  let (s, afterGaps) := pieces.foldl (Cutting.piece separators) ({}, false)
  let s := if afterGaps || !s.current.isEmpty then s.close else s
  s.fields.reverse

end Piece

/-! ### File names -/

/-- Whether brackets at the front of a text, after the opening one, are closed in the same name. -/
def closesSet : List Glyph → Bool
  | ⟨'!', false⟩ :: gs => go (gs.length + 1) gs
  | gs => go (gs.length + 1) gs
where
  go : Nat → List Glyph → Bool
    | 0, _ => false
    | n + 1, gs =>
      let gs := match gs with
        | ⟨'\\', false⟩ :: gs => gs
        | gs => gs
      match gs with
      | [] | ⟨'/', _⟩ :: _ => false
      | _ :: ⟨']', false⟩ :: _ => true
      | _ :: gs => go n gs

/-- Cuts a path before the first name with a pattern: what stands before, the name, and what
follows it unless it is the last one. Nothing if there is no pattern. -/
def cutAtPattern : Nat → List Glyph → List Glyph → List Glyph → Bool →
    Option (List Glyph × List Glyph × Option (List Glyph))
  | 0, _, _, _, _ => none
  | _ + 1, before, name, [], isPattern =>
    if isPattern then some (before.reverse, name.reverse, none) else none
  | n + 1, before, name, g :: gs, isPattern =>
    match g, gs with
    | ⟨'\\', false⟩, h :: gs =>
      if h.char = '/' then
        if isPattern then some (before.reverse, name.reverse, some gs)
        else cutAtPattern n (h :: name ++ before) [] gs false
      else cutAtPattern n before (h :: g :: name) gs isPattern
    | ⟨'/', _⟩, gs =>
      if isPattern then some (before.reverse, name.reverse, some gs)
      else cutAtPattern n (g :: name ++ before) [] gs false
    | g, gs =>
      let active := g = ⟨'*', false⟩ || g = ⟨'?', false⟩ || (g = ⟨'[', false⟩ && closesSet gs)
      cutAtPattern n before (g :: name) gs (isPattern || active)

/-- The text that is left when backslashes have done their work. -/
def unescaped : List Glyph → Octets
  | [] => []
  | [g] => [g.char]
  | ⟨'\\', false⟩ :: g :: gs => g.char :: unescaped gs
  | g :: gs => g.char :: unescaped gs

/-- The files that a path with patterns stands for, in no order. -/
def matchFiles (f : Files) (cwd : Nat) : Nat → Octets → List Glyph → List Octets
  | 0, _, _ => []
  | n + 1, dir, gs =>
    match cutAtPattern (gs.length + 1) [] [] gs false with
    | none =>
      let path := dir ++ unescaped gs
      if dir.isEmpty then []
      else match f.resolve cwd path false with
        | .ok _ => [path]
        | .error _ => []
    | some (before, name, rest) =>
      let dir := dir ++ unescaped before
      match f.resolve cwd (if dir.isEmpty then ['.'] else dir) true with
      | .error _ => []
      | .ok node =>
        match f.entries? node with
        | none => []
        | some entries =>
          if !f.allows node .read then []
          else
            let atoms := Pattern.ofGlyphs name
            let first := match name with
              | ⟨'\\', false⟩ :: g :: _ => some g.char
              | g :: _ => some g.char
              | [] => none
            let names := ['.'] :: ['.', '.'] :: entries.map Prod.fst
            let found := names.filter fun m =>
              (first = some '.' || m.head? ≠ some '.') && Pattern.accepts atoms m
            match rest with
            | none => found.map (dir ++ ·)
            | some rest => found.flatMap fun m => matchFiles f cwd n (dir ++ m ++ ['/']) rest

/-- A field as it is, or the files it stands for if it is a pattern that some file matches. -/
def filesOf (f : Files) (cwd : Nat) (field : List Mark) : List Octets :=
  let gs := Mark.glyphs field
  if !Pattern.isActive gs then [Mark.text field]
  else
    let found := matchFiles f cwd (gs.length + 1) [] gs
    if found.isEmpty then [Mark.text field] else Octets.sort found

/-! ### Home directories -/

/-- The home directories of users that are known by name. -/
def homes : List (String × String) :=
  [("root", "/root"), ("daemon", "/usr/sbin"), ("bin", "/bin"), ("sys", "/dev"), ("sync", "/bin"),
    ("games", "/usr/games"), ("man", "/var/cache/man"), ("lp", "/var/spool/lpd"),
    ("mail", "/var/mail"), ("news", "/var/spool/news"), ("uucp", "/var/spool/uucp"),
    ("proxy", "/bin"), ("www-data", "/var/www"), ("backup", "/var/backups"),
    ("list", "/var/list"), ("irc", "/run/ircd"), ("_apt", "/nonexistent"),
    ("nobody", "/nonexistent"), ("model", "/home/model")]

/-- The directory that a tilde and a name stand for. -/
def homeOf (name : Octets) : Sh (Option Octets) :=
  if name.isEmpty then Sh.value? "HOME".toList
  else pure ((homes.lookup (String.ofList name)).map String.toList)

/-- A text at whose front a home directory may stand: the parts to put in its place. -/
def replaceHome (assigns isLast : Bool) (o : Octets) : Sh Word := do
  match o with
  | '~' :: rest =>
    let name := rest.takeWhile fun c => c ≠ '/' && !(assigns && c = ':')
    let after := rest.drop name.length
    let dir ← if after.isEmpty && !isLast then pure none else homeOf name
    match dir with
    | some (c :: dir) => pure [.text (c :: dir) true, .text after false]
    | _ => pure [.text o false]
  | o => pure [.text o false]

/-- Cuts a value after each colon, and first after an equals sign if `pair` says that there is
one. -/
def cutList (pair : Bool) : Octets → Octets → List Octets
  | taken, [] => [taken.reverse]
  | taken, c :: o =>
    if c = ':' then (c :: taken).reverse :: cutList pair [] o
    else if pair && c = '=' then (c :: taken).reverse :: cutList false [] o
    else cutList pair (c :: taken) o

/-- Puts home directories in for tildes. -/
def replaceHomes (m : Manner) (word : Word) : Sh Word := do
  if !m.home && !m.assigns then pure word
  else go m.home true word
where
  pieces (isLast : Bool) : List Octets → Sh Word
    | [] => pure []
    | [o] => replaceHome m.assigns isLast o
    | o :: rest => return (← replaceHome m.assigns true o) ++ (← pieces isLast rest)
  go (atFront first : Bool) : Word → Sh Word
    | [] => pure []
    | .text o false :: rest => do
      let here : Word ←
        if m.assigns then
          match cutList (first && !m.home) [] o with
          | [] => pure []
          | o :: more =>
            let front ←
              if atFront then replaceHome true (more.isEmpty && rest.isEmpty || !more.isEmpty) o
              else pure [.text o false]
            pure (front ++ (← pieces rest.isEmpty more))
        else if atFront then replaceHome false rest.isEmpty o
        else pure [.text o false]
      return here ++ (← go false false rest)
    | part :: rest => do return part :: (← go false first rest)

/-! ### Parameters -/

/-- Removes line feeds at the end of what a command wrote, and all zero bytes. -/
def cleaned (o : Octets) : Octets :=
  ((o.filter (· ≠ '\x00')).reverse.dropWhile (· = '\n')).reverse

/-- The value of a parameter other than a list, unless it is not set. -/
def parameter? (name : Octets) : Sh (Option Octets) := do
  let s ← get
  match name with
  | ['#'] => pure (some (Nat.toDigits 10 s.arguments.length))
  | ['?'] => pure (some (Nat.toDigits 10 s.status))
  | ['$'] => pure (some (Nat.toDigits 10 s.rootPid))
  | ['!'] =>
    pure (if s.lastBackground = 0 then none else some (Nat.toDigits 10 s.lastBackground))
  | ['-'] => pure (some (Setting.letters s.settings))
  | name =>
    match Octets.number? name with
    | some 0 => pure (some s.name)
    | some n => pure s.arguments[n - 1]?
    | none => Sh.value? name

/-- Joins values by what stands between them. -/
def joinMarks (between : List Mark) (quoted : Bool) (values : List Octets) : List Mark :=
  between.intercalate (values.map (Mark.ofText quoted))

/-- The values of a list of arguments. -/
def listPiece (m : Manner) (isAt quoted : Bool) : Sh Piece := do
  let s ← get
  let values := s.arguments
  let separators ← Sh.value? "IFS".toList
  if isAt && quoted && m.full then
    pure ⟨joinMarks [.gap] true values, if values.isEmpty then .never else .gaps⟩
  else if m.full && !quoted then
    let between : Mark := if separators.isSome then .gap else .char ' ' false
    pure ⟨joinMarks [between] false values, .separators⟩
  else
    let between := Mark.ofText quoted ((separators.getD [' ']).take 1)
    pure ⟨joinMarks between quoted values,
      if quoted && !(isAt && !values.isEmpty) then .never
      else if quoted then .gaps else .separators⟩

/-- Complains that a parameter is not set. -/
def notSet {α : Type} (name : Octets) (message : Octets) : Sh α :=
  Sh.fail (name ++ ": ".toList ++ message)

/-- Replaces the parts of a word; `run` gives what commands inside it write. -/
def replace (run : Option Command → Sh Octets) : Nat → Manner → Word → Sh (List Piece)
  | 0, _, _ => Sh.exhausted
  | n + 1, m, word => do
    parts n m (← replaceHomes m word)
where
  parts : Nat → Manner → Word → Sh (List Piece)
    | 0, _, _ => Sh.exhausted
    | _ + 1, _, [] => pure []
    | n + 1, m, .mark :: .parameter ['@'] .value true :: .mark :: rest => do
      let piece ← listPiece m true true
      return piece :: (← parts n m rest)
    | n + 1, m, part :: rest => do
      let pieces ← one n m part
      return pieces ++ (← parts n m rest)
  one : Nat → Manner → Part → Sh (List Piece)
    | 0, _, _ => Sh.exhausted
    | n + 1, m, part => do
      match part with
      | .text o quoted =>
        pure [⟨Mark.ofText quoted o, if m.inBraces && !quoted then .separators else .never⟩]
      | .mark => pure [⟨[.edge], .never⟩]
      | .output body quoted => return [Piece.ofValue quoted (cleaned (← run body))]
      | .arithmetic expression quoted =>
        let o := Piece.text (← replace run n {} expression)
        return [Piece.ofValue quoted (Octets.ofInt (← Arithmetic.evaluate o))]
      | .parameter name form quoted =>
        let isList := name = ['@'] || name = ['*']
        /- The value, and its length unless it is not set. -/
        let value : Sh (Piece × Option Nat) := do
          if isList then
            let piece ← listPiece m (name = ['@']) quoted
            pure (piece, some piece.marks.length)
          else
            let o ← parameter? name
            pure (Piece.ofValue quoted (o.getD []), o.map List.length)
        let required : Sh (Piece × Nat) := do
          match ← value with
          | (piece, some length) => pure (piece, length)
          | (piece, none) =>
            if ← Sh.isOn .nounset then notSet name "parameter not set".toList
            else pure (piece, 0)
        match form with
        | .value =>
          let (piece, _) ← required
          pure [piece]
        | .bad => Sh.fail "Bad substitution".toList
        | .length =>
          let (_, length) ← required
          pure [Piece.ofValue quoted (Nat.toDigits 10 length)]
        | .trim atEnd longest pattern =>
          let (piece, _) ← required
          let gs := Piece.glyphs (← replace run n { home := true } pattern)
          let o := Mark.text piece.marks
          let atoms := Pattern.ofGlyphs gs
          let trimmed :=
            if atEnd then Pattern.trimEnd atoms longest o else Pattern.trimFront atoms longest o
          pure [Piece.ofValue quoted trimmed]
        | .fallback kind evenEmpty word =>
          let (piece, length) ← value
          let lacking := match length with
            | none => true
            | some length => evenEmpty && length = 0
          let inner := { m with inBraces := true, home := true }
          if kind = '+' then
            if lacking then pure [] else replace run n inner word
          else if !lacking then pure [piece]
          else if kind = '-' then replace run n inner word
          else
            let o := Piece.text (← replace run n { home := true } word)
            if kind = '=' then
              Sh.assign name o
              pure [(← value).1]
            else
              notSet name
                (if !word.isEmpty then o
                else if evenEmpty then "parameter not set or null".toList
                else "parameter not set".toList)

/-- The bound on nested words. -/
def maxWordDepth : Nat := 100000

/-- The fields of words, with file names for patterns. Words that assign keep their values whole
if `pairs` asks for it. -/
def expandWord (run : Option Command → Sh Octets) (pairs : Bool) (word : Word) :
    Sh (List Octets) := do
  match word with
  | [.text o false] =>
    if !o.any (fun c => c = '*' || c = '?' || c = '[' || c = '~') then pure [o] else general
  | _ => general
where
  general : Sh (List Octets) := do
    if pairs && Word.isAssignment word then
      return [Piece.text (← replace run maxWordDepth { assigns := true } word)]
    else
      let pieces ← replace run maxWordDepth { full := true, home := true } word
      let fields := Piece.fields (← Sh.separators) pieces
      let s ← get
      if s.settings.contains .noglob then pure (fields.map Mark.text)
      else
        let files := (← Sh.act Act.files)
        pure (fields.flatMap (filesOf files s.process.cwd))

/-- The text of a word that stays one. -/
def expandText (run : Option Command → Sh Octets) (word : Word) : Sh Octets :=
  return Piece.text (← replace run maxWordDepth { home := true } word)

/-- The value that an assignment gives, with the name and the equals sign in front. -/
def expandPair (run : Option Command → Sh Octets) (word : Word) : Sh Octets :=
  return Piece.text (← replace run maxWordDepth { assigns := true } word)

/-- The text that a redirection reads from the script. -/
def expandBody (run : Option Command → Sh Octets) (word : Word) : Sh Octets :=
  return Piece.text (← replace run maxWordDepth {} word)

/-- The pattern that a word spells. -/
def expandPattern (run : Option Command → Sh Octets) (word : Word) : Sh (List Pattern.Atom) :=
  return Pattern.ofGlyphs (Piece.glyphs (← replace run maxWordDepth { home := true } word))

end MatchedLines.Host.Shell
