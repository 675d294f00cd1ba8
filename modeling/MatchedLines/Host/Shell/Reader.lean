import MatchedLines.Host.Shell.Script
/-!
Reading a script. It is read one complete command at a time, as far as its line goes, so that a
mistake further down is met only after what stands before it was carried out, and so that an alias
holds from the next line on. The bound on the steps is far above what any script needs.
-/

namespace MatchedLines.Host.Shell

/-- The pieces that a script is cut into. -/
inductive Token where
  | endOfFile
  | newline
  | sign (sign : String)
  | redirection
  | word
  | keyword (word : String)
  deriving DecidableEq, Repr

namespace Token

/-- The token as complaints show it. -/
def shown : Token → Octets
  | endOfFile => "end of file".toList
  | newline => "newline".toList
  | redirection => "redirection".toList
  | word => "word".toList
  | sign s | keyword s => '"' :: (s.toList ++ ['"'])

/-- Whether a list of commands inside a larger one ends here. -/
def isEnd : Token → Bool
  | endOfFile => true
  | sign s => s = ")" || s = ";;"
  | keyword s =>
    ["do", "done", "elif", "else", "esac", "fi", "then", "\x7d"].contains s
  | _ => false

end Token

/-- A text of the script that is still to be read, at the end of the current line. -/
structure Pending where
  index : Nat
  delimiter : Octets
  stripTabs : Bool
  quoted : Bool

/-- What the next token may be taken for. -/
structure Check where
  /-- Newlines before it are passed over. -/
  newlines : Bool := false
  keywords : Bool := false
  aliases : Bool := false
  /-- It is the delimiter of a text, in which nothing is replaced. -/
  delimiter : Bool := false

/-- What is being read: the script or the text that an alias stands for. -/
structure Layer where
  rest : Octets
  /-- The alias, which is not replaced again inside its own text. -/
  name : Option Octets := none
  /-- The word after the text can be an alias too. -/
  endsBlank : Bool := false

/-- A redirection before its target was read. -/
structure Arrow where
  fd : Nat
  sign : String
  stripTabs : Bool := false

/-- How far a script was read. -/
structure Cursor where
  layer : Layer
  outer : List Layer := []
  line : Nat := 1
  check : Check := {}
  last : Token := .newline
  /-- The last token is still to be looked at. -/
  pushedBack : Bool := false
  word : Word := []
  wordQuoted : Bool := false
  arrow : Arrow := ⟨0, "<", false⟩
  pending : List Pending := []
  /-- The texts that were read, by number. -/
  bodies : List (Nat × Word) := []
  nextIndex : Nat := 0
  aliases : List (Octets × Octets) := []
  /-- The script comes from a file, and its lines can be shown as they are read. -/
  echoes : Bool := false
  /-- The script is typed in, and each command is asked for. -/
  asks : Bool := false

/-- A mistake in the script, with the line on which it was met. -/
structure Mistake where
  line : Nat
  message : Octets

abbrev Reader := StateT Cursor (Except Mistake)

namespace Reader

/-- A bound on the steps of reading. -/
def maxSteps : Nat := 100000000

def fail {α : Type} (message : Octets) : Reader α := do
  throw ⟨(← get).line, "Syntax error: ".toList ++ message⟩

/-- Complains about the last token. -/
def unexpected {α : Type} : Reader α := do fail ((← get).last.shown ++ " unexpected".toList)

/-- Complains that something else was due than the last token. -/
def missing {α : Type} (due : Token) : Reader α := do
  fail ((← get).last.shown ++ " unexpected (expecting ".toList ++ due.shown ++ [')'])

/-! ### Characters -/

/-- Leaves texts of aliases that are used up. -/
def refill (c : Cursor) : List Layer → Cursor
  | [] => { c with outer := [] }
  | next :: outer =>
    if c.layer.rest.isEmpty then
      let check := { c.check with aliases := c.check.aliases || c.layer.endsBlank }
      refill { c with layer := next, check } outer
    else { c with outer := next :: outer }

/-- Takes the next character. -/
def next : Reader (Option Char) := do
  let c ← get
  let c := if c.layer.rest.isEmpty && !c.outer.isEmpty then refill c c.outer else c
  match c.layer.rest with
  | [] =>
    set c
    pure none
  | x :: rest =>
    set { c with layer := { c.layer with rest } }
    pure (some x)

/-- Puts a character back. -/
def back (x : Option Char) : Reader Unit :=
  match x with
  | none => pure ()
  | some x => modify fun c => { c with layer := { c.layer with rest := x :: c.layer.rest } }

def countLine : Reader Unit := modify fun c => { c with line := c.line + 1 }

/-- Takes the next character; a backslash before a newline joins two lines. -/
def nextJoined : Nat → Reader (Option Char)
  | 0 => fail "too long".toList
  | n + 1 => do
    match ← next with
    | some '\\' =>
      match ← next with
      | some '\n' =>
        countLine
        nextJoined n
      | x =>
        back x
        pure (some '\\')
    | x => pure x

/-- Passes over the rest of a line. -/
def skipComment : Nat → Reader Unit
  | 0 => pure ()
  | n + 1 => do
    match ← next with
    | none => pure ()
    | some '\n' => back (some '\n')
    | some _ => skipComment n

/-! ### Words -/

/-- What is special where a word is being read. -/
inductive Ground where
  | base
  | single
  | double
  | arithmetic
  deriving DecidableEq, Repr

/-- One level of reading; a new one begins where the ground changes inside braces. -/
structure Level where
  ground : Ground
  /-- Double quotes were opened again inside braces. -/
  innerDouble : Bool := false
  /-- The level ends with its last brace. -/
  isPushed : Bool := false
  double : Bool := false
  braces : Nat := 0
  brackets : Nat := 0
  doubleBraces : Nat := 0

/-- What a closing brace or bracket will complete. -/
inductive Begun where
  | fallback (name : Octets) (kind : Char) (evenEmpty : Bool)
  | trim (name : Octets) (atEnd longest : Bool)
  | bad (name : Octets)
  | length (name : Octets)
  | arithmetic

/-- Something begun, with the parts that stand before it (last one first) and how they were
quoted. -/
structure Frame where
  begun : Begun
  before : Word
  outerQuoted : Bool
  inQuotes : Bool

/-- The state of reading a word. The texts among its parts are kept in reverse. -/
structure Draft where
  level : Level
  levels : List Level := []
  frames : List Frame := []
  parts : Word := []
  /-- The whole of what is being read stands between quotes. -/
  outerQuoted : Bool := false
  inQuotes : Bool := false
  /-- Some of the word was quoted. -/
  quoteSeen : Bool := false

namespace Draft

def isQuoted (d : Draft) : Bool := d.outerQuoted || d.inQuotes

def addChar (d : Draft) (x : Char) (quoted : Bool) : Draft :=
  match d.parts with
  | .text o q :: rest =>
    if q = quoted then { d with parts := .text (x :: o) q :: rest }
    else { d with parts := .text [x] quoted :: d.parts }
  | parts => { d with parts := .text [x] quoted :: parts }

def addPart (d : Draft) (p : Part) : Draft := { d with parts := p :: d.parts }

/-- A character that stands for itself on the present ground. -/
def addPlain (d : Draft) (x : Char) : Draft := d.addChar x (d.level.ground ≠ .base)

/-- The parts in order. -/
def finished (parts : Word) : Word := parts.reverse.map fun part =>
  match part with
  | .text o q => .text o.reverse q
  | part => part

/-- Begins something that a brace or bracket will complete. -/
def enter (d : Draft) (begun : Begun) : Draft :=
  let quoted :=
    match begun with
    | .trim _ _ _ | .arithmetic => false
    | _ => d.isQuoted
  { d with
    frames := ⟨begun, d.parts, d.outerQuoted, d.inQuotes⟩ :: d.frames
    parts := []
    outerQuoted := quoted
    inQuotes := false }

/-- Completes what was begun last. -/
def leave (d : Draft) : Draft :=
  match d.frames with
  | [] => d
  | f :: frames =>
    let inner := finished d.parts
    let quoted := f.outerQuoted || f.inQuotes
    let part : Part :=
      match f.begun with
      | .fallback name kind evenEmpty => .parameter name (.fallback kind evenEmpty inner) quoted
      | .trim name atEnd longest => .parameter name (.trim atEnd longest inner) quoted
      | .bad name => .parameter name .bad quoted
      | .length name => .parameter name .length quoted
      | .arithmetic => .arithmetic inner quoted
    { d with
      frames
      parts := part :: f.before
      outerQuoted := f.outerQuoted
      inQuotes := f.inQuotes }

def pushLevel (d : Draft) (level : Level) : Draft :=
  { d with level, levels := d.level :: d.levels }

def popLevel (d : Draft) : Draft :=
  match d.levels with
  | [] => d
  | level :: levels => { d with level, levels }

/-- Quotes begin or end; in a text of the script they do not count as such. -/
def toggle (d : Draft) (inText : Bool) : Draft :=
  if inText then d else { d.addPart .mark with inQuotes := !d.inQuotes }

end Draft

/-- The characters that name a parameter on their own. -/
def isSpecial (x : Char) : Bool := "@*#?-$!".toList.contains x || x.isDigit

/-- Takes characters as long as they fit, and gives the one after them too. -/
def takeName (fits : Char → Bool) : Nat → Option Char → Octets → Reader (Octets × Option Char)
  | 0, x, taken => pure (taken.reverse, x)
  | n + 1, x, taken => do
    match x with
    | some y =>
      if fits y then takeName fits n (← nextJoined maxSteps) (y :: taken)
      else pure (taken.reverse, x)
    | none => pure (taken.reverse, none)

/-- The text up to the backquote that closes it, last character first. -/
def takeBackquoted (double : Bool) : Nat → Octets → Reader Octets
  | 0, _ => fail "too long".toList
  | n + 1, taken => do
    match ← nextJoined maxSteps with
    | none => fail "EOF in backquote substitution".toList
    | some '\x60' => pure taken
    | some '\\' =>
      match ← next with
      | none => fail "EOF in backquote substitution".toList
      | some y =>
        if y = '\\' || y = '\x60' || y = '$' || (double && y = '"') then
          takeBackquoted double n (y :: taken)
        else takeBackquoted double n (y :: '\\' :: taken)
    | some '\n' =>
      countLine
      takeBackquoted double n ('\n' :: taken)
    | some y => takeBackquoted double n (y :: taken)

/-- How a parameter in braces goes on after its name: the sign and what it begins. -/
def afterName (name : Octets) (x : Option Char) : Reader (Option Begun) := do
  let fallback (evenEmpty : Bool) (y : Option Char) : Option Begun :=
    match y with
    | some '-' => some (.fallback name '-' evenEmpty)
    | some '+' => some (.fallback name '+' evenEmpty)
    | some '=' => some (.fallback name '=' evenEmpty)
    | some '?' => some (.fallback name '?' evenEmpty)
    | _ => none
  match x with
  | some ':' =>
    let y ← nextJoined maxSteps
    pure (some ((fallback true y).getD (.bad name)))
  | some '%' | some '#' =>
    let y ← nextJoined maxSteps
    let atEnd := x = some '%'
    if y = x then pure (some (.trim name atEnd true))
    else
      back y
      pure (some (.trim name atEnd false))
  | some '\x7d' => pure none
  | y => pure (some ((fallback false y).getD (.bad name)))

/-- Goes on after the name of a parameter in braces. -/
def openBrace (d : Draft) (name : Octets) (begun : Begun) : Draft :=
  let onBase := match begun with
    | .trim _ _ _ => true
    | _ => false
  let ground := if onBase then Ground.base
    else if d.level.ground = .arithmetic then .double else d.level.ground
  let _ := name
  let d := d.enter begun
  let d :=
    if ground ≠ d.level.ground || d.level.innerDouble then
      d.pushLevel { ground, isPushed := true, double := ground ≠ .base }
    else d
  { d with level :=
    { d.level with
      braces := d.level.braces + 1
      doubleBraces := d.level.doubleBraces + (if d.level.double then 1 else 0) } }

/-- What stands after `${`. -/
def braced (d : Draft) : Reader Draft := do
  let close (d : Draft) (name : Octets) (form : Form) : Draft :=
    d.addPart (.parameter name form d.isQuoted)
  let named (name : Octets) (x : Option Char) : Reader Draft := do
    match ← afterName name x with
    | none => pure (close d name .value)
    | some begun => pure (openBrace d name begun)
  let bad (x : Option Char) : Reader Draft := do
    back x
    pure (openBrace d [] (.bad []))
  let lengthOf (name : Octets) (x : Option Char) : Reader Draft := do
    if x = some '\x7d' then pure (close d name .length)
    else
      back x
      pure (openBrace d name (.bad name))
  let x ← nextJoined maxSteps
  match x with
  | none => bad none
  | some '\x7d' => bad x
  | some y =>
    if Octets.isNameStart y then
      let (name, x) ← takeName Octets.isNamePart maxSteps x []
      named name x
    else if y.isDigit then
      let (name, x) ← takeName Char.isDigit maxSteps x []
      named name x
    else
      let z ← nextJoined maxSteps
      if y = '#' then
        match z with
        | some w =>
          if Octets.isNameStart w then
            let (name, x) ← takeName Octets.isNamePart maxSteps z []
            lengthOf name x
          else if w.isDigit then
            let (name, x) ← takeName Char.isDigit maxSteps z []
            lengthOf name x
          else
            let v ← nextJoined maxSteps
            if w = '\x7d' || v ≠ some '\x7d' then
              back v
              named ['#'] z
            else if isSpecial w then pure (close d [w] .length)
            else
              back v
              pure (openBrace d [] (.bad []))
        | none => named ['#'] none
      else if isSpecial y then named [y] z
      else bad z

/-- Whether a text of the script ends at the line that begins with this character. -/
def atDelimiter (delimiter : Octets) (x : Option Char) (rest : Octets) : Option Octets :=
  let o := x.toList ++ rest
  let after := o.drop delimiter.length
  if delimiter.isPrefixOf o && (after.isEmpty || after.head? = some '\n') then some (after.drop 1)
  else none

/-- Passes over tabs. -/
def skipTabs : Nat → Option Char → Reader (Option Char)
  | 0, x => pure x
  | n + 1, x => if x = some '\t' then do skipTabs n (← next) else pure x

/-- At the beginning of a line in a text of the script: the character to go on with, or nothing
where the text ends. -/
def lineStart (text : Pending) (x : Option Char) : Reader (Option Char) := do
  let x ← if text.stripTabs then skipTabs maxSteps x else pure x
  let c ← get
  match atDelimiter text.delimiter x c.layer.rest with
  | some rest =>
    set { c with layer := { c.layer with rest }, line := c.line + 1 }
    pure none
  | none => pure x

/-- Takes the next character of a word. -/
def nextInWord (d : Draft) : Reader (Option Char) :=
  if d.level.ground = .single then next else nextJoined maxSteps

/-- The redirection sign that begins with this character. -/
def arrow (x : Char) (digit : Option Char) : Reader Unit := do
  let step := nextJoined maxSteps
  let (sign, strip) ← do
    let y ← step
    if x = '>' then
      match y with
      | some '>' => pure (">>", false)
      | some '|' => pure (">|", false)
      | some '&' => pure (">&", false)
      | y =>
        back y
        pure (">", false)
    else
      match y with
      | some '<' =>
        match ← step with
        | some '-' => pure ("<<", true)
        | z =>
          back z
          pure ("<<", false)
      | some '&' => pure ("<&", false)
      | some '>' => pure ("<>", false)
      | y =>
        back y
        pure ("<", false)
  let default := if x = '>' then 1 else 0
  let fd := (digit.map fun c => c.toNat - '0'.toNat).getD default
  modify fun c => { c with arrow := ⟨fd, sign, strip⟩ }

/-- Ends a word before the character `x`. -/
def endWord (d : Draft) (text : Option Pending) (x : Option Char) : Reader Token := do
  if d.level.ground = .arithmetic then fail "Missing '))'".toList
  if d.level.ground ≠ .base && text.isNone then fail "Unterminated quoted string".toList
  if d.level.braces ≠ 0 then fail "Missing '\x7d'".toList
  let word := Draft.finished d.parts
  let digit? : Option (Option Char) :=
    if d.quoteSeen then none
    else match word with
      | [] => some none
      | [.text [c] false] => if c.isDigit then some (some c) else none
      | _ => none
  match x, digit?, text with
  | some '>', some digit, none =>
    arrow '>' digit
    pure .redirection
  | some '<', some digit, none =>
    arrow '<' digit
    pure .redirection
  | x, _, _ =>
    back x
    modify fun c => { c with word, wordQuoted := d.quoteSeen }
    pure .word

mutual

/-- Reads a word on from the character `x`; `text` is given when it is a text of the script, and
`fresh` when a line of it begins. -/
def wordFrom : Nat → Option Pending → Bool → Option Char → Draft → Reader Token
  | 0, _, _, _, _ => fail "too long".toList
  | n + 1, text, fresh, x, d => do
    let x ← match text with
      | some p => if fresh then lineStart p x else pure x
      | none => pure x
    match x with
    | none => endWord d text none
    | some y => do
      let level := d.level
      let go (d : Draft) : Reader Token := do
        let z ← nextInWord d
        wordFrom n text false z d
      if y = '\n' then
        if level.ground = .base && level.braces = 0 then endWord d text x
        else
          countLine
          let z ← nextInWord d
          wordFrom n text true z (d.addPlain y)
      else match level.ground, y with
        | .single, '\'' =>
          if text.isSome && level.braces = 0 then go (d.addPlain y)
          else
            go ({ d with
              level := { level with ground := .base, double := false }
              quoteSeen := true }.toggle text.isSome)
        | .single, _ => go (d.addPlain y)
        | _, '\\' =>
          match ← next with
          | none => go (d.addChar '\\' true)
          | some z =>
            let kept := level.double && z ≠ '\\' && z ≠ '\x60' && z ≠ '$'
              && (z ≠ '"' || (text.isSome && level.braces = 0))
              && (z ≠ '\x7d' || level.braces = 0)
            let d := if kept then d.addChar '\\' true else d
            go { d.addChar z true with quoteSeen := true }
        | .base, '\'' =>
          go ({ d with level := { level with ground := .single } }.toggle text.isSome)
        | .base, '"' =>
          let inner := if level.braces > 0 then !level.innerDouble else level.innerDouble
          go ({ d with
            level := { level with ground := .double, double := true, innerDouble := inner } }.toggle
              text.isSome)
        | .double, '"' =>
          if text.isSome && level.braces = 0 then go (d.addPlain y)
          else
            let level := if level.doubleBraces = 0
              then { level with ground := .base, double := false } else level
            let inner := if level.braces > 0 then !level.innerDouble else level.innerDouble
            go ({ d with
              level := { level with innerDouble := inner }, quoteSeen := true }.toggle text.isSome)
        | ground, '$' =>
          if (← get).check.delimiter then go (d.addChar '$' (ground ≠ .base))
          else
            let z ← nextJoined maxSteps
            match z with
            | some '(' =>
              match ← nextJoined maxSteps with
              | some '(' =>
                go ((d.enter .arithmetic).pushLevel { ground := .arithmetic, double := true })
              | w =>
                back w
                let body ← inner n none
                go (d.addPart (.output body d.isQuoted))
            | some '\x7b' => go (← braced d)
            | some w =>
              if Octets.isNameStart w then
                let (name, v) ← takeName Octets.isNamePart maxSteps z []
                back v
                go (d.addPart (.parameter name .value d.isQuoted))
              else if isSpecial w then go (d.addPart (.parameter [w] .value d.isQuoted))
              else
                back z
                go (d.addChar '$' (ground ≠ .base))
            | none => go (d.addChar '$' (ground ≠ .base))
        | ground, '\x60' =>
          if (← get).check.delimiter then go (d.addChar y (ground ≠ .base))
          else
            let taken ← takeBackquoted level.double maxSteps []
            let body ← inner n (some taken.reverse)
            go (d.addPart (.output body d.isQuoted))
        | ground, '\x7d' =>
          if !level.innerDouble && level.braces > 0 then
            let braces := level.braces - 1
            let d := d.leave
            if braces = 0 && level.isPushed then go d.popLevel
            else go { d with level := { level with
              braces, doubleBraces := level.doubleBraces - 1 } }
          else go (d.addChar y (ground ≠ .base))
        | .arithmetic, '(' =>
          go { d.addChar y true with level := { level with brackets := level.brackets + 1 } }
        | .arithmetic, ')' =>
          if level.brackets > 0 then
            go { d.addChar y true with level := { level with brackets := level.brackets - 1 } }
          else
            match ← nextJoined maxSteps with
            | some ')' => go d.leave.popLevel
            | z =>
              back z
              go (d.addChar y true)
        | .base, _ =>
          if "<>();&| \t".toList.contains y && level.braces = 0 then endWord d text x
          else go (d.addPlain y)
        | _, _ => go (d.addPlain y)

/-- The commands inside a word: from here to the closing bracket, or the whole of a text. -/
def inner : Nat → Option Octets → Reader (Option Command)
  | 0, _ => fail "too long".toList
  | n + 1, text => do
    let c ← get
    let fresh : Cursor := { c with pending := [], pushedBack := false, check := {} }
    match text with
    | none =>
      set fresh
      let body ← list n 2
      if (← token n) ≠ .sign ")" then missing (.sign ")")
      texts n
      modify fun after => { after with pending := c.pending, check := c.check }
      pure body
    | some text =>
      set { fresh with layer := { rest := text }, outer := [], line := 1 }
      let body ← list n 2
      texts n
      modify fun after =>
        { after with
          layer := c.layer
          outer := c.outer
          line := c.line
          pending := c.pending
          pushedBack := false
          check := c.check }
      pure body

/-- Reads the texts that were announced on the line that has just ended. -/
def texts : Nat → Reader Unit
  | 0 => fail "too long".toList
  | n + 1 => do
    let c ← get
    match c.pending with
    | [] => pure ()
    | p :: more =>
      let level : Level :=
        if p.quoted then { ground := .single } else { ground := .double, double := true }
      set { c with pending := more, check := {} }
      let d : Draft := { level, outerQuoted := true }
      let x ← nextInWord d
      let _ ← wordFrom n (some p) true x d
      modify fun after =>
        { after with
          bodies := (p.index, after.word) :: after.bodies
          check := c.check }
      texts n

/-- A token, whatever it is taken for. -/
def rawToken : Nat → Reader Token
  | 0 => fail "too long".toList
  | n + 1 => do
    let c ← get
    if c.pushedBack then
      set { c with pushedBack := false }
      pure c.last
    else
      let two (x : Char) (single double : String) : Reader Token := do
        match ← nextJoined maxSteps with
        | some y =>
          if y = x then pure (.sign double)
          else
            back (some y)
            pure (.sign single)
        | none => pure (.sign single)
      match ← nextJoined maxSteps with
      | none => pure .endOfFile
      | some ' ' | some '\t' => rawToken n
      | some '#' =>
        skipComment maxSteps
        rawToken n
      | some '\n' =>
        countLine
        pure .newline
      | some '&' => two '&' "&" "&&"
      | some '|' => two '|' "|" "||"
      | some ';' => two ';' ";" ";;"
      | some '(' => pure (.sign "(")
      | some ')' => pure (.sign ")")
      | x => wordFrom n none false x { level := { ground := .base } }

/-- The next token, as a keyword or an alias where it may be one. -/
def token : Nat → Reader Token
  | 0 => fail "too long".toList
  | n + 1 => do
    let check := (← get).check
    let t ← rawToken n
    let c ← get
    let check : Check :=
      { check with aliases := check.aliases || c.check.aliases }
    if t = .newline && check.newlines then
      set { c with last := t }
      texts n
      modify fun c => { c with check }
      token n
    else
      let plain := if t = .word && !c.wordQuoted then Word.plain? c.word else none
      let keywords := ["!", "case", "do", "done", "elif", "else", "esac", "fi", "for", "if", "in",
        "then", "until", "while", "\x7b", "\x7d"]
      match plain with
      | some o =>
        let text := String.ofList o
        let inUse := (c.layer :: c.outer).any fun layer => layer.name = some o
        if check.keywords && keywords.contains text then
          set { c with last := .keyword text, check := {} }
          pure (.keyword text)
        else match if check.aliases && !inUse then c.aliases.lookup o else none with
          | some value =>
            let endsBlank := value.getLast?.any Octets.isBlank
            set { c with
              check
              layer := { rest := value, name := some o, endsBlank }
              outer := c.layer :: c.outer }
            token n
          | none =>
            set { c with last := t, check := {} }
            pure t
      | none =>
        set { c with last := t, check := {} }
        pure t

/-- A list of commands. Mode 1 is a line of the script; modes 0 and 2 are lists inside a larger
command, and only mode 2 may be empty. -/
def list : Nat → Nat → Reader (Option Command)
  | 0, _ => fail "too long".toList
  | n + 1, mode => listFrom n mode (mode = 1) none

/-- Goes on with a list, given the commands so far. -/
def listFrom : Nat → Nat → Bool → Option Command → Reader (Option Command)
  | 0, _, _, _ => fail "too long".toList
  | n + 1, mode, isLine, before => do
    modify fun c =>
      { c with check := { newlines := !isLine, keywords := true, aliases := true } }
    match ← token n with
    | .newline =>
      texts n
      pure before
    | .endOfFile =>
      texts n
      modify fun c => { c with pushedBack := true, last := .endOfFile }
      pure before
    | t =>
      modify fun c => { c with pushedBack := true }
      if mode = 2 && t.isEnd then pure before
      else
        let line := (← get).line
        let command ← andOr n
        let t ← token n
        let command : Command :=
          if t = .sign "&" then
            match command with
            | .redirected line body redirects => .background line body redirects
            | command => .background line command []
          else command
        let whole : Command :=
          match before with
          | none => command
          | some before => .sequence before command
        match t with
        | .newline | .endOfFile =>
          modify fun c => { c with pushedBack := true }
          listFrom n (if isLine then 3 else 2) isLine (some whole)
        | .sign s =>
          if s = "&" || s = ";" then listFrom n (if isLine then 3 else 2) isLine (some whole)
          else if isLine then unexpected
          else
            modify fun c => { c with pushedBack := true }
            pure (some whole)
        | _ =>
          if isLine then unexpected
          else
            modify fun c => { c with pushedBack := true }
            pure (some whole)

/-- A list inside a larger command, which may not be empty. -/
def body : Nat → Reader Command
  | 0 => fail "too long".toList
  | n + 1 => do
    match ← list n 0 with
    | some c => pure c
    | none => unexpected

/-- Pipelines that depend on one another. -/
def andOr : Nat → Reader Command
  | 0 => fail "too long".toList
  | n + 1 => do andOrFrom n (← pipeline n)

def andOrFrom : Nat → Command → Reader Command
  | 0, _ => fail "too long".toList
  | n + 1, first => do
    let t ← token n
    if t = .sign "&&" || t = .sign "||" then
      modify fun c => { c with check := { newlines := true, keywords := true, aliases := true } }
      let second ← pipeline n
      andOrFrom n (if t = .sign "&&" then .both first second else .either first second)
    else
      modify fun c => { c with pushedBack := true }
      pure first

/-- Commands joined by pipes, which an exclamation mark negates. -/
def pipeline : Nat → Reader Command
  | 0 => fail "too long".toList
  | n + 1 => do
    let t ← token n
    let isNegated := t = .keyword "!"
    if isNegated then
      modify fun c => { c with check := { keywords := true, aliases := true } }
    else modify fun c => { c with pushedBack := true }
    let first ← command n
    let whole : Command ← do
      if (← token n) = .sign "|" then
        let rest ← pipes n
        pure (.pipe (first :: rest))
      else pure first
    modify fun c => { c with pushedBack := true }
    pure (if isNegated then .negated whole else whole)

/-- The commands after the first of a pipeline. -/
def pipes : Nat → Reader (List Command)
  | 0 => fail "too long".toList
  | n + 1 => do
    modify fun c => { c with check := { newlines := true, keywords := true, aliases := true } }
    let c ← command n
    if (← token n) = .sign "|" then return c :: (← pipes n) else pure [c]

/-- Reads the token that is due. -/
def due : Nat → Token → Reader Unit
  | 0, _ => fail "too long".toList
  | n + 1, t => do
    if (← token n) ≠ t then missing t

/-- A command with its redirections. -/
def command : Nat → Reader Command
  | 0 => fail "too long".toList
  | n + 1 => do
    let anything : Check := { newlines := true, keywords := true, aliases := true }
    let t ← token n
    let line := (← get).line
    let closed (inner : Reader Command) (close : Token) : Reader Command := do
      let c ← inner
      due n close
      trailing n line c
    match t with
    | .keyword "if" => closed (branches n) (.keyword "fi")
    | .keyword "while" | .keyword "until" =>
      closed (do
        let test ← body n
        due n (.keyword "do")
        return .loop (t = .keyword "while") test (← body n)) (.keyword "done")
    | .keyword "for" =>
      let t ← token n
      let c ← get
      let name := (Word.plain? c.word).getD []
      if t ≠ .word || c.wordQuoted || !Octets.isName name then
        fail "Bad for loop variable".toList
      modify fun c => { c with check := anything }
      let words ← do
        if (← token n) = .keyword "in" then
          let words ← wordList n
          let last := (← get).last
          if last ≠ .newline && last ≠ .sign ";" then unexpected
          pure words
        else
          if (← get).last ≠ .sign ";" then modify fun c => { c with pushedBack := true }
          pure [([.mark, .parameter ['@'] .value true, .mark] : Word)]
      modify fun c => { c with check := anything }
      due n (.keyword "do")
      closed (return .each line name words (← body n)) (.keyword "done")
    | .keyword "case" =>
      due n .word
      let subject := (← get).word
      modify fun c => { c with check := anything }
      due n (.keyword "in")
      let arms ← arms n
      trailing n line (.choose line subject arms)
    | .sign "(" => closed (return .subshell line (← body n) []) (.sign ")")
    | .keyword "\x7b" => closed (body n) (.keyword "\x7d")
    | .word | .redirection =>
      modify fun c => { c with pushedBack := true }
      simple n line true [] [] []
    | _ => unexpected

/-- A condition from its test on. -/
def branches : Nat → Reader Command
  | 0 => fail "too long".toList
  | n + 1 => do
    let test ← body n
    due n (.keyword "then")
    let yes ← body n
    match ← token n with
    | .keyword "elif" => return .branch test yes (some (← branches n))
    | .keyword "else" => return .branch test yes (some (← body n))
    | _ =>
      modify fun c => { c with pushedBack := true }
      pure (.branch test yes none)

/-- The words up to the end of the line. -/
def wordList : Nat → Reader (List Word)
  | 0 => fail "too long".toList
  | n + 1 => do
    if (← token n) = .word then
      let word := (← get).word
      return word :: (← wordList n)
    else pure []

/-- The arms of a choice. -/
def arms : Nat → Reader (List (List Word × Option Command))
  | 0 => fail "too long".toList
  | n + 1 => do
    modify fun c => { c with check := { newlines := true, keywords := true } }
    let t ← token n
    if t = .keyword "esac" then pure []
    else
      if t = .sign "(" then
        let _ ← token n
      let patterns ← patterns n
      if (← get).last ≠ .sign ")" then missing (.sign ")")
      let body ← list n 2
      modify fun c => { c with check := { newlines := true, keywords := true } }
      match ← token n with
      | .keyword "esac" => pure [(patterns, body)]
      | .sign ";;" => return (patterns, body) :: (← arms n)
      | _ => missing (.sign ";;")

/-- The patterns of one arm, the first of which has just been read. -/
def patterns : Nat → Reader (List Word)
  | 0 => fail "too long".toList
  | n + 1 => do
    let word := (← get).word
    if (← token n) = .sign "|" then
      let _ ← token n
      return word :: (← patterns n)
    else pure [word]

/-- The redirections after a command that is not a simple one. -/
def trailing : Nat → Nat → Command → Reader Command
  | 0, _, _ => fail "too long".toList
  | n + 1, line, c => do
    modify fun c => { c with check := { keywords := true, aliases := true } }
    let redirects ← redirects n
    modify fun c => { c with pushedBack := true }
    match c, redirects with
    | c, [] => pure c
    | .subshell line body _, redirects => pure (.subshell line body redirects)
    | c, redirects => pure (.redirected line c redirects)

def redirects : Nat → Reader (List Redirect)
  | 0 => fail "too long".toList
  | n + 1 => do
    if (← token n) = .redirection then
      let r ← target n
      return r :: (← redirects n)
    else pure []

/-- The target of the redirection that has just been read. -/
def target : Nat → Reader Redirect
  | 0 => fail "too long".toList
  | n + 1 => do
    let a := (← get).arrow
    if a.sign = "<<" then modify fun c => { c with check := { delimiter := true } }
    if (← token n) ≠ .word then unexpected
    let c ← get
    let file (direction : Direction) : Redirect := .file a.fd direction c.word
    match a.sign with
    | "<<" =>
      set { c with
        nextIndex := c.nextIndex + 1
        pending := c.pending ++ [(⟨c.nextIndex, Word.literal c.word, a.stripTabs, c.wordQuoted⟩ :
          Pending)] }
      pure (.here a.fd c.nextIndex)
    | ">" => pure (file .write)
    | ">|" => pure (file .overwrite)
    | ">>" => pure (file .append)
    | "<>" => pure (file .both)
    | "<" => pure (file .read)
    | _ => pure (.duplicate a.fd c.word)

/-- The rest of a simple command: `atFront` as long as no word of it was read, then assignments,
words and redirections so far, last ones first. -/
def simple : Nat → Nat → Bool → List Word → List Word → List Redirect → Reader Command
  | 0, _, _, _, _, _ => fail "too long".toList
  | n + 1, line, atFront, pairs, words, rs => do
    modify fun c => { c with check := { aliases := atFront } }
    match ← token n with
    | .word =>
      let word := (← get).word
      if atFront && word.isAssignment then simple n line true (word :: pairs) words rs
      else simple n line false pairs (word :: words) rs
    | .redirection =>
      let r ← target n
      simple n line atFront pairs words (r :: rs)
    | t =>
      match t, pairs, words, rs with
      | .sign "(", [], [word], [] =>
        due n (.sign ")")
        let name := (Word.plain? word).getD []
        let specials := [".", ":", "break", "continue", "eval", "exec", "exit", "export",
          "readonly", "return", "set", "shift", "times", "trap", "unset", "local"]
        if !Octets.isName name || specials.contains (String.ofList name) then
          fail "Bad function name".toList
        modify fun c =>
          { c with check := { newlines := true, keywords := true, aliases := true } }
        let line := (← get).line
        return .define line name (← command n)
      | _, _, _, _ =>
        modify fun c => { c with pushedBack := true }
        pure (.simple line pairs.reverse words.reverse rs.reverse)

end

/-- The next complete command of a script: nothing at the end of the script, and no command for an
empty line. -/
def next? : Reader (Option (Option Command)) := do
  modify fun c => { c with pushedBack := false, check := {}, pending := [] }
  let command ← list maxSteps 1
  let c ← get
  if command.isNone && c.pushedBack && c.last = .endOfFile then pure none
  else pure (some command)

/-- The whole of a text as a word, in which parts are replaced as between quotes. -/
def template : Reader Word := do
  let level : Level := { ground := .double, double := true }
  let d : Draft := { level, outerQuoted := true }
  let text : Pending := ⟨0, ['\x00'], false, false⟩
  let x ← nextInWord d
  let _ ← wordFrom maxSteps (some text) false x d
  pure (← get).word

end Reader
end MatchedLines.Host.Shell
