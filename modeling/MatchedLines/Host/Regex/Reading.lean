import MatchedLines.Host.Pattern
import MatchedLines.Host.Regex
/-!
Regular expressions as they are written. There are two styles: in the basic one most operators have
a backslash in front of them, in the extended one they stand alone. Where an operator has nothing
to work on, the lenient reading finds a use for it and the strict one complains.
-/

namespace MatchedLines.Host.Regex

structure Style where
  extended : Bool := false
  lenient : Bool := false

/-- What can be wrong with a regular expression. -/
inductive Problem where
  | invalid
  | badRange
  | badClass
  | badCollation
  | backslash
  | badReference
  | openBracket
  | openParenthesis
  | closeParenthesis
  | openBrace
  | badBrace
  | nothingBefore
  | tooBig
  | confusingBracket
  deriving DecidableEq, Repr

namespace Problem

def message : Problem → String
  | invalid => "Invalid regular expression"
  | badRange => "Invalid range end"
  | badClass => "Invalid character class name"
  | badCollation => "Invalid collation character"
  | backslash => "Trailing backslash"
  | badReference => "Invalid back reference"
  | openBracket => "Unmatched [, [^, [:, [., or [="
  | openParenthesis => "Unmatched ( or \\("
  | closeParenthesis => "Unmatched ) or \\)"
  | openBrace => "Unmatched \\\x7b"
  | badBrace => "Invalid content of \\\x7b\\\x7d"
  | nothingBefore => "Invalid preceding regular expression"
  | tooBig => "Regular expression too big"
  | confusingBracket => "character class syntax is [[:space:]], not [:space:]"

end Problem

/-! ### Tokens -/

inductive Token where
  | done
  | letter (c : Char)
  | set (s : Letters)
  | edge (e : Edge)
  | back (index : Nat)
  | bracket
  | opening
  | closing
  | bar
  | star
  | plus
  | question
  | openBrace
  | closeBrace
  /-- A backslash with nothing behind it. -/
  | backslash
  deriving DecidableEq, Repr

/-- The token that begins with a backslash. -/
def escapedToken (style : Style) (c : Char) : Token :=
  let basic (t : Token) : Token := if style.extended then .letter c else t
  match c with
  | '|' => basic .bar
  | '(' => basic .opening
  | ')' => basic .closing
  | '+' => basic .plus
  | '?' => basic .question
  | '\x7b' => basic .openBrace
  | '\x7d' => basic .closeBrace
  | '<' => .edge .wordStart
  | '>' => .edge .wordEnd
  | 'b' => .edge .wordEdge
  | 'B' => .edge .noWordEdge
  | '\x60' => .edge .textStart
  | '\'' => .edge .textEnd
  | 'w' => .set { ranges := Letters.wordRanges }
  | 'W' => .set { ranges := Letters.wordRanges, others := true }
  | 's' => .set { ranges := Letters.spaceRanges }
  | 'S' => .set { ranges := Letters.spaceRanges, others := true }
  | c => if '1' ≤ c && c ≤ '9' then .back (c.toNat - 48) else .letter c

/-- The token at the front of a text, and what follows it. `fresh` says that a caret means the
start of a line here. -/
def token (style : Style) (fresh : Bool) : Octets → Token × Octets
  | [] => (.done, [])
  | ['\\'] => (.backslash, [])
  | '\\' :: c :: o => (escapedToken style c, o)
  | c :: o =>
    let extended (t : Token) : Token := if style.extended then t else .letter c
    let t : Token := match c with
      | '|' => extended .bar
      | '(' => extended .opening
      | ')' => extended .closing
      | '+' => extended .plus
      | '?' => extended .question
      | '\x7b' => extended .openBrace
      | '\x7d' => extended .closeBrace
      | '*' => .star
      | '[' => .bracket
      | '.' => .set .all
      | '^' => if style.extended || fresh then .edge .lineStart else .letter c
      | '$' =>
        let isLast := match o with
          | [] => true
          | '\\' :: d :: _ => d = ')' || d = '|'
          | _ => false
        if style.extended || isLast then .edge .lineEnd else .letter c
      | c => .letter c
    (t, o)

/-! ### Sets -/

/-- One part of a set. -/
inductive Member where
  | char (c : Char)
  | class (name : Octets)
  | equal (name : Octets)
  | collating (name : Octets)

/-- The name between `[:` and `:]`, and what follows. -/
def memberName (mark : Char) : Nat → Octets → Octets → Option (Octets × Octets)
  | 0, _, _ => none
  | _ + 1, _, [] => none
  | n + 1, name, c :: o =>
    if c = mark && o.head? = some ']' then some (name.reverse, o.drop 1)
    else memberName mark n (c :: name) o

/-- The longest name of a class. -/
def maxName : Nat := 32

/-- Takes one part of a set; `-` may be one only where it cannot mean a range. -/
def takeMember (allowsHyphen : Bool) (o : Octets) : Except Problem (Member × Octets) :=
  let named (mark : Char) (rest : Octets) (make : Octets → Member) :
      Except Problem (Member × Octets) :=
    match memberName mark (maxName + 1) [] rest with
    | some (name, rest) => if rest.isEmpty then .error .openBracket else .ok (make name, rest)
    | none => .error .openBracket
  match o with
  | [] => .error .openBracket
  | '[' :: ':' :: rest => named ':' rest .class
  | '[' :: '=' :: rest => named '=' rest .equal
  | '[' :: '.' :: rest => named '.' rest .collating
  | '-' :: rest =>
    if allowsHyphen || rest.head? = some ']' then .ok (.char '-', rest) else .error .badRange
  | c :: rest => .ok (.char c, rest)

def Member.ranges (caseless : Bool) : Member → Except Problem (List (Char × Char))
  | char c => .ok [(c, c)]
  | equal [c] | collating [c] => .ok [(c, c)]
  | equal _ | collating _ => .error .badCollation
  | «class» name =>
    let isLetters := name = "upper".toList || name = "lower".toList
    match Pattern.namedClass (if caseless && isLetters then "alpha".toList else name) with
    | some ranges => .ok ranges
    | none => .error .badClass

/-- The character that a part of a set stands for at the end of a range. -/
def Member.bound : Member → Except Problem Char
  | char c => .ok c
  | collating [c] => .ok c
  | collating _ => .error .badCollation
  | _ => .error .badRange

/-- Takes the parts of a set up to the bracket that closes it. -/
def takeMembers (caseless : Bool) : Nat → Bool → List (Char × Char) → Octets →
    Except Problem (List (Char × Char) × Octets)
  | 0, _, _, _ => .error .openBracket
  | n + 1, first, ranges, o => do
    let (member, o) ← takeMember first o
    let mayRange : Bool := match member with
      | .class _ | .equal _ => false
      | _ => true
    if mayRange && o.isEmpty then throw .openBracket
    let isRange : Bool := mayRange && o.head? = some '-'
    if isRange && o.length = 1 then throw .openBracket
    let (more, o) : List (Char × Char) × Octets ←
      if isRange && o[1]? ≠ some ']' then do
        let (last, o) ← takeMember true (o.drop 1)
        let a ← member.bound
        let b ← last.bound
        if a > b then throw .badRange
        pure ([(a, b)], o)
      else do pure (← member.ranges caseless, o)
    let ranges := ranges ++ more
    match o with
    | [] => throw .openBracket
    | ']' :: o => pure (ranges, o)
    | o => takeMembers caseless n false ranges o

/-- Whether what stands between brackets looks like the name of a class without its own brackets. -/
def isConfusing (o : Octets) : Bool :=
  let inner := o.takeWhile (· ≠ ']')
  inner.head? = some ':' && inner.getLast? = some ':' && inner.any (· ≠ ':')
    && !inner.contains '[' && !inner.contains '-'

/-- Takes a set after its opening bracket. -/
def takeSet (style : Style) (caseless : Bool) (o : Octets) : Except Problem (Letters × Octets) := do
  if o.isEmpty then throw .invalid
  let others : Bool := o.head? = some '^'
  let o := if others then o.drop 1 else o
  if o.isEmpty then throw .invalid
  let (ranges, rest) ←
    match o with
    | ']' :: more =>
      match more with
      | [] => throw .openBracket
      | ']' :: rest => pure ([(']', ']')], rest)
      | '-' :: c :: rest =>
        if c = ']' then pure ([(']', ']'), ('-', '-')], rest)
        else do
          let (last, rest) ← takeMember true (c :: rest)
          let b ← last.bound
          if ']' > b then throw .badRange
          match rest with
          | [] => throw .openBracket
          | ']' :: rest => pure ([(']', b)], rest)
          | rest => takeMembers caseless o.length false [(']', b)] rest
      | more => takeMembers caseless o.length false [(']', ']')] more
    | o => takeMembers caseless o.length true [] o
  if style.lenient && isConfusing o then throw .confusingBracket
  pure ({ ranges, others }, rest)

/-! ### Expressions -/

/-- Where the reading of an expression stands. -/
structure Place where
  style : Style
  caseless : Bool
  token : Token := .done
  rest : Octets
  /-- How many groups have begun. -/
  groups : Nat := 0
  /-- The groups that have ended. -/
  complete : List Nat := []
  /-- Operators that had nothing to work on, the last one first. -/
  idle : List String := []
  /-- What comes next stands behind an edge other than the start of a line. -/
  afterEdge : Bool := false

abbrev Reading := StateT Place (Except Problem)

/-- Goes on to the next token. -/
def fetch (fresh : Bool) : Reading Unit := modify fun s =>
  let (token, rest) := Regex.token s.style fresh s.rest
  { s with token, rest, afterEdge := false }

/-- A number of repetitions. -/
inductive Bound where
  | missing
  | number (n : Nat)
  | unreadable
  deriving DecidableEq

/-- An expression may be repeated so many times. -/
def maxTimes : Nat := 32767

/-- Takes a number of repetitions up to a comma or brace. -/
def takeBound : Nat → Bound → Reading Bound
  | 0, _ => pure .unreadable
  | n + 1, bound => do
    fetch false
    match (← get).token with
    | .done => pure .unreadable
    | .closeBrace | .letter ',' => pure bound
    | .letter c =>
      if !c.isDigit then takeBound n .unreadable
      else
        let digit := c.toNat - 48
        takeBound n (match bound with
          | .missing => .number digit
          | .number m => .number (min (maxTimes + 1) (m * 10 + digit))
          | .unreadable => .unreadable)
    | _ => takeBound n .unreadable

/-- The end of a repetition in braces, as far as it can be read. -/
def takeBounds : Reading (Option (Nat × Option Nat)) := do
  let limit := (← get).rest.length + 1
  let low ← takeBound limit .missing
  let isComma := (← get).token = .letter ','
  if low = .missing && !isComma then throw .badBrace
  let high ←
    if low = .unreadable then pure .unreadable
    else if (← get).token = .closeBrace then pure low
    else if isComma then takeBound limit .missing
    else pure .unreadable
  let first : Nat := match low with
    | .number n => n
    | _ => 0
  match high with
  | .unreadable => pure none
  | .missing => pure (some (first, none))
  | .number n => pure (some (first, some n))

/-- Takes a repetition that stands behind an expression. -/
def takeTimes (r : Option Regex) : Reading (Option Regex) := do
  let before ← get
  let wrap (low : Nat) (high : Option Nat) : Option Regex :=
    if high = some 0 then none else r.map (.times low high)
  match before.token with
  | .star => fetch false; pure (wrap 0 none)
  | .plus => fetch false; pure (wrap 1 none)
  | .question => fetch false; pure (wrap 0 (some 1))
  | _ =>
    match ← takeBounds with
    | none =>
      if before.style.extended && before.style.lenient then
        set { before with token := .letter '\x7b' }
        pure r
      else throw (if (← get).token = .done then .openBrace else .badBrace)
    | some (low, high) =>
      if (high.any (· < low)) || (← get).token ≠ .closeBrace then throw .badBrace
      if high.getD low > maxTimes then throw .tooBig
      fetch false
      pure (wrap low high)

def isRepetition : Token → Bool
  | .star | .plus | .question | .openBrace => true
  | _ => false

/-- Takes all repetitions behind an expression. -/
def takeAllTimes : Nat → Option Regex → Reading (Option Regex)
  | 0, r => pure r
  | n + 1, r => do
    if !isRepetition (← get).token then pure r
    else
      let r ← takeTimes r
      let s ← get
      if !s.style.extended && !s.style.lenient && (s.token = .star || s.token = .openBrace) then
        throw .nothingBefore
      takeAllTimes n r

/-- One expression after another; nothing matches the empty text. -/
def join : Option Regex → Option Regex → Option Regex
  | some a, some b => some (.seq a b)
  | some a, none => some a
  | none, b => b

/-- Notes an operator that has nothing to work on. -/
def noteIdle (what : String) : Reading Unit := modify fun s =>
  { s with idle := if s.afterEdge then s.idle else what :: s.idle }

/-- What becomes of a repetition with nothing before it: it is a letter, is passed over (`none`), or
is refused. -/
def idleRepetition (t : Token) : Reading (Option Char) := do
  let style := (← get).style
  if style.extended then
    if !style.lenient then throw .nothingBefore
    match t with
    | .star => noteIdle "*"; fetch false; pure none
    | .plus => noteIdle "+"; fetch false; pure none
    | .question => noteIdle "?"; fetch false; pure none
    | _ =>
      let before ← get
      match ← tryCatch takeBounds fun _ => pure none with
      | some _ =>
        noteIdle "\x7b...\x7d"
        fetch false
        pure none
      | none =>
        set before
        pure (some '\x7b')
  else
    match t with
    | .star => pure (some '*')
    | .plus => pure (some '+')
    | .question => pure (some '?')
    | _ => if style.lenient then pure (some '\x7b') else throw .nothingBefore

mutual

/-- Takes alternatives; `depth` counts the groups around them. -/
def takeAlternatives : Nat → Nat → Reading (Option Regex)
  | 0, _ => throw .tooBig
  | n + 1, depth => do
    let complete := (← get).complete
    let first ← takeBranch n depth []
    takeMore n depth complete first
termination_by structural n => n

/-- Takes the alternatives behind a first one. Each can refer only to groups that were complete
before all of them. -/
def takeMore : Nat → Nat → List Nat → Option Regex → Reading (Option Regex)
  | 0, _, _, _ => throw .tooBig
  | n + 1, depth, complete, found => do
    let s ← get
    if s.token ≠ .bar then pure found
    else
      set { s with complete }
      fetch true
      let next ← takeBranch n depth []
      modify fun t => { t with complete := s.complete ++ t.complete }
      takeMore n depth complete (some (.alt (found.getD .empty) (next.getD .empty)))
termination_by structural n => n

/-- Takes expressions that follow one another. -/
def takeBranch : Nat → Nat → List (Option Regex) → Reading (Option Regex)
  | 0, _, _ => throw .tooBig
  | n + 1, depth, found => do
    let t := (← get).token
    if t = .done || t = .bar || (t = .closing && depth > 0) then
      pure (found.foldl (fun r x => join x r) none)
    else
      let r ← takeOne n depth
      takeBranch n depth (r :: found)
termination_by structural n => n

/-- Takes one expression with its repetitions. -/
def takeOne : Nat → Nat → Reading (Option Regex)
  | 0, _ => throw .tooBig
  | n + 1, depth => do
    let s ← get
    let closesOr (t : Token) : Bool := t = .done || t = .bar || (t = .closing && depth > 0)
    let letter (c : Char) : Reading (Option Regex) := do
      fetch false
      takeAllTimes n (some (.one (.only c)))
    match s.token with
    | .done | .bar => pure none
    | .backslash => throw .backslash
    | .letter c => letter c
    | .closeBrace => letter '\x7d'
    | .closing =>
      if s.style.extended && s.style.lenient then letter ')' else throw .closeParenthesis
    | .set set =>
      fetch false
      takeAllTimes n (some (.one set))
    | .bracket =>
      let (set, rest) ← StateT.lift (takeSet s.style s.caseless s.rest)
      modify fun s => { s with rest }
      fetch false
      takeAllTimes n (some (.one set))
    | .back i =>
      if !s.complete.contains i then throw .badReference
      fetch false
      takeAllTimes n (some (.back i))
    | .edge e =>
      fetch (!s.style.lenient)
      modify fun s => { s with afterEdge := e ≠ .lineStart }
      pure (some (.edge e))
    | .opening =>
      let index := s.groups + 1
      modify fun s => { s with groups := index }
      fetch true
      let inner ← if (← get).token = .closing then pure none else takeAlternatives n (depth + 1)
      if (← get).token ≠ .closing then throw .openParenthesis
      modify fun s => { s with complete := index :: s.complete }
      fetch false
      takeAllTimes n (some (.group index (inner.getD .empty)))
    | t =>
      match ← idleRepetition t with
      | some c => letter c
      | none => if closesOr (← get).token then pure none else takeOne n depth
termination_by structural n => n

end

/-- What a text was read as. -/
structure Read where
  regex : Regex
  groups : Nat
  idle : List String

/-- The regular expression that a text spells. -/
def read (style : Style) (caseless : Bool) (o : Octets) : Except Problem Read := do
  let work : Reading (Option Regex) := do
    fetch true
    takeAlternatives (4 * o.length + 8) 0
  let (r, s) ← work.run { style, caseless, rest := o }
  pure ⟨r.getD .empty, s.groups, s.idle.reverse⟩

end MatchedLines.Host.Regex
