import MatchedLines.Host.Utility.Basic
/-!
Replacing, removing and thinning out single characters. Two descriptions say which characters are
meant and what stands for them.
-/

namespace MatchedLines.Host.Translating

/-- A character of a description, and whether it was written with a backslash. -/
structure Letter where
  char : Char
  escaped : Bool

/-- A part of a description. -/
inductive Piece where
  | one (c : Char)
  | range (first last : Char)
  | class (name : String)
  | equal (c : Char)
  /-- So many times the same; zero stands for as many as are needed. -/
  | many (c : Char) (count : Nat)
  deriving DecidableEq

/-! ### Reading a description -/

def isOctal (c : Char) : Bool := '0' ≤ c && c ≤ '7'

/-- Takes the backslashes out of a description; warnings are collected, last one first. -/
def letters : Nat → Octets → List Octets → List Letter × List Octets
  | 0, _, warnings => ([], warnings)
  | _ + 1, [], warnings => ([], warnings)
  | n + 1, '\\' :: o, warnings =>
    match o with
    | [] =>
      ([⟨'\\', true⟩],
        "warning: an unescaped backslash at end of string is not portable".toList :: warnings)
    | c :: rest =>
      if isOctal c then
        let ds := (o.takeWhile isOctal).take 3
        let value := ds.foldl (fun n c => n * 8 + (c.toNat - 48)) 0
        let (ds, warnings) :=
          if value > 255 then
            (ds.take 2, ("warning: the ambiguous octal escape \\".toList ++ ds
              ++ " is being\n\tinterpreted as the 2-byte sequence \\0".toList ++ ds.take 2
              ++ ", ".toList ++ ds.drop 2) :: warnings)
          else (ds, warnings)
        let value := ds.foldl (fun n c => n * 8 + (c.toNat - 48)) 0
        let (more, warnings) := letters n (o.drop ds.length) warnings
        (⟨Char.ofNat value, true⟩ :: more, warnings)
      else
        let d : Char := match c with
          | 'a' => '\x07'
          | 'b' => '\x08'
          | 'f' => '\x0c'
          | 'n' => '\n'
          | 'r' => '\r'
          | 't' => '\t'
          | 'v' => '\x0b'
          | c => c
        let (more, warnings) := letters n rest warnings
        (⟨d, true⟩ :: more, warnings)
  | n + 1, c :: o, warnings =>
    let (more, warnings) := letters n o warnings
    (⟨c, false⟩ :: more, warnings)

def isPlain (c : Char) (l : Letter) : Bool := l.char = c && !l.escaped

def text (ls : List Letter) : Octets := ls.map Letter.char

/-- The kinds of characters that have a name. -/
def classes : List (String × (Char → Bool)) :=
  let isPunct (c : Char) : Bool := '!' ≤ c && c ≤ '~' && !c.isAlphanum
  [("alnum", Char.isAlphanum), ("alpha", Char.isAlpha), ("blank", Octets.isBlank),
    ("cntrl", fun c => c < ' ' || c = '\x7f'), ("digit", Char.isDigit),
    ("graph", fun c => '!' ≤ c && c ≤ '~'), ("lower", Char.isLower),
    ("print", fun c => ' ' ≤ c && c ≤ '~'), ("punct", isPunct),
    ("space", fun c => c = ' ' || ('\t' ≤ c && c ≤ '\r')), ("upper", Char.isUpper),
    ("xdigit", fun c => c.isDigit || ('a' ≤ c && c ≤ 'f') || ('A' ≤ c && c ≤ 'F'))]

/-- The part between a mark and the mark with a closing bracket after it. -/
def closing (mark : Char) : List Letter → List Letter → Option (List Letter × List Letter)
  | _, [] => none
  | taken, [_] => let _ := taken; none
  | taken, a :: b :: rest =>
    if isPlain mark a && isPlain ']' b then some (taken.reverse, rest)
    else closing mark (a :: taken) (b :: rest)

/-- A repetition after its opening bracket: the character, the digits, and what follows. -/
def repetition? : List Letter → Option (Char × Octets × List Letter)
  | c :: star :: rest =>
    if !isPlain '*' star then none
    else
      let inside := rest.takeWhile fun l => !l.escaped && l.char ≠ ']'
      match rest.drop inside.length with
      | l :: rest => if isPlain ']' l then some (c.char, text inside, rest) else none
      | [] => none
  | _ => none

/-- The number in a repetition: octal if it begins with a zero. -/
def count? (digits : Octets) : Option Nat :=
  if digits.isEmpty then some 0
  else if digits.head? = some '0' then
    if digits.all isOctal then some (digits.foldl (fun n c => n * 8 + (c.toNat - 48)) 0) else none
  else Octets.number? digits

/-- A character as it is shown in a complaint. -/
def shownChar (c : Char) : Octets := if Quoting.isPlain c then [c] else Quoting.octal c

def fail {α : Type} (what : Octets) : Tool α := Tool.fail 1 what

/-- Reads a class or an equivalence after `[:` or `[=`. Nothing if it is none. -/
def bracketed? (mark : Char) (inside : List Letter) (isRepetition : Bool) :
    Tool (Option Piece) := do
  let name := text inside
  if mark = ':' then
    if name.isEmpty then fail "missing character class name '[::]'".toList
    match classes.find? fun (n, _) => n.toList = name with
    | some (n, _) => pure (some (.class n))
    | none =>
      if isRepetition then pure none
      else fail ("invalid character class ".toList ++ Quoting.shown name)
  else
    match name with
    | [] => fail "missing equivalence class character '[==]'".toList
    | [c] => pure (some (.equal c))
    | _ =>
      if isRepetition then pure none
      else fail (name ++ ": equivalence class operand must be a single character".toList)

/-- The parts of a description. -/
def pieces : Nat → List Letter → Tool (List Piece)
  | 0, _ => pure []
  | n + 1, ls => do
    match ls with
    | a :: b :: c :: rest =>
      let special : Option (Piece × List Letter) ←
        if !isPlain '[' a then pure none
        else
          let repeated := repetition? (b :: c :: rest)
          let class_ : Option (Piece × List Letter) ←
            if isPlain ':' b || isPlain '=' b then
              match closing b.char [] (c :: rest) with
              | none => pure none
              | some (inside, after) =>
                let isRepetition := isPlain '*' c
                match ← bracketed? b.char inside isRepetition with
                | some piece => pure (some (piece, after))
                | none => pure none
            else pure none
          match class_, repeated with
          | some found, _ => pure (some found)
          | none, some (d, digits, after) =>
            match count? digits with
            | some count => pure (some (Piece.many d count, after))
            | none =>
              fail ("invalid repeat count ".toList ++ Quoting.shown digits
                ++ " in [c*n] construct".toList)
          | none, none => pure none
      match special with
      | some (piece, rest) => return piece :: (← pieces n rest)
      | none =>
        if isPlain '-' b then
          if c.char < a.char then
            fail ("range-endpoints of '".toList ++ shownChar a.char ++ '-' :: shownChar c.char
              ++ "' are in reverse collating sequence order".toList)
          return .range a.char c.char :: (← pieces n rest)
        else return .one a.char :: (← pieces n (b :: c :: rest))
    | ls => pure (ls.map fun l => .one l.char)

def description (o : Octets) : Tool (List Piece) := do
  let (ls, warnings) := letters (o.length + 1) o []
  for warning in warnings.reverse do Tool.warn warning
  pieces (ls.length + 1) ls

/-! ### Meaning -/

/-- All characters, in order. -/
def everything : List Char := (List.range 256).map Char.ofNat

namespace Piece

def members : Piece → List Char
  | one c | equal c => [c]
  | range first last => everything.filter fun c => first ≤ c && c ≤ last
  | .class name => everything.filter (((classes.lookup name).getD fun _ => false) ·)
  | many c count => List.replicate count c

def isOpen : Piece → Bool
  | many _ 0 => true
  | _ => false

def isClass : Piece → Bool
  | .class _ => true
  | _ => false

/-- The class of capital or small letters, if it is one. -/
def caseOf? : Piece → Option String
  | .class "upper" => some "upper"
  | .class "lower" => some "lower"
  | _ => none

end Piece

def members (ps : List Piece) : List Char := ps.flatMap Piece.members

/-- A set of characters as a table. -/
def tableOf (cs : List Char) : Array Bool :=
  cs.foldl (fun t c => t.setIfInBounds c.toNat true) (Array.replicate 256 false)

def has (t : Array Bool) (c : Char) : Bool := (t[c.toNat]?).getD false

/-- Fills up the part that stands for as many characters as are needed. -/
def filled (length : Nat) (ps : List Piece) : List Piece :=
  let fixed := (members ps).length
  ps.map fun p =>
    match p with
    | .many c 0 => .many c (length - fixed)
    | p => p

/-- Pairs of characters and what stands for them. Capital and small letters go over into one
another as a whole. -/
def pairs : Nat → List Piece → List Piece → List (Char × Char)
  | 0, _, _ => []
  | n + 1, p :: ps, q :: qs =>
    match p.caseOf?, q.caseOf? with
    | some a, some b =>
      let here := if a = b then p.members.map fun c => (c, c)
        else p.members.map fun c => (c, if b = "upper" then c.toUpper else c.toLower)
      here ++ pairs n ps qs
    | _, _ =>
      match p.members, q.members with
      | [], _ => pairs n ps (q :: qs)
      | _, [] => pairs n (p :: ps) qs
      | c :: cs, d :: ds =>
        (c, d) :: pairs n
          (if cs.isEmpty then ps else cs.map Piece.one ++ ps)
          (if ds.isEmpty then qs else ds.map Piece.one ++ qs)
  | _ + 1, _, _ => []

/-- Whether each class of capital or small letters in the second description stands where one stands
in the first. -/
def isAligned : Nat → List Piece → List Piece → Bool
  | 0, _, _ => true
  | _ + 1, _, [] => true
  | n + 1, ps, q :: qs =>
    match q.caseOf? with
    | none =>
      let rest := dropMembers q.members.length ps
      isAligned n rest qs
    | some _ =>
      match ps with
      | p :: ps => p.caseOf?.isSome && isAligned n ps qs
      | [] => false
where
  dropMembers : Nat → List Piece → List Piece
    | _, [] => []
    | 0, ps => ps
    | k, p :: ps =>
      let ms := p.members
      if ms.length ≤ k then dropMembers (k - ms.length) ps else (ms.drop k).map Piece.one ++ ps

/-- What the options ask for. -/
structure Wishes where
  complement : Bool
  delete : Bool
  squeeze : Bool
  truncate : Bool

/-- The table of what stands for each character. -/
def translation (w : Wishes) (first second : List Piece) : Tool (Array Char) := do
  if second.any fun p => match p with
      | .equal _ => true
      | _ => false then
    fail "[=c=] expressions may not appear in string2 when translating".toList
  if second.any fun p => p.isClass && p.caseOf?.isNone then
    fail ("when translating, the only character classes that may appear in\n".toList
      ++ "string2 are 'upper' and 'lower'".toList)
  let inFirst := tableOf (members first)
  let domain := if w.complement then everything.filter (!has inFirst ·) else members first
  let second := if (members second).length ≤ domain.length then filled domain.length second
    else second.filter (!·.isOpen)
  if second.any fun p => p.caseOf?.isSome then
    if w.complement || !isAligned 1024 first second then
      fail "misaligned [:upper:] and/or [:lower:] construct".toList
  let size := (members second).length
  if domain.length > size && !w.truncate then
    match second.getLast? with
    | none => fail "when not truncating set1, string2 must be non-empty".toList
    | some last =>
      if size = 0 then fail "when not truncating set1, string2 must be non-empty".toList
      if last.isClass then
        fail ("when translating with string1 longer than string2,\n".toList
          ++ "the latter string must not end with a character class".toList)
  let last := ((members second).getLast?).getD '\x00'
  let second :=
    if domain.length > size && !w.truncate then second ++ [.many last (domain.length - size)]
    else second
  if w.complement && first.any Piece.isClass then
    let all := members second
    if !(all.length = domain.length && all.all (· = all.headD ' ')) then
      fail ("when translating with complemented character classes,\n".toList
        ++ "string2 must map all characters in the domain to one".toList)
  let table := if w.complement then domain.zip (members second) else pairs 4096 first second
  pure (table.foldl (fun t (c, d) => t.setIfInBounds c.toNat d) everything.toArray)

/-- Leaves one of each run of a character of the set. -/
def squeezed (set_ : Array Bool) : Option Char → Octets → Octets → Octets
  | _, taken, [] => taken.reverse
  | before, taken, c :: o =>
    if before = some c && has set_ c then squeezed set_ before taken o
    else squeezed set_ (some c) (c :: taken) o

/-- What the two descriptions make of a text. -/
def workOf (w : Wishes) (first : List Piece) (second : Option (List Piece)) :
    Tool (Octets → Octets) := do
  if first.any Piece.isOpen then
    fail "the [c*] repeat construct may not appear in string1".toList
  match second with
  | some ps =>
    if (ps.filter Piece.isOpen).length > 1 then
      fail "only one [c*] repeat construct may appear in string2".toList
    if w.delete && ps.any Piece.isOpen then
      fail "the [c*] construct may appear in string2 only when translating".toList
  | none => pure ()
  let inFirst := tableOf (members first)
  let isMeant (c : Char) : Bool := has inFirst c != w.complement
  match w.delete, w.squeeze, second with
  | true, false, _ => pure fun o => o.filter (!isMeant ·)
  | true, true, second =>
    let set_ := tableOf (members (second.getD []))
    pure fun o => squeezed set_ none [] (o.filter (!isMeant ·))
  | false, true, none =>
    let set_ := tableOf (everything.filter isMeant)
    pure fun o => squeezed set_ none [] o
  | false, squeeze, second =>
    let second := second.getD []
    let table ← translation w first second
    let set_ := tableOf (members (filled 1 second))
    let change (c : Char) : Char := (table[c.toNat]?).getD c
    pure fun o => if squeeze then squeezed set_ none [] (o.map change) else o.map change

def tr (args : List Octets) : Tool Nat := do
  let grammar : Grammar :=
    { short := Grammar.letters "AcCdst"
      long := [("complement", .none, "c"), ("delete", .none, "d"), ("squeeze-repeats", .none, "s"),
        ("truncate-set1", .none, "t"), ("help", .none, "help"), ("version", .none, "version")]
      mixed := false }
  let (cs, operands) ← grammar.parse args
  let has := Choice.has cs
  let w : Wishes :=
    { complement := has "c" || has "C", delete := has "d", squeeze := has "s", truncate := has "t" }
  let least := if w.delete = w.squeeze then 2 else 1
  let most := if !w.delete || w.squeeze then 2 else 1
  match operands with
  | [] => Tool.misuse 1 "missing operand".toList
  | operands =>
    if operands.length < least then
      Tool.warn ("missing operand after ".toList ++ Quoting.shown (operands.getLastD []))
      Tool.report ((if w.squeeze then
        "Two strings must be given when both deleting and squeezing repeats.\n"
        else "Two strings must be given when translating.\n").toList)
      Tool.tryHelp 1
    if operands.length > most then
      Tool.warn ("extra operand ".toList ++ Quoting.shown ((operands[most]?).getD []))
      if operands.length = 2 then
        Tool.report "Only one string may be given when deleting without squeezing repeats.\n".toList
      Tool.tryHelp 1
    let first ← description (operands.headD [])
    let second ← (operands[1]?).mapM description
    let work ← workOf w first second
    match ← Tool.readInput with
    | .ok o =>
      Tool.print (work o)
      pure 0
    | .error e => Tool.fail 1 ("read error: ".toList ++ e.wording)

end MatchedLines.Host.Translating
