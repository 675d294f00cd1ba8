import MatchedLines.Host.Format
import MatchedLines.Host.Utility.Basic
import MatchedLines.Host.Utility.Paths
/-!
Programs that print words and numbers.
-/

namespace MatchedLines.Host.Words

/-- The value of octal digits at the front of a text, of which at most so many are taken, and what
follows them. -/
def octalByte (most : Nat) (o : Octets) : Char × Octets :=
  let ds := (o.takeWhile fun c => '0' ≤ c && c ≤ '7').take most
  (Octets.byte (Real.digitsValue 8 ds), o.drop ds.length)

/-- What the letters after a backslash stand for, as far as they stand for one character. -/
def simpleEscape? (c : Char) : Option Char :=
  match c with
  | 'a' => some '\x07'
  | 'b' => some '\x08'
  | 'e' => some '\x1b'
  | 'f' => some '\x0c'
  | 'n' => some '\n'
  | 'r' => some '\r'
  | 't' => some '\t'
  | 'v' => some '\x0b'
  | '\\' => some '\\'
  | _ => none

/-! ### Words as they are -/

/-- Replaces the escapes of a text, last character first. It says whether one of them asks for
nothing more to be printed. -/
def unescape : Nat → Octets → Octets → Octets × Bool
  | 0, taken, _ => (taken, false)
  | _ + 1, taken, [] => (taken, false)
  | n + 1, taken, '\\' :: c :: o =>
    match c with
    | 'c' => (taken, true)
    | '0' =>
      let (b, rest) := octalByte 3 o
      unescape n (b :: taken) rest
    | 'x' =>
      let ds := (o.takeWhile (Real.isDigitOf 16)).take 2
      if ds.isEmpty then unescape n ('x' :: '\\' :: taken) o
      else unescape n (Octets.byte (Real.digitsValue 16 ds) :: taken) (o.drop ds.length)
    | c =>
      if '1' ≤ c && c ≤ '7' then
        let (b, rest) := octalByte 3 (c :: o)
        unescape n (b :: taken) rest
      else match simpleEscape? c with
        | some b => unescape n (b :: taken) o
        | none => unescape n (c :: '\\' :: taken) o
  | n + 1, taken, c :: o => unescape n (c :: taken) o

/-- The words with blanks between them, up to the escape that ends it all. -/
def joined (escapes : Bool) : List Octets → Octets × Bool
  | [] => ([], false)
  | o :: rest =>
    let (taken, stop) := if escapes then unescape (o.length + 1) [] o else (o.reverse, false)
    if stop || rest.isEmpty then (taken.reverse, stop)
    else
      let (after, stop) := joined escapes rest
      (taken.reverse ++ ' ' :: after, stop)

/-- The settings in front of the words: whether a line feed is left out and whether escapes are
replaced. -/
def echoOptions (lineEnd escapes : Bool) : List Octets → Bool × Bool × List Octets
  | ('-' :: c :: cs) :: rest =>
    if (c :: cs).all fun c => c = 'n' || c = 'e' || c = 'E' then
      let lineEnd := lineEnd && !(c :: cs).contains 'n'
      let escapes :=
        match ((c :: cs).filter (· ≠ 'n')).getLast? with
        | some c => c = 'e'
        | none => escapes
      echoOptions lineEnd escapes rest
    else (lineEnd, escapes, ('-' :: c :: cs) :: rest)
  | rest => (lineEnd, escapes, rest)

def echo (args : List Octets) : Tool Nat := do
  let (lineEnd, escapes, words) := echoOptions true false args
  let (o, stop) := joined escapes words
  Tool.print (if stop || !lineEnd then o else o ++ ['\n'])
  pure 0

/-! ### Words by a format -/

/-- The arguments that are left, and whether one of them was not what the format asks for. -/
structure Feed where
  args : List Octets
  failed : Bool := false

abbrev Printer := StateT Feed Tool

def nextArgument : Printer (Option Octets) := do
  match (← get).args with
  | [] => pure none
  | o :: rest =>
    modify fun f => { f with args := rest }
    pure (some o)

/-- Prints a character that is given by its number, in a form that consists of bytes only. -/
def universal (letter : Char) (digits : Octets) : Printer Unit := do
  let n := Real.digitsValue 16 digits
  if n < 0x80 then Tool.print [Char.ofNat n]
  else if 0xd800 ≤ n && n ≤ 0xdfff then
    Tool.fail 1 ("invalid universal character name \\".toList ++ letter :: digits)
  else
    let hex := (Nat.toDigits 16 n).map Char.toUpper
    let size := if n < 0x10000 then 4 else 8
    Tool.print ('\\' :: (if n < 0x10000 then 'u' else 'U')
      :: (List.replicate (size - hex.length) '0' ++ hex))

/-- Prints what stands for the text after a backslash, and gives what follows it. -/
def escape (zeroFirst : Bool) (o : Octets) : Printer Octets := do
  match o with
  | [] =>
    Tool.print ['\\']
    pure []
  | c :: rest =>
    if c = 'x' then
      let ds := (rest.takeWhile (Real.isDigitOf 16)).take 2
      if ds.isEmpty then Tool.fail 1 "missing hexadecimal number in escape".toList
      Tool.print [Octets.byte (Real.digitsValue 16 ds)]
      pure (rest.drop ds.length)
    else if '0' ≤ c && c ≤ '7' then
      let (b, rest) := octalByte 3 (if zeroFirst && c = '0' then rest else o)
      Tool.print [b]
      pure rest
    else if c = 'c' then Tool.exit 0
    else if c = '"' then
      Tool.print ['"']
      pure rest
    else if c = 'u' || c = 'U' then
      let size := if c = 'u' then 4 else 8
      let ds := rest.take size
      if ds.length < size || !ds.all (Real.isDigitOf 16) then
        Tool.fail 1 "missing hexadecimal number in escape".toList
      universal c ds
      pure (rest.drop size)
    else
      match simpleEscape? c with
      | some b => Tool.print [b]
      | none => Tool.print ['\\', c]
      pure rest

/-- Prints a text with its escapes replaced. -/
def escaped : Nat → Octets → Printer Unit
  | 0, _ => pure ()
  | n + 1, o => do
    let plain := o.takeWhile (· ≠ '\\')
    Tool.print plain
    match o.drop plain.length with
    | [] => pure ()
    | _ :: rest =>
      let rest ← escape true rest
      escaped n rest

/-- Complains about an argument that is no number, or not only one. -/
def check (o : Octets) (rest : Octets) (inRange : Bool) : Printer Unit := do
  let complain (what : String) : Printer Unit := do
    Tool.warn (Quoting.shown o ++ ": ".toList ++ what.toList)
    modify fun f => { f with failed := true }
  if !inRange then complain "Numerical result out of range"
  else if !rest.isEmpty then
    complain (if rest = o then "expected a numeric value" else "value not completely converted")

/-- The number of the character after a quote. -/
def quotedNumber (c : Char) (rest : Octets) : Printer Nat := do
  if !rest.isEmpty then
    Tool.warn ("warning: ".toList ++ rest
      ++ ": character(s) following character constant have been ignored".toList)
  pure c.toNat

/-- A whole number at the front of a text with its sign, and what follows it. -/
def takeInteger (o : Octets) : Option (Bool × Nat × Octets) :=
  let (negative, body) : Bool × Octets :=
    match o.dropWhile Real.isSpace with
    | '-' :: rest => (true, rest)
    | '+' :: rest => (false, rest)
    | rest => (false, rest)
  let (base, digits) : Nat × Octets :=
    match body with
    | '0' :: x :: d :: rest =>
      if (x = 'x' || x = 'X') && Real.isDigitOf 16 d then (16, d :: rest) else (8, body)
    | '0' :: _ => (8, body)
    | body => (10, body)
  let ds := digits.takeWhile (Real.isDigitOf base)
  if ds.isEmpty then none else some (negative, Real.digitsValue base ds, digits.drop ds.length)

/-- A text as a whole number. -/
def integer (signed : Bool) (o : Octets) : Printer Int := do
  match o with
  | '"' :: c :: rest | '\'' :: c :: rest => return (← quotedNumber c rest)
  | o =>
    match takeInteger o with
    | none =>
      check o o true
      pure 0
    | some (negative, value, rest) =>
      let limit : Nat :=
        if !signed then Octets.words - 1
        else if negative then Octets.words / 2 else Octets.words / 2 - 1
      check o rest (value ≤ limit)
      if value > limit then pure (if signed && negative then -(limit : Int) else limit)
      else if !negative then pure value
      else if signed then pure (-(value : Int))
      else pure ((Octets.words - value) % Octets.words : Nat)

/-- A text as a number with a point. -/
def real (o : Octets) : Printer Real := do
  match o with
  | '"' :: c :: rest | '\'' :: c :: rest => return .ofInt (← quotedNumber c rest)
  | o =>
    match Real.take .extended o with
    | none =>
      check o o true
      pure (.ofInt 0)
    | some (x, rest) =>
      let digits := (o.takeWhile fun c => c ≠ 'e' && c ≠ 'E').any fun c => '1' ≤ c && c ≤ '9'
      let inRange := match x.magnitude with
        | .infinite => o.any fun c => c = 'n' || c = 'N'
        | .finite 0 _ => !digits
        | _ => true
      check o rest inRange
      pure x

/-- The flags of a format; the letters in front of which they may stand. -/
def allowed (flags : Octets) (precise : Bool) : List Char :=
  let drop (cs : List Char) (from_ : List Char) : List Char := from_.filter fun c => !cs.contains c
  let all := "aAcdeEfFgGiosuxX".toList
  let all := if flags.any fun c => c = 'I' || c = '\'' then drop "aAceEosxX".toList all else all
  let all := if flags.contains '#' then drop "cdisu".toList all else all
  let all := if flags.contains '0' then drop "cs".toList all else all
  if precise then drop "c".toList all else all

/-- A width or a precision: digits, or a star for an argument. -/
def size (what : String) (lowest : Int) (o : Octets) : Printer (Option Int × Octets) := do
  match o with
  | '*' :: rest =>
    match ← nextArgument with
    | none => pure (some 0, rest)
    | some a =>
      let n ← integer true a
      if n > 2147483647 || n < lowest then
        Tool.fail 1 ("invalid ".toList ++ what.toList ++ ": ".toList ++ Quoting.shown a)
      pure (some n, rest)
  | o =>
    let ds := o.takeWhile Char.isDigit
    pure (if ds.isEmpty then none else some (Real.digitsValue 10 ds), o.drop ds.length)

/-- Carries out a directive, which begins with a percent sign, and gives what follows it. -/
def directive (whole : Octets) : Printer Octets := do
  let o := whole.drop 1
  match o with
  | 'b' :: rest =>
    match ← nextArgument with
    | some a => escaped (a.length + 1) a
    | none => pure ()
    pure rest
  | 'q' :: rest =>
    match ← nextArgument with
    | some a => Tool.print (Quoting.name a)
    | none => pure ()
    pure rest
  | o =>
    let flags := o.takeWhile fun c => "I'-+ #0".toList.contains c
    let (f, _) := Format.flags {} (flags.filter fun c => c ≠ 'I' && c ≠ '\'')
    let (width, o) ← size "field width" (-2147483648) (o.drop flags.length)
    let f := match width with
      | some n => f.withWidth n
      | none => f
    let precise := o.head? = some '.'
    let (f, o) : Format × Octets ←
      if precise then
        let (n, o) ← size "precision" (-9223372036854775808) (o.drop 1)
        pure (f.withPrecision (n.getD 0), o)
      else pure (f, o)
    let o := o.dropWhile fun c => "lLhjtz".toList.contains c
    let kind := o.headD '\x00'
    if !(allowed flags precise).contains kind then
      Tool.fail 1 (whole.take (whole.length - (o.drop 1).length)
        ++ ": invalid conversion specification".toList)
    let a := (← nextArgument).getD []
    match kind with
    | 'c' => Tool.print (f.char (a.headD '\x00'))
    | 's' => Tool.print (f.text a)
    | 'd' | 'i' => Tool.print (f.signed (← if a.isEmpty then pure 0 else integer true a))
    | 'o' | 'u' | 'x' | 'X' =>
      Tool.print (f.unsigned kind (← if a.isEmpty then pure 0 else integer false a).toNat)
    | _ =>
      Tool.print (f.real .extended 4 kind (← if a.isEmpty then pure (.ofInt 0) else real a))
    pure (o.drop 1)

/-- Prints by a format once. -/
def once : Nat → Octets → Printer Unit
  | 0, _ => pure ()
  | n + 1, o => do
    match o with
    | [] => pure ()
    | '\\' :: o =>
      let rest ← escape false o
      once n rest
    | '%' :: '%' :: o =>
      Tool.print ['%']
      once n o
    | '%' :: o =>
      let rest ← directive ('%' :: o)
      once n rest
    | o =>
      let plain := o.takeWhile fun c => c ≠ '\\' && c ≠ '%'
      Tool.print plain
      once n (o.drop plain.length)

/-- Prints by a format as long as it takes up arguments. -/
def again (format : Octets) : Nat → Printer Unit
  | 0 => pure ()
  | n + 1 => do
    let before := (← get).args.length
    once (format.length + 1) format
    let after := (← get).args.length
    if after ≠ 0 && after < before then again format n

def printf (args : List Octets) : Tool Nat := do
  let args := match args with
    | ['-', '-'] :: rest => rest
    | args => args
  match args with
  | [] => Tool.misuse 1 "missing operand".toList
  | format :: args =>
    let (_, feed) ← (again format (args.length + 1)).run { args }
    match feed.args with
    | o :: _ =>
      Tool.warn ("warning: ignoring excess arguments, starting with ".toList ++ Quoting.shown o)
    | [] => pure ()
    pure (if feed.failed then 1 else 0)

/-! ### Without end -/

/-- Passes on what is held; a failure ends the program. -/
def pass : Tool Unit := do
  match ← Tool.flush with
  | .ok () => pure ()
  | .error e => Tool.fail 1 ("standard output: ".toList ++ e.wording)

/-- The bound on what a program without end can write: more than anyone reads. -/
def maxRounds : Nat := 4096

/-- Writes a text again and again. -/
def repeated (o : Octets) : Nat → Tool Nat
  | 0 => Tool.act (Act.stop (.killed 9))
  | n + 1 => do
    Tool.print o
    pass
    repeated o n

def yes (args : List Octets) : Tool Nat := do
  let grammar : Grammar :=
    { short := []
      long := [("help", .none, "help"), ("version", .none, "version")]
      mixed := false }
  let (_, words) ← grammar.parse args
  let line := (if words.isEmpty then ['y'] else [' '].intercalate words) ++ ['\n']
  repeated (List.replicate (8192 / line.length + 1) line).flatten maxRounds

/-- A command that only has a status. -/
def silent (status : Nat) (_ : List Octets) : Tool Nat := pure status

/-! ### Numbers in a row -/

/-- A number as it was written: its value, and how wide it is with how many places. -/
structure Operand where
  value : Real
  width : Int
  /-- Nothing if the number of places cannot be told. -/
  places : Option Int

/-- The width and the places of a number as it is written. -/
def measure (o : Octets) (value : Real) : Operand :=
  let o := (o.dropWhile Real.isSpace).dropWhile (· = '+')
  let isFinite := value.parts?.isSome
  let front := o.takeWhile (· ≠ '.')
  let hasPoint := front.length < o.length
  let places : Option Int := if !hasPoint && !o.contains 'p' then some 0 else none
  if o.any (fun c => c = 'x' || c = 'X') || !isFinite then ⟨value, 0, places⟩
  else
    let isMark (c : Char) : Bool := c = 'e' || c = 'E'
    let fraction := ((o.drop (front.length + 1)).takeWhile (!isMark ·)).length
    let places : Option Int := if hasPoint then some fraction else places
    let lacksZero := front.isEmpty || !(front.getLast?.any Char.isDigit)
    let width : Int := o.length
      + (if !hasPoint then 0 else if fraction = 0 then -1 else if lacksZero then 1 else 0)
    let head := o.takeWhile (!isMark ·)
    if head.length = o.length then ⟨value, width, places⟩
    else
      let exponent : Int := (Real.takeExponent ['e', 'E'] (o.drop head.length)).1
      let places := places.map fun p => if exponent < 0 then p - exponent else p - min p exponent
      let width := width - (o.length - head.length : Nat)
      if exponent < 0 then
        let width := if !hasPoint || front.length + 1 = head.length then width + 1 else width
        ⟨value, width - exponent, places⟩
      else
        let width := if hasPoint && places = some 0 && fraction > 0 then width - 1 else width
        ⟨value, width + (exponent - min (fraction : Int) exponent), places⟩

def operand (o : Octets) : Tool Operand := do
  match Real.take .extended o with
  | some (value, []) =>
    if value.magnitude = .nan then
      Tool.misuse 1 ("invalid 'not-a-number' argument: ".toList ++ Quoting.shown o)
    else pure (measure o value)
  | _ => Tool.misuse 1 ("invalid floating point argument: ".toList ++ Quoting.shown o)

/-- How the numbers of a row are written. -/
structure Layout where
  front : Octets := []
  format : Format
  kind : Char
  back : Octets := []

namespace Layout

def core (l : Layout) (x : Real) : Octets := l.format.real .extended 4 l.kind x

def text (l : Layout) (x : Real) : Octets := l.front ++ l.core x ++ l.back

/-- A percent sign that stands for itself is written twice. -/
def plain (o : Octets) : Octets :=
  match o with
  | '%' :: '%' :: rest => '%' :: plain rest
  | c :: rest => c :: plain rest
  | [] => []

/-- The front of a format up to its first directive. -/
def frontOf : Octets → Octets
  | '%' :: '%' :: rest => '%' :: '%' :: frontOf rest
  | '%' :: _ => []
  | c :: rest => c :: frontOf rest
  | [] => []

/-- The layout that a format with one directive asks for. -/
def ofFormat (o : Octets) : Tool Layout := do
  let front := frontOf o
  let whole := Quoting.shown o
  let rest := o.drop front.length
  if rest.isEmpty then
    Tool.fail 1 ("format ".toList ++ whole ++ " has no % directive".toList)
  let rest := rest.drop 1
  let flags := rest.takeWhile fun c => "-+#0 '".toList.contains c
  let (f, _) := Format.flags {} (flags.filter (· ≠ '\''))
  let rest := rest.drop flags.length
  let width := rest.takeWhile Char.isDigit
  let rest := rest.drop width.length
  let precision := (rest.drop 1).takeWhile Char.isDigit
  let precise := rest.head? = some '.'
  let rest := if precise then rest.drop (1 + precision.length) else rest
  let rest := if rest.head? = some 'L' then rest.drop 1 else rest
  let format : Format :=
    { f with
      width := Real.digitsValue 10 width
      precision := if precise then some (Real.digitsValue 10 precision) else none }
  match rest with
  | [] => Tool.fail 1 ("format ".toList ++ whole ++ " ends in %".toList)
  | kind :: back =>
    if !"efgaEFGA".toList.contains kind then
      Tool.fail 1 ("format ".toList ++ whole ++ " has unknown %".toList
        ++ kind :: " directive".toList)
    if (frontOf back).length < back.length then
      Tool.fail 1 ("format ".toList ++ whole ++ " has too many % directives".toList)
    pure { front := plain front, format, kind, back := plain back }

/-- The layout that fits the numbers: places as in the first two, and zeros in front if all are to
be equally wide. -/
def ofOperands (equal : Bool) (first step last : Operand) : Layout :=
  match first.places, step.places, last.places with
  | some p, some q, some r =>
    let places := max p q
    let firstWidth := first.width + (places - p)
      + (if p = 0 && places ≠ 0 then 1 else 0)
    let lastWidth := last.width + (places - r)
      + (if r ≠ 0 && places = 0 then -1 else 0) + (if r = 0 && places ≠ 0 then 1 else 0)
    let format : Format :=
      { zeros := equal
        width := if equal then (max firstWidth lastWidth).toNat else 0
        precision := some places.toNat }
    { format, kind := 'f' }
  | _, _, _ => { format := {}, kind := 'g' }

end Layout

/-- How many numbers are written at a time. -/
def batch : Nat := 1024

/-- Writes whole numbers in a row. -/
def counted (separator : Octets) (last step : Nat) : Nat → Nat → Tool Nat
  | 0, _ => Tool.act (Act.stop (.killed 9))
  | n + 1, x => do
    Tool.print (Nat.toDigits 10 x)
    if n % batch = 0 then pass
    if x + step > last then
      Tool.print ['\n']
      pure 0
    else
      Tool.print separator
      counted separator last step n (x + step)

/-- Whether a number is beyond the last one. -/
def isBeyond (step last x : Real) : Bool := if step.negative then x.lt last else last.lt x

/-- Writes numbers in a row. The number just past the last one is written too if it looks like the
last and unlike the one before. -/
def measured (l : Layout) (separator : Octets) (first step last : Real) :
    Nat → Nat → Real → Tool Nat
  | 0, _, _ => Tool.act (Act.stop (.killed 9))
  | n + 1, i, x => do
    Tool.print (l.text x)
    if n % batch = 0 then pass
    let next := Real.add .extended first (Real.mul .extended (.ofInt i) step)
    if isBeyond step last next then
      let text := l.core next
      let isLast := match Real.take .extended text with
        | some (y, []) => !y.lt last && !last.lt y
        | _ => false
      if isLast && l.core x ≠ text then
        Tool.print (separator ++ l.text next)
      Tool.print ['\n']
      pure 0
    else
      Tool.print separator
      measured l separator first step last n (i + 1) next

/-- Options stop before a number, also if it is negative. -/
def sequenceOptions (args : List Octets) : List Octets × List Octets :=
  match args with
  | ('-' :: c :: rest) :: more =>
    if c.isDigit || c = '.' then ([], args)
    else if (c = '-' && rest.isEmpty) then ([], more)
    else
      let takesNext := ['-', c] ++ rest = "-f".toList || ['-', c] ++ rest = "-s".toList
        || (c = '-' && !rest.contains '='
          && (rest.isPrefixOf "format".toList || rest.isPrefixOf "separator".toList))
      if takesNext then
        match more with
        | value :: more =>
          let (taken, rest') := sequenceOptions more
          (('-' :: c :: rest) :: value :: taken, rest')
        | [] => (args, [])
      else
        let (taken, rest') := sequenceOptions more
        (('-' :: c :: rest) :: taken, rest')
  | args => ([], args)

def maxNumbers : Nat := 8388608

def seq (args : List Octets) : Tool Nat := do
  let grammar : Grammar :=
    { short := Grammar.letters "f:s:w"
      long := [("equal-width", .none, "w"), ("format", .required, "f"),
        ("separator", .required, "s"), ("help", .none, "help"), ("version", .none, "version")]
      mixed := false }
  let (front, numbers) := sequenceOptions args
  let (cs, _) ← grammar.parse front
  let separator := (Choice.last? cs "s").getD ['\n']
  let equal := Choice.has cs "w"
  let isPlain (o : Octets) : Bool := !o.isEmpty && o.all Char.isDigit
  match numbers with
  | [] => Tool.misuse 1 "missing operand".toList
  | _ :: _ :: _ :: o :: _ => Tool.misuse 1 ("extra operand ".toList ++ Quoting.shown o)
  | _ => pure ()
  let format ← (Choice.last? cs "f").mapM Layout.ofFormat
  if format.isSome && equal then
    Tool.misuse 1
      "format string may not be specified when printing equal width strings".toList
  let (a, b, c) : Octets × Octets × Octets :=
    match numbers with
    | [last] => (['1'], ['1'], last)
    | [first, last] => (first, ['1'], last)
    | first :: step :: last :: _ => (first, step, last)
    | [] => ([], [], [])
  let stepSize := Real.digitsValue 10 b
  if [a, b, c].all isPlain && 0 < stepSize && stepSize ≤ 200 && format.isNone && !equal then
    let first := Real.digitsValue 10 a
    let last := Real.digitsValue 10 c
    if first > last then pure 0 else counted separator last stepSize maxNumbers first
  else
    let first ← operand a
    let step ← operand b
    if step.value.isZero then
      Tool.misuse 1 ("invalid Zero increment value: ".toList ++ Quoting.shown b)
    let last ← operand c
    let layout := format.getD (Layout.ofOperands equal first step last)
    if isBeyond step.value last.value first.value then pure 0
    else measured layout separator first.value step.value last.value maxNumbers 1 first.value

/-! ### Parts of paths -/

def basename (args : List Octets) : Tool Nat := do
  let grammar : Grammar :=
    { short := Grammar.letters "as:z"
      long := [("multiple", .none, "a"), ("suffix", .required, "s"), ("zero", .none, "z"),
        ("help", .none, "help"), ("version", .none, "version")]
      mixed := false }
  let (cs, operands) ← grammar.parse args
  let many := Choice.has cs "a" || Choice.has cs "s"
  let lineEnd := if Choice.has cs "z" then '\x00' else '\n'
  let show_ (suffix name : Octets) : Tool Unit :=
    Tool.print (Paths.withoutSuffix suffix (Paths.lastName name) ++ [lineEnd])
  match operands with
  | [] => Tool.misuse 1 "missing operand".toList
  | name :: rest =>
    if many then
      for name in operands do show_ ((Choice.last? cs "s").getD []) name
    else match rest with
      | [] => show_ [] name
      | [suffix] => show_ suffix name
      | _ :: o :: _ => Tool.misuse 1 ("extra operand ".toList ++ Quoting.shown o)
    pure 0

def dirname (args : List Octets) : Tool Nat := do
  let grammar : Grammar :=
    { short := Grammar.letters "z"
      long := [("zero", .none, "z"), ("help", .none, "help"), ("version", .none, "version")]
      mixed := false }
  let (cs, operands) ← grammar.parse args
  if operands.isEmpty then Tool.misuse 1 "missing operand".toList
  for name in operands do
    Tool.print (Paths.parentOf name ++ [if Choice.has cs "z" then '\x00' else '\n'])
  pure 0

end MatchedLines.Host.Words
