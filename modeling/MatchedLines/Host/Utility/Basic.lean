import MatchedLines.Host.Machine
import MatchedLines.Host.Utility.Quoting
/-!
What the programs of a host have in common: they keep what they print until they end, complain under
their own name, and read their options in one way.
-/

namespace MatchedLines.Host

/-- What a running program knows. -/
structure Task where
  process : Process
  /-- The name it was called by. -/
  name : Octets

/-- The work of a program. -/
abbrev Tool := ReaderT Task Act

namespace Tool

def process : Tool Process := return (← read).process

def act {α : Type} (a : Act α) : Tool α := fun _ => a

/-- Ends the program on the spot. -/
def exit {α : Type} (status : Nat) : Tool α := act (Act.stop (.exited status))

/-- Prints once the program ends. -/
def print (o : Octets) : Tool Unit := act (modify fun m => { m with held := o :: m.held })

def printLine (o : Octets) : Tool Unit := print (o ++ ['\n'])

/-- Writes to standard error. -/
def report (o : Octets) : Tool Unit := do act ((← process).report o)

/-- Complains under the name of the program. -/
def warn (o : Octets) : Tool Unit := do
  report ((← read).name ++ ": ".toList ++ o ++ ['\n'])

/-- Complains about a file. -/
def warnAbout (shown : Octets) (e : Errno) : Tool Unit := warn (shown ++ ": ".toList ++ e.wording)

/-- Complains and ends the program. -/
def fail {α : Type} (status : Nat) (o : Octets) : Tool α := do
  warn o
  exit status

/-- Points to the help and ends the program. -/
def tryHelp {α : Type} (status : Nat) : Tool α := do
  report ("Try '".toList ++ (← read).name ++ " --help' for more information.\n".toList)
  exit status

/-- Complains about the arguments. -/
def misuse {α : Type} (status : Nat) (o : Octets) : Tool α := do
  warn o
  tryHelp status

/-- Writes what is held to standard output. -/
def flush : Tool (Except Errno Unit) := do
  let m ← act get
  if m.held.isEmpty then pure (.ok ())
  else
    act (modify fun m => { m with held := [] })
    let o := m.held.reverse.flatten
    if o.isEmpty then pure (.ok ()) else act ((← process).write 1 o)

/-- What a program's work came to: how it ended, unless all work stops. -/
def settle (work : Act Ending) : Act Ending :=
  tryCatch work fun e =>
    match e with
    | .ended ending => pure ending
    | e => throw e

/-- Runs a program to its end; what it could not write counts as a failure. -/
def run (t : Task) (failure : Nat) (work : Tool Nat) : Act Ending := do
  modify fun m => { m with held := [] }
  match ← settle (Ending.exited <$> work t) with
  | .exited status =>
    settle do
      match ← flush t with
      | .ok () => pure (.exited status)
      | .error e =>
        warn ("write error: ".toList ++ e.wording) t
        pure (.exited (if status = 0 then failure else status))
  | ending => pure ending

/-! ### Files -/

/-- Everything that a file holds. -/
def readFile (path : Octets) : Tool (Except Errno Octets) := do
  act ((← process).readFile path)

/-- Opens a file, with `-` for standard input, and gives its channel. -/
def openOperand (path : Octets) : Tool (Except Errno Nat) := do
  let p ← process
  if path = ['-'] then
    pure (match p.channel? 0 with
      | some c => .ok c
      | none => .error .badDescriptor)
  else act (p.openFile path .reading)

/-- Whether a channel can be put back to an earlier place. -/
def isSeekable (channel : Nat) : Tool Bool := do
  match (← act get).channels[channel]? with
  | some (.file _ _ _ _ _) => pure true
  | _ => pure false

/-- Everything that is left of standard input. -/
def readInput : Tool (Except Errno Octets) := do act ((← process).readAll 0)

/-- The same, with `-` for standard input. -/
def readOperand (path : Octets) : Tool (Except Errno Octets) :=
  if path = ['-'] then readInput else readFile path

def files : Tool Files := act Act.files

def cwd : Tool Nat := return (← process).cwd

def resolve (path : Octets) (followLast : Bool) : Tool (Except Errno Nat) := do
  return (← files).resolve (← cwd) path followLast

def setFiles (f : Files) : Tool Unit := act (Act.modifyFiles fun _ => f)

/-- Carries out a change of the files. -/
def change (g : Files → Except Errno Files) : Tool (Except Errno Unit) := do
  match g (← files) with
  | .ok f =>
    setFiles f
    pure (.ok ())
  | .error e => pure (.error e)

end Tool

/-! ### Options -/

/-- Whether an option takes an argument. -/
inductive Arity where
  | none
  | required
  | optional
  deriving DecidableEq, Repr

/-- The options of a program. A long one may stand for a short one. -/
structure Grammar where
  short : List (Char × Arity)
  long : List (String × Arity × String) := []
  /-- Options may also follow operands. -/
  mixed : Bool := true
  /-- The status of a program that is called in a wrong way. -/
  failure : Nat := 1
  /-- What is said about the use of the program, in place of the name of its help. -/
  usage : Octets := []
  /-- What is said before that. -/
  hint : Octets := []

/-- An option by its name, with its argument. -/
structure Choice where
  key : String
  value : Option Octets
  deriving Repr

namespace Grammar

/-- Options without arguments, given by their letters; those before a colon take one. -/
def letters (s : String) : List (Char × Arity) := go s.toList
where
  go : List Char → List (Char × Arity)
    | c :: ':' :: ':' :: rest => (c, .optional) :: go rest
    | c :: ':' :: rest => (c, .required) :: go rest
    | c :: rest => (c, .none) :: go rest
    | [] => []

/-- Says how the program is used and ends it. -/
def explain {α : Type} (g : Grammar) : Tool α := do
  unless g.hint.isEmpty do Tool.report g.hint
  if g.usage.isEmpty then Tool.tryHelp g.failure
  Tool.report g.usage
  Tool.exit g.failure

def misuse {α : Type} (g : Grammar) (o : Octets) : Tool α := do
  Tool.warn o
  explain g

/-- Takes the letters of one argument. -/
def takeLetters (g : Grammar) : Octets → List Octets → List Choice →
    Tool (List Choice × List Octets)
  | [], rest, found => pure (found, rest)
  | c :: more, rest, found => do
    let key := String.ofList [c]
    match g.short.lookup c with
    | none | some _ =>
      match g.short.lookup c with
      | none => g.misuse ("invalid option -- '".toList ++ [c, '\''])
      | some .none => takeLetters g more rest (⟨key, none⟩ :: found)
      | some .optional =>
        pure (⟨key, if more.isEmpty then none else some more⟩ :: found, rest)
      | some .required =>
        match more, rest with
        | [], [] => g.misuse ("option requires an argument -- '".toList ++ [c, '\''])
        | [], value :: rest => pure (⟨key, some value⟩ :: found, rest)
        | value, rest => pure (⟨key, some value⟩ :: found, rest)

/-- Takes a long option, which may be shortened as long as no other is meant. -/
def takeLong (g : Grammar) (o : Octets) (rest : List Octets) (found : List Choice) :
    Tool (List Choice × List Octets) := do
  let name := o.takeWhile (· ≠ '=')
  let value := if name.length < o.length then some (o.drop (name.length + 1)) else none
  let exact := g.long.filter fun (n, _) => n.toList = name
  let near := g.long.filter fun (n, _) => name.isPrefixOf n.toList
  let isOne := match near with
    | [] => false
    | (_, a, k) :: more => more.all fun (_, b, l) => a = b && k = l
  match if exact.isEmpty then (if isOne then near.take 1 else near) else exact with
  | [] => g.misuse ("unrecognized option '--".toList ++ o ++ ['\''])
  | [(full, arity, key)] =>
    match arity, value, rest with
    | .none, some _, _ =>
      g.misuse ("option '--".toList ++ full.toList ++ "' doesn't allow an argument".toList)
    | .required, none, [] =>
      g.misuse ("option '--".toList ++ full.toList ++ "' requires an argument".toList)
    | .required, none, value :: rest => pure (⟨key, some value⟩ :: found, rest)
    | _, value, rest => pure (⟨key, value⟩ :: found, rest)
  | many =>
    let shown := many.flatMap fun (n, _) => " '--".toList ++ n.toList ++ ['\'']
    g.misuse ("option '--".toList ++ o ++ "' is ambiguous; possibilities:".toList ++ shown)

/-- Takes the options from arguments; what is found stands in reverse. -/
def take (g : Grammar) : Nat → List Octets → List Choice → List Octets →
    Tool (List Choice × List Octets)
  | 0, args, found, operands => pure (found, operands.reverse ++ args)
  | _ + 1, [], found, operands => pure (found, operands.reverse)
  | n + 1, o :: rest, found, operands => do
    match o with
    | ['-', '-'] => pure (found, operands.reverse ++ rest)
    | '-' :: '-' :: long =>
      let (found, rest) ← takeLong g long rest found
      take g n rest found operands
    | '-' :: c :: more =>
      let (found, rest) ← takeLetters g (c :: more) rest found
      take g n rest found operands
    | o =>
      if g.mixed then take g n rest found (o :: operands)
      else pure (found, operands.reverse ++ o :: rest)

/-- The options among arguments, in order, and the operands. -/
def parse (g : Grammar) (args : List Octets) : Tool (List Choice × List Octets) := do
  let (found, operands) ← g.take (args.length + 1) args [] []
  pure (found.reverse, operands)

end Grammar

namespace Choice

def has (cs : List Choice) (key : String) : Bool := cs.any fun c => c.key = key

/-- The argument of the last option of a name. -/
def last? (cs : List Choice) (key : String) : Option Octets :=
  (cs.reverse.find? fun c => c.key = key).bind Choice.value

/-- Which of some options comes last. -/
def latest? (cs : List Choice) (keys : List String) : Option String :=
  (cs.reverse.find? fun c => keys.contains c.key).map Choice.key

end Choice

/-- Which of several words the argument of an option is; words of one group mean the same. A word
may be shortened as long as no other group is meant. -/
def Grammar.oneOf (g : Grammar) (option : String) (groups : List (List String)) (o : Octets) :
    Tool Nat := do
  let has (p : String → Bool) : List Nat :=
    (groups.zipIdx.filter fun (words, _) => words.any p).map Prod.snd
  match has (·.toList = o), has fun w => o.isPrefixOf w.toList with
  | i :: _, _ => pure i
  | [], [i] => pure i
  | [], near =>
    let problem := if near.isEmpty then "invalid" else "ambiguous"
    Tool.warn (problem.toList ++ " argument ".toList ++ Quoting.shown o ++ " for ".toList
      ++ Quoting.shown option.toList)
    Tool.report "Valid arguments are:\n".toList
    for words in groups do
      Tool.report ("  - ".toList
        ++ ", ".toList.intercalate (words.map fun w => Quoting.shown w.toList)
        ++ ['\n'])
    g.explain

/-- The same where nothing else is known about the program. -/
def Tool.oneOf (failure : Nat) (option : String) (groups : List (List String)) (o : Octets) :
    Tool Nat := Grammar.oneOf { short := [], failure } option groups o

/-! ### Numbers -/

namespace Numeral

/-- What the letter after a number multiplies it by. -/
def factor? (o : Octets) : Option Nat :=
  let power (base : Nat) (c : Char) : Option Nat :=
    match "KMGTPEZYRQ".toList.findIdx? (· = c) with
    | some i => some (Nat.pow base (i + 1))
    | none => if c = 'k' then some base else none
  match o with
  | [] => some 1
  | ['b'] => some 512
  | ['c'] => some 1
  | ['w'] => some 2
  | [c] => power 1024 c
  | [c, 'B'] => power 1000 c
  | [c, 'i', 'B'] => power 1024 c
  | _ => none

/-- A number with a letter that multiplies it. -/
def scaled? (o : Octets) : Option Nat :=
  let digits := o.takeWhile Char.isDigit
  let rest := o.drop digits.length
  match factor? rest with
  | none => none
  | some f =>
    if digits.isEmpty then (if rest.isEmpty || rest = ['b'] then none else some f)
    else some (Nat.ofDigitChars 10 digits 0 * f)

end Numeral
end MatchedLines.Host
