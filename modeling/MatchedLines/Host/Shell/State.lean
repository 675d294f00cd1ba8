import MatchedLines.Host.Launch
import MatchedLines.Host.Pattern
import MatchedLines.Host.Shell.Reader
import MatchedLines.Host.Shell.Setting
import MatchedLines.Host.Signal
/-!
What a running shell knows, and the ways in which its work can stop early.
-/

namespace MatchedLines.Host.Shell

/-- A variable; without a value it is only marked. -/
structure Variable where
  name : Octets
  value : Option Octets
  exported : Bool := false
  readOnly : Bool := false

/-- What is put back when a function returns. -/
inductive Saved where
  | variable (name : Octets) (old : Option Variable)
  | settings (old : List Setting)

/-- A wish to leave loops, a function or a script. -/
inductive Skip where
  | leaveLoop (levels : Nat)
  | nextRound (levels : Nat)
  /-- With a status of its own, or with that of the last command. -/
  | return (given : Bool)
  deriving DecidableEq

/-- What a copy of a shell takes over from it. -/
structure Situation where
  process : Process
  /-- The process of the shell itself, also in its copies. -/
  rootPid : Nat
  /-- The name in `$0`, under which the shell complains. -/
  name : Octets
  /-- The command that complaints are about. -/
  topic : Option Octets := none
  line : Nat := 0
  /-- The path under which the directory was reached. -/
  directory : Octets := []
  arguments : List Octets := []
  settings : List Setting := []
  bindings : List Variable := []
  functions : List (Octets × Nat × Command) := []
  aliases : List (Octets × Octets) := []
  /-- The commands that were found in the search path, with their places. -/
  hashed : List (Octets × Octets) := []
  /-- The texts that redirections read from the script. -/
  bodies : List (Nat × Word) := []
  nextBody : Nat := 0
  status : Nat := 0
  /-- The status that the end of the shell or of a trap will restore. -/
  savedStatus : Option Nat := none
  /-- The status of what was last captured while the words of a command were replaced. -/
  lastCapture : Nat := 0
  lastBackground : Nat := 0
  skip : Option Skip := none
  /-- How many loops of the innermost function are running. -/
  loops : Nat := 0
  /-- How many functions are running. -/
  calls : Nat := 0
  /-- The variables of the functions and commands that are running, innermost first. -/
  locals : List (List Saved) := []
  /-- What to do at a signal; the end of the shell counts as signal 0. -/
  traps : List (Nat × Octets) := []
  /-- Signals that were ignored from the start and stay so. -/
  deaf : List Nat := []
  /-- Signals that were caught and not looked at yet. -/
  caught : List Nat := []
  /-- The next argument to look at for options, and how far into it. -/
  optionIndex : Nat := 1
  optionOffset : Option Nat := none
  /-- What a command of the shell itself has written so far, the latest piece first. -/
  held : List Octets := []
  /-- How far the script has been read. -/
  readLine : Nat := 1
  /-- What stood behind the numbers that redirections have moved, innermost first. -/
  moved : List (List (Nat × Option Nat)) := []
  /-- The limits that were changed. -/
  limits : List (Char × Option Nat) := []
  /-- Where the shell shows what it does, if the command it shows moves its outputs. -/
  traceChannel : Option Nat := none
  /-- The prompt of a trace is being replaced. -/
  tracing : Bool := false

/-- A command in the background. It has ended, or it sleeps and its work is still to be done. -/
structure Job where
  /-- Its number in the list of jobs; one that was taken over from a copy of the shell has none. -/
  number : Nat
  pid : Nat
  ending : Option Ending
  /-- What is still to be done, from the time at which it began. -/
  work : Option (Situation × Command × List Redirect) := none
  began : Nat := 0
  /-- Someone has waited for it. -/
  waited : Bool := false

/-- All that a shell keeps: its situation and the commands that it has in the background. -/
structure State extends Situation where
  jobs : List Job := []

/-- Why the work of a shell stops early. -/
inductive Interruption where
  /-- The process ends on the spot. -/
  | stop (stop : Stop)
  /-- A mistake was met, and complained about. -/
  | error
  /-- The shell was asked to end. -/
  | exit
  /-- The last command has been carried out. -/
  | finish

abbrev Sh := ExceptT Interruption (StateT State (StateM Machine))

namespace Sh

/-- Work on the machine under the shell. -/
def act {α : Type} (a : Act α) : Sh α := fun s m =>
  match a m with
  | (.ok x, m) => ((.ok x, s), m)
  | (.error e, m) => ((.error (.stop e), s), m)

/-- Does something in any case once the work is over. -/
def always {α : Type} (work : Sh α) (after : State → State) : Sh α := fun s m =>
  let ((outcome, s), m) := work s m
  ((outcome, after s), m)

/-- Goes on after work that was stopped early, as `resume` says. -/
def recover {α : Type} (work : Sh α) (resume : Interruption → Sh α) : Sh α := fun s m =>
  match work s m with
  | ((.ok x, s), m) => ((.ok x, s), m)
  | ((.error e, s), m) => resume e s m

def setStatus (status : Nat) : Sh Unit := modify fun s => { s with status }

def isOn (x : Setting) : Sh Bool := return (← get).settings.contains x

/-- Writes to standard error. -/
def report (o : Octets) : Sh Unit := do act ((← get).process.report o)

/-- Writes to standard output once the command of the shell is done. -/
def print (o : Octets) : Sh Unit := modify fun s => { s with held := o :: s.held }

/-- Complains about the command under way, with the name of the shell and the line. -/
def warn (what : Octets) : Sh Unit := do
  let s ← get
  let topic := match s.topic with
    | some o => o ++ ": ".toList
    | none => []
  report (s.name ++ ": ".toList ++ Nat.toDigits 10 s.line ++ ": ".toList ++ topic ++ what ++ ['\n'])

/-- Complains and gives up. -/
def fail {α : Type} (what : Octets) : Sh α := do
  warn what
  setStatus 2
  throw .error

def illegalNumber {α : Type} (o : Octets) : Sh α := fail ("Illegal number: ".toList ++ o)

/-- The bound on nested work was reached. -/
def exhausted {α : Type} : Sh α := throw (.stop (.ended (.killed 11)))

/-! ### Variables -/

def binding? (name : Octets) : Sh (Option Variable) :=
  return (← get).bindings.find? fun v => v.name = name

def value? (name : Octets) : Sh (Option Octets) := return (← binding? name).bind Variable.value

/-- Puts a variable in the place of the one with its name. -/
def putVariable (v : Variable) : Sh Unit := modify fun s =>
  { s with bindings :=
    if s.bindings.any fun w => w.name = v.name then
      s.bindings.map fun w => if w.name = v.name then v else w
    else s.bindings ++ [v] }

def removeVariable (name : Octets) : Sh Unit := modify fun s =>
  { s with bindings := s.bindings.filter fun w => w.name ≠ name }

/-- A number with blanks around it, if it fits into 64 bits. -/
def wholeNumber? (o : Octets) : Option Int :=
  let isSpace (c : Char) : Bool := c = ' ' || ('\t' ≤ c && c ≤ '\r')
  let o := o.dropWhile isSpace
  let o := (o.reverse.dropWhile isSpace).reverse
  (Octets.int? o).filter fun n => -9223372036854775808 ≤ n && n ≤ 9223372036854775807

/-- A number in a place where only small ones make sense. -/
def smallNumber (o : Octets) : Sh Nat := do
  match wholeNumber? o with
  | some (.ofNat n) => if n ≤ 2147483647 then pure n else illegalNumber o
  | _ => illegalNumber o

/-- What else changes with some variables: the place among the options and the known commands. -/
def noteChange (name : Octets) (value : Option Octets) : Sh Unit := do
  if name = "OPTIND".toList then
    let index ← match value with
      | some o => smallNumber o
      | none => pure 1
    modify fun s => { s with optionIndex := max 1 index, optionOffset := none }
  else if name = "PATH".toList then modify fun s => { s with hashed := [] }
  else pure ()

/-- Gives a variable a value or takes it away, and marks it. -/
def setVariable (name : Octets) (value : Option Octets) (exported readOnly : Bool) : Sh Unit := do
  let exported := exported || (← isOn .allexport)
  match ← binding? name with
  | some v =>
    if v.readOnly then fail (name ++ ": is read only".toList)
    noteChange name value
    if value.isNone && !exported && !readOnly then removeVariable name
    else putVariable ⟨name, value, v.exported || exported, v.readOnly || readOnly⟩
  | none =>
    if value.isSome || exported || readOnly then
      noteChange name value
      putVariable ⟨name, value, exported, readOnly⟩

/-- The same, for a name that has to be looked at first. -/
def setChecked (name : Octets) (value : Option Octets) (exported readOnly : Bool) : Sh Unit := do
  if !Octets.isName name then fail (name ++ ": bad variable name".toList)
  setVariable name value exported readOnly

def assign (name value : Octets) : Sh Unit := setChecked name (some value) false false

/-- Splits an assignment at its equals sign. -/
def splitPair (o : Octets) : Octets × Option Octets :=
  let name := o.takeWhile (· ≠ '=')
  match o.drop name.length with
  | _ :: value => (name, some value)
  | [] => (name, none)

/-- Remembers something for the end of the innermost function or command. -/
def save (x : Saved) : Sh Unit := modify fun s =>
  match s.locals with
  | frame :: rest => { s with locals := (x :: frame) :: rest }
  | [] => s

/-- Makes a variable local, with a value or as it is. -/
def makeLocal (pair : Octets) (exported : Bool) : Sh Unit := do
  if pair = ['-'] then save (.settings (← get).settings)
  else
    let (name, value) := splitPair pair
    match ← binding? name with
    | none =>
      if value.isNone && !Octets.isName name then fail (name ++ ": bad variable name".toList)
      setVariable name value exported false
      if value.isNone then putVariable ⟨name, none, exported, false⟩
      save (.variable name none)
    | some old =>
      if value.isSome then setVariable name value exported false
      save (.variable name (some old))

/-- Puts back what was saved last. -/
def restoreLocals : Sh Unit := do
  match (← get).locals with
  | [] => pure ()
  | frame :: rest =>
    modify fun s => { s with locals := rest }
    for x in frame do
      match x with
      | .settings old => modify fun s => { s with settings := old }
      | .variable name none =>
        if !Octets.isName name then fail (name ++ ": bad variable name".toList)
        noteChange name none
        removeVariable name
      | .variable name (some old) =>
        noteChange name old.value
        putVariable old

/-- The number of the list in which a table keeps a name. -/
def slot (size : Nat) (name : Octets) : Nat :=
  let sum := (name.head?.map Char.toNat).getD 0 * 16 + (name.map Char.toNat).foldl (· + ·) 0
  sum % 32768 % size

/-- A table's entries in the order of its lists. -/
def inOrder {α : Type} (size : Nat) (entries : List (Octets × α)) : List (Octets × α) :=
  entries.mergeSort fun a b => slot size a.1 ≤ slot size b.1

/-- The variables that commands are given. -/
def environment : Sh (List (Octets × Octets)) :=
  return inOrder 39 ((← get).bindings.filterMap fun v =>
    if v.exported then v.value.map (v.name, ·) else none)

/-- The process with the variables that commands are given. -/
def childProcess : Sh Process := do
  let p := (← get).process
  return { p with environment := ← environment }

/-- The separators of fields. -/
def separators : Sh Octets := return (← value? "IFS".toList).getD " \t\n".toList

def searchPath : Sh Octets := return (← value? "PATH".toList).getD []

/-! ### Signals -/

/-- What a signal to the shell itself does. -/
def deliver (signal : Nat) : Sh Unit := do
  let s ← get
  if Signal.isCertain signal then throw (.stop (.ended (.killed signal)))
  else if s.process.ignored.contains signal then pure ()
  else match s.traps.lookup signal with
    | some [] => pure ()
    | some _ => modify fun s => { s with caught := s.caught.filter (· ≠ signal) ++ [signal] }
    | none =>
      if Signal.isHarmless signal then pure ()
      else throw (.stop (.ended (.killed signal)))

/-- Takes in the signals that were sent from elsewhere. -/
def takeSignals : Sh Unit := do
  for signal in (← act (Act.signals (← get).process.pid)) do deliver signal

/-! ### Options of commands of the shell -/

/-- The option letters at the front of the arguments, each with the argument it takes, and what
follows them. In `takes` a colon stands after a letter that takes one. -/
def options (takes : Octets) : Nat → List Octets →
    Sh (List (Char × Octets) × List Octets)
  | 0, args => pure ([], args)
  | n + 1, args => do
    match args with
    | ('-' :: c :: more) :: rest =>
      if c = '-' && more.isEmpty then pure ([], rest)
      else
        let known := takes.dropWhile (· ≠ c)
        if c = ':' || known.isEmpty then fail ("Illegal option -".toList ++ [c])
        else if known.drop 1 |>.head? |>.any (· = ':') then
          match more, rest with
          | [], [] => fail ("No arg for -".toList ++ c :: " option".toList)
          | [], value :: rest =>
            let (found, rest) ← options takes n rest
            pure ((c, value) :: found, rest)
          | value, rest =>
            let (found, rest) ← options takes n rest
            pure ((c, value) :: found, rest)
        else
          let (found, rest) ← options takes n (if more.isEmpty then rest else ('-' :: more) :: rest)
          pure ((c, []) :: found, rest)
    | args => pure ([], args)

/-- The options and what follows them. -/
def takeOptions (takes : String) (args : List Octets) :
    Sh (List (Char × Octets) × List Octets) :=
  options takes.toList ((args.map List.length).foldl (· + ·) 0 + args.length + 1) args

/-- A text in single quotes, as a script would write it. -/
def quoted (o : Octets) : Octets :=
  go (o.length + 1) o
where
  go : Nat → Octets → Octets
    | 0, _ => []
    | n + 1, o =>
      let plain := o.takeWhile (· ≠ '\'')
      let rest := o.drop plain.length
      let ticks := rest.takeWhile (· = '\'')
      let rest := rest.drop ticks.length
      let front := '\'' :: (plain ++ ['\''])
      let marks := if ticks.isEmpty then [] else '"' :: (ticks ++ ['"'])
      if rest.isEmpty then front ++ marks else front ++ marks ++ go n rest

end Sh
end MatchedLines.Host.Shell
