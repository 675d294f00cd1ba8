import MatchedLines.Host.Format
import MatchedLines.Host.Launch
import MatchedLines.Host.Signal
import MatchedLines.Host.Utility.Basic
/-!
Programs that show or change what other programs are run with: their environment, their directory
and their time.
-/

namespace MatchedLines.Host.Surroundings

/-! ### Running other programs -/

/-- The directories that are searched if nothing is said about them. -/
def usualPath : Octets := "/bin:/usr/bin".toList

/-- What a command runs in a process, as its search path finds it. -/
def launchIn (p : Process) (name : Octets) (args : List Octets) : Tool (Except Errno Launch) := do
  if (name :: args).any fun o => o.length + 1 > Launch.maxArgument then
    pure (.error .argumentsTooLong)
  else
    let path := (p.environment.lookup "PATH".toList).getD usualPath
    pure (Launch.ofCommand (← Tool.files) p.cwd path name args)

/-- Writes what is held before another program writes. -/
def settle : Tool Unit := do
  let _ ← Tool.flush
  pure ()

/-- Gives the process over to another command. The two numbers are the statuses of a command that
is not there and of one that cannot be run. -/
def become (start : Start) (p : Process) (name : Octets) (args : List Octets)
    (missing refused : Nat)
    (complaint : Errno → Octets) : Tool Nat := do
  match ← launchIn p name args with
  | .ok launch =>
    settle
    Tool.act (Act.stop (← Tool.act (start p launch)))
  | .error e =>
    Tool.warn (complaint e)
    pure (if e = .noEntry then missing else refused)

/-- Runs another command in a process of its own. -/
def call (start : Start) (p : Process) (name : Octets) (args : List Octets) :
    Tool (Except Errno Ending) := do
  match ← launchIn p name args with
  | .ok launch =>
    settle
    let pid ← Tool.act Act.newPid
    .ok <$> Tool.act (start { p with pid, parent := p.pid } launch)
  | .error e => pure (.error e)

/-! ### The environment -/

abbrev Environment := List (Octets × Octets)

/-- Puts a variable where the one of its name stands, or at the end. -/
def put (env : Environment) (name value : Octets) : Environment :=
  if env.any fun (n, _) => n = name then
    env.map fun (n, v) => if n = name then (n, value) else (n, v)
  else env ++ [(name, value)]

def showEnvironment (lineEnd : Char) (env : Environment) : Tool Unit :=
  env.forM fun (name, value) => Tool.print (name ++ '=' :: (value ++ [lineEnd]))

/-- What stands for a character after a backslash in a text that is to be cut into arguments. -/
def escapeIn (quote : Option Char) (c : Char) : Option Char :=
  match c with
  | 'f' => some '\x0c'
  | 'n' => some '\n'
  | 'r' => some '\r'
  | 't' => some '\t'
  | 'v' => some '\x0b'
  | '_' => if quote.isSome then some ' ' else none
  | '\\' | '#' | '$' | '"' | '\'' => some c
  | _ => none

/-- The state of cutting a text into arguments: those that are complete, last one first, and the
one under way, last character first. -/
structure Cut where
  complete : List Octets := []
  current : Option Octets := none

namespace Cut

def push (s : Cut) (c : Char) : Cut := { s with current := some (c :: s.current.getD []) }

def append (s : Cut) (o : Octets) : Cut :=
  { s with current := some (o.reverse ++ s.current.getD []) }

def close (s : Cut) : Cut :=
  match s.current with
  | some o => { complete := o.reverse :: s.complete, current := none }
  | none => s

def toList (s : Cut) : List Octets := s.close.complete.reverse

end Cut

/-- Cuts a text into arguments, with quotes, escapes and variables. -/
def cut (env : Environment) (failure : Nat) : Nat → Option Char → Octets → Cut → Tool (List Octets)
  | 0, _, _, s => pure s.toList
  | n + 1, quote, o, s => do
    match o with
    | [] =>
      if quote.isSome then Tool.fail failure "no terminating quote in -S string".toList
      pure s.toList
    | c :: rest =>
      if c = '\'' && quote ≠ some '"' then
        if quote = some '\'' then cut env failure n none rest s
        else cut env failure n (some c) rest (s.append [])
      else if c = '"' && quote ≠ some '\'' then
        if quote = some '"' then cut env failure n none rest s
        else cut env failure n (some c) rest (s.append [])
      else if Real.isSpace c && quote.isNone then
        cut env failure n none (rest.dropWhile Real.isSpace) s.close
      else if c = '#' && quote.isNone && s.current.isNone then pure s.toList
      else if c = '\\' then
        match rest with
        | [] => Tool.fail failure "invalid backslash at end of string in -S".toList
        | d :: rest =>
          if quote = some '\'' && d ≠ '\\' && d ≠ '\'' then
            cut env failure n quote (d :: rest) (s.push '\\')
          else if d = 'c' then
            if quote = some '"' then
              Tool.fail failure "'\\c' must not appear in double-quoted -S string".toList
            pure s.toList
          else if d = '_' && quote.isNone then cut env failure n none rest s.close
          else match escapeIn quote d with
            | some d => cut env failure n quote rest (s.push d)
            | none =>
              Tool.fail failure ("invalid sequence '\\".toList ++ d :: "' in -S".toList)
      else if c = '$' && quote ≠ some '\'' then
        match rest with
        | '\x7b' :: rest =>
          let name := rest.takeWhile Octets.isNamePart
          if !Octets.isName name || (rest.drop name.length).head? ≠ some '\x7d' then
            Tool.fail failure
              ("only $\x7bVARNAME\x7d expansion is supported, error at: ".toList ++ o)
          let s := match env.lookup name with
            | some value => s.append value
            | none => s
          cut env failure n quote (rest.drop (name.length + 1)) s
        | _ =>
          Tool.fail failure
            ("only $\x7bVARNAME\x7d expansion is supported, error at: ".toList ++ o)
      else cut env failure n quote rest (s.push c)

/-- Puts the arguments that an option spells in one text in the place of the option. -/
def unfold (env : Environment) : Nat → List Octets → Tool (List Octets)
  | 0, args => pure args
  | n + 1, args => do
    match args with
    | ('-' :: c :: more) :: rest =>
      let letters := (c :: more).takeWhile fun c => "i0v".toList.contains c
      let after := (c :: more).drop letters.length
      let front := if letters.isEmpty then [] else ['-' :: letters]
      let spell (text : Octets) (rest : List Octets) : Tool (List Octets) := do
        let words ← cut env 125 (text.length + 1) none text {}
        return front ++ (← unfold env n (words ++ rest))
      match after, rest with
      | 'S' :: [], text :: rest => spell text rest
      | 'S' :: text, rest => if text.isEmpty then pure args else spell text rest
      | '-' :: long, rest =>
        if letters.isEmpty && "split-string=".toList.isPrefixOf long then
          spell (long.drop 13) rest
        else if long.isEmpty then pure args
        else return args.take 1 ++ (← unfold env n rest)
      | 'u' :: [], name :: rest | 'C' :: [], name :: rest =>
        return args.take 1 ++ name :: (← unfold env n rest)
      | _, rest => return args.take 1 ++ (← unfold env n rest)
    | args => pure args

def env (start : Start) (args : List Octets) : Tool Nat := do
  let p ← Tool.process
  let grammar : Grammar :=
    { short := Grammar.letters "C:iS:u:v0"
      long := [("ignore-environment", .none, "i"), ("null", .none, "0"),
        ("unset", .required, "u"), ("chdir", .required, "C"), ("default-signal", .optional, "sig"),
        ("ignore-signal", .optional, "sig"), ("block-signal", .optional, "sig"),
        ("list-signal-handling", .none, "sig"), ("debug", .none, "v"),
        ("split-string", .required, "S"), ("help", .none, "help"), ("version", .none, "version")]
      mixed := false
      failure := 125 }
  let args ← unfold p.environment (args.length + 16) args
  let (cs, operands) ← grammar.parse args
  let (empty, operands) : Bool × List Octets :=
    match operands with
    | ['-'] :: rest => (true, rest)
    | rest => (false, rest)
  let verbose := Choice.has cs "v"
  if verbose && (empty || Choice.has cs "i") then Tool.report "cleaning environ\n".toList
  let mut environment : Environment := if empty || Choice.has cs "i" then [] else p.environment
  for c in cs do
    if c.key = "u" then
      let name := c.value.getD []
      if name.isEmpty || name.contains '=' then
        Tool.fail 125 ("cannot unset ".toList ++ Quoting.shown name ++ ": Invalid argument".toList)
      if verbose then Tool.report ("unset:    ".toList ++ name ++ ['\n'])
      environment := environment.filter fun (n, _) => n ≠ name
  let settings := operands.takeWhile fun o => o.contains '='
  for o in settings do
    let name := o.takeWhile (· ≠ '=')
    if verbose then Tool.report ("setenv:   ".toList ++ o ++ ['\n'])
    environment := put environment name (o.drop (name.length + 1))
  match operands.drop settings.length with
  | [] =>
    if Choice.has cs "C" then Tool.misuse 125 "must specify command with --chdir (-C)".toList
    showEnvironment (if Choice.has cs "0" then '\x00' else '\n') environment
    pure 0
  | name :: args =>
    if Choice.has cs "0" then
      Tool.misuse 125 "cannot specify --null (-0) with command".toList
    let cwd ← match Choice.last? cs "C" with
      | none => pure p.cwd
      | some dir =>
        let f ← Tool.files
        match f.resolve p.cwd dir true with
        | .error e =>
          Tool.fail 125 ("cannot change directory to ".toList ++ Quoting.quoted dir ++ ": ".toList
            ++ e.wording)
        | .ok n =>
          if !f.isDirectory n then
            Tool.fail 125 ("cannot change directory to ".toList ++ Quoting.quoted dir
              ++ ": Not a directory".toList)
          else pure n
    let p : Process := { p with environment, cwd }
    if verbose then
      Tool.report ("executing: ".toList ++ name ++ ['\n'])
      for (o, i) in (name :: args).zipIdx do
        Tool.report ("   arg[".toList ++ Nat.toDigits 10 i ++ "]= ".toList
          ++ Quoting.quoted o ++ ['\n'])
    become start p name args 127 126 fun e => Quoting.shown name ++ ": ".toList ++ e.wording

def printenv (args : List Octets) : Tool Nat := do
  let grammar : Grammar :=
    { short := Grammar.letters "0"
      long := [("null", .none, "0"), ("help", .none, "help"), ("version", .none, "version")]
      mixed := false
      failure := 2 }
  let (cs, operands) ← grammar.parse args
  let lineEnd := if Choice.has cs "0" then '\x00' else '\n'
  let env := (← Tool.process).environment
  if operands.isEmpty then
    showEnvironment lineEnd env
    pure 0
  else
    let mut status := 0
    for name in operands do
      match if name.contains '=' then none else env.lookup name with
      | some value => Tool.print (value ++ [lineEnd])
      | none => status := 1
    pure status

def pwd (args : List Octets) : Tool Nat := do
  let grammar : Grammar :=
    { short := Grammar.letters "LP"
      long := [("logical", .none, "L"), ("physical", .none, "P"), ("help", .none, "help"),
        ("version", .none, "version")] }
  let (cs, operands) ← grammar.parse args
  if !operands.isEmpty then Tool.warn "ignoring non-option arguments".toList
  let p ← Tool.process
  let f ← Tool.files
  let logical := Choice.latest? cs ["L", "P"] = some "L"
  let named := (p.environment.lookup "PWD".toList).filter fun o =>
    logical && o.head? = some '/' && (f.resolve p.cwd o true).toOption = some p.cwd
  Tool.printLine (named.getD (f.render p.cwd))
  pure 0

/-! ### Who and where -/

def userName : Octets := "model".toList

def userNumber : Nat := 1000

/-- The users that are known, with their numbers. -/
def users : List (Octets × Nat) := [(userName, userNumber), ("root".toList, 0)]

def whoami (args : List Octets) : Tool Nat := do
  let grammar : Grammar :=
    { short := [], long := [("help", .none, "help"), ("version", .none, "version")] }
  match (← grammar.parse args).2 with
  | [] =>
    Tool.printLine userName
    pure 0
  | o :: _ => Tool.misuse 1 ("extra operand ".toList ++ Quoting.shown o)

def id (args : List Octets) : Tool Nat := do
  let grammar : Grammar :=
    { short := Grammar.letters "agnruzGZ"
      long := [("context", .none, "Z"), ("group", .none, "g"), ("groups", .none, "G"),
        ("name", .none, "n"), ("real", .none, "r"), ("user", .none, "u"), ("zero", .none, "z"),
        ("help", .none, "help"), ("version", .none, "version")] }
  let (cs, operands) ← grammar.parse args
  let asked := ["u", "g", "G"].filter (Choice.has cs)
  let zero := Choice.has cs "z"
  if asked.length > 1 then Tool.fail 1 "cannot print \"only\" of more than one choice".toList
  if asked.isEmpty then
    if Choice.has cs "n" || Choice.has cs "r" then
      Tool.fail 1 "cannot print only names or real IDs in default format".toList
    if zero then Tool.fail 1 "option --zero not permitted in default format".toList
  if Choice.has cs "Z" then
    Tool.fail 1 "--context (-Z) works only on an SELinux-enabled kernel".toList
  let show_ (name : Octets) (number : Nat) : Tool Unit := do
    let digits := Nat.toDigits 10 number
    let named := digits ++ '(' :: (name ++ [')'])
    let lineEnd := if zero then '\x00' else '\n'
    if asked.isEmpty then
      Tool.printLine
        ("uid=".toList ++ named ++ " gid=".toList ++ named ++ " groups=".toList ++ named)
    else Tool.print ((if Choice.has cs "n" then name else digits) ++ [lineEnd])
  if operands.isEmpty then
    show_ userName userNumber
    pure 0
  else
    let mut status := 0
    for o in operands do
      match users.find? fun (name, number) => o = name || Octets.number? o = some number with
      | some (name, number) => show_ name number
      | none =>
        Tool.warn (Quoting.quoted o ++ ": no such user".toList)
        status := 1
    pure status

/-! ### Time -/

/-- A time in milliseconds, from a number with a unit. -/
def duration? (o : Octets) : Option Nat :=
  match Real.take .double o with
  | none => none
  | some (x, unit) =>
    let factor : Option Nat :=
      match unit with
      | [] | ['s'] => some 1
      | ['m'] => some 60
      | ['h'] => some 3600
      | ['d'] => some 86400
      | _ => none
    match factor, x.magnitude with
    | none, _ | _, .nan => none
    | some f, .finite m e =>
      if x.negative && m ≠ 0 then none
      else
        let (num, den) := Real.shifted (m * f * 1000) 1 e
        some (num / den)
    | some _, .infinite => if x.negative then none else some 1000000000000

/-- Lets time pass, up to a signal that ends the process. -/
def pause (milliseconds : Nat) : Tool Unit := do
  let p ← Tool.process
  let m ← Tool.act get
  let stops (s : Sent) : Bool :=
    s.pid = p.pid && s.due ≤ m.clock + milliseconds && !Signal.isHarmless s.signal
      && (!p.ignored.contains s.signal || Signal.isCertain s.signal)
  match (m.pending.filter stops).mergeSort fun a b => a.due ≤ b.due with
  | s :: _ =>
    Tool.act (Act.sleep (s.due - m.clock))
    Tool.act (Act.stop (.killed s.signal))
  | [] => Tool.act (Act.sleep milliseconds)

def plainGrammar : Grammar where
  short := []
  long := [("help", .none, "help"), ("version", .none, "version")]
  mixed := false

def sleep (args : List Octets) : Tool Nat := do
  let (_, operands) ← plainGrammar.parse args
  if operands.isEmpty then Tool.misuse 1 "missing operand".toList
  let mut total := 0
  let mut failed := false
  for o in operands do
    match duration? o with
    | some n => total := total + n
    | none =>
      Tool.warn ("invalid time interval ".toList ++ Quoting.shown o)
      failed := true
  if failed then Tool.tryHelp 1
  pause total
  pure 0

/-- Runs a command that may only take some time. -/
def timeout (start : Start) (args : List Octets) : Tool Nat := do
  let grammar : Grammar :=
    { short := Grammar.letters "k:s:v"
      long := [("foreground", .none, "foreground"), ("kill-after", .required, "k"),
        ("preserve-status", .none, "p"), ("signal", .required, "s"), ("verbose", .none, "v"),
        ("help", .none, "help"), ("version", .none, "version")]
      mixed := false
      failure := 125 }
  let (cs, operands) ← grammar.parse args
  let signal ← match Choice.last? cs "s" with
    | none => pure 15
    | some o =>
      let name := if "SIG".toList.isPrefixOf (o.map Char.toUpper) then o.drop 3 else o
      match Signal.ofName name with
      | some n => pure n
      | none => Tool.misuse 125 (Quoting.shown o ++ ": invalid signal".toList)
  match operands with
  | [] | [_] => Tool.tryHelp 125
  | time :: name :: args =>
    match duration? time with
    | none => Tool.misuse 125 ("invalid time interval ".toList ++ Quoting.shown time)
    | some limit =>
      let p ← Tool.process
      let before := (← Tool.act get)
      match ← call start p name args with
      | .error e =>
        Tool.warn ("failed to run command ".toList ++ Quoting.shown name ++ ": ".toList
          ++ e.wording)
        pure (if e = .noEntry then 127 else 126)
      | .ok ending =>
        let after := (← Tool.act get)
        if limit ≠ 0 && after.clock > before.clock + limit then
          let due : Sent := { pid := before.nextPid, signal, due := before.clock + limit }
          Tool.act (set { before with pending := before.pending ++ [due] })
          if Choice.has cs "v" then
            Tool.warn ("sending signal ".toList ++ Signal.nameOf signal ++ " to command ".toList
              ++ Quoting.quoted name)
          let _ ← call start p name args
          Tool.act (modify fun m => { m with clock := max m.clock (before.clock + limit) })
          if Choice.has cs "p" then pure (128 + signal)
          else if signal = 9 then Tool.act (Act.stop (.killed 9))
          else pure 124
        else match ending with
          | .exited status => pure status
          | .killed n => Tool.act (Act.stop (.killed n))

/-- Runs a command as another program does that only changes how it is run. -/
def nohup (start : Start) (args : List Octets) : Tool Nat := do
  let grammar : Grammar := { plainGrammar with failure := 125 }
  match (← grammar.parse args).2 with
  | [] => Tool.misuse 125 "missing operand".toList
  | name :: args =>
    let p ← Tool.process
    let p : Process := { p with ignored := 1 :: p.ignored }
    become start p name args 127 126 fun e =>
      "failed to run command ".toList ++ Quoting.shown name ++ ": ".toList ++ e.wording

end MatchedLines.Host.Surroundings
