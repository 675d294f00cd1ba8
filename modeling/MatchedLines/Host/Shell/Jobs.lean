import MatchedLines.Host.Shell.State
/-!
Signals and commands in the background: what a shell has set to be done at a signal, how signals are
sent, and what is known of a command that runs beside the shell.
-/

namespace MatchedLines.Host.Shell.Jobs

/-! ### Traps -/

/-- Sets what is done at a signal. -/
def setTrap (signal : Nat) (action : Option Octets) : Sh Unit := modify fun s =>
  let ignored := s.process.ignored.filter (· ≠ signal)
  let ignored :=
    if s.deaf.contains signal || (action = some [] && signal ≠ 0) then signal :: ignored
    else ignored
  { s with
    traps := (action.map fun o => (signal, o)).toList ++ s.traps.filter fun (n, _) => n ≠ signal
    process := { s.process with ignored } }

def listTraps : Sh Unit := do
  let s ← get
  for signal in List.range Signal.limit do
    match s.traps.lookup signal with
    | some action =>
      Sh.print ("trap -- ".toList ++ Sh.quoted action ++ ' ' :: Signal.nameOf signal ++ ['\n'])
    | none => pure ()

def trap (args : List Octets) : Sh Nat := do
  match (← Sh.takeOptions "" args).2 with
  | [] =>
    listTraps
    pure 0
  | first :: rest =>
    let (action, signals) : Option Octets × List Octets :=
      if rest.isEmpty || ((Octets.number? first).any (· < Signal.limit)) then (none, first :: rest)
      else (if first = ['-'] then none else some first, rest)
    go action signals
where
  go (action : Option Octets) : List Octets → Sh Nat
    | [] => pure 0
    | name :: rest => do
      match Signal.ofName name with
      | some signal =>
        setTrap signal action
        go action rest
      | none =>
        Sh.report ("trap: ".toList ++ name ++ ": bad trap\n".toList)
        pure 1

/-- Whether something is to be done at a signal, so that the shell has to stay. -/
def hasTraps (s : State) : Bool := s.traps.any fun (_, action) => !action.isEmpty

/-- What a copy of the shell does with signals: what was to be done at one is forgotten. -/
def withoutTraps (s : Situation) : Situation :=
  { s with traps := s.traps.filter (fun (_, action) => action.isEmpty), caught := [] }

/-! ### Finding a job -/

/-- The job that a text stands for. -/
def find (o : Octets) : Sh Job := do
  let s ← get
  let noSuch : Sh Job := Sh.fail ("No such job: ".toList ++ o)
  let current (jobs : List Job) : Sh Job :=
    match jobs with
    | j :: _ => pure j
    | [] => Sh.fail "No current job".toList
  let jobs := (s.jobs.filter (·.number ≠ 0)).reverse
  match o with
  | [] => current jobs
  | ['%'] | ['%', '%'] | ['%', '+'] => current jobs
  | ['%', '-'] =>
    match jobs with
    | _ :: j :: _ => pure j
    | _ => Sh.fail "No previous job".toList
  | '%' :: name =>
    match (Octets.number? name).bind fun n => jobs.find? fun j => j.number = n with
    | some j => pure j
    | none => noSuch
  | name =>
    match (Octets.number? name).bind fun n => jobs.find? fun j => j.pid = n with
    | some j => pure j
    | none => noSuch

/-- What became of a job, as a status. -/
def statusOf : Option Ending → Nat
  | some (.exited status) => status
  | some (.killed signal) => 128 + signal
  | none => 0

/-- The state of a job in words. -/
def stateText : Option Ending → Octets
  | none => "Running".toList
  | some (.exited 0) => "Done".toList
  | some (.exited status) => "Done(".toList ++ Nat.toDigits 10 status ++ [')']
  | some (.killed signal) =>
    let o := Signal.report signal
    if o.isEmpty then (if signal = 2 then "Interrupt" else "Broken pipe").toList else o.dropLast

def jobLine (withPid : Bool) (latest before : Option Nat) (j : Job) : Octets :=
  let sign := if latest = some j.number then '+' else if before = some j.number then '-' else ' '
  let front := '[' :: Nat.toDigits 10 j.number ++ [']', ' ', sign, ' ']
    ++ (if withPid then Nat.toDigits 10 j.pid ++ [' '] else []) ++ stateText j.ending
  front ++ List.replicate (33 - front.length) ' ' ++ ['\n']

def jobs (args : List Octets) : Sh Nat := do
  let (options, args) ← Sh.takeOptions "lp" args
  let all := ((← get).jobs.filter (·.number ≠ 0)).reverse
  let chosen ← if args.isEmpty then pure all else args.mapM find
  let numbers := all.map Job.number
  for j in chosen do
    if (options.getLast?.map Prod.fst) = some 'p' then
      Sh.print (Nat.toDigits 10 j.pid ++ ['\n'])
    else Sh.print (jobLine (!options.isEmpty) numbers[0]? numbers[1]? j)
    if j.ending.isSome then
      modify fun s => { s with jobs := s.jobs.filter fun k => k.number ≠ j.number }
  pure 0

/-- Brings a job back to the front; without control of jobs there is none that could be. -/
def resume (args : List Octets) : Sh Nat := do
  let (_, args) ← Sh.takeOptions "" args
  let _ ← find (args.headD [])
  let j ← pure (args.headD ['%', '%'])
  Sh.fail ("job ".toList ++ j ++ " not created under job control".toList)

/-! ### Sending signals -/

/-- Sends a signal to a process. -/
def send (pid : Int) (signal : Nat) : Sh (Except Errno Unit) := do
  let s ← get
  let m ← Sh.act get
  let known := m.alive ++ s.jobs.map Job.pid
  if pid = s.process.pid then
    if signal ≠ 0 then Sh.deliver signal
    pure (.ok ())
  else if known.any fun p => (p : Int) = pid then
    if signal ≠ 0 then
      let sent : Sent := ⟨pid.toNat, signal, m.clock⟩
      Sh.act (modify fun m => { m with pending := m.pending ++ [sent] })
    pure (.ok ())
  else pure (.error (if pid = 1 then .notPermitted else .noProcess))

def usage {α : Type} : Sh α :=
  Sh.fail ("Usage: kill [-s sigspec | -signum | -sigspec] [pid | job]... or\n".toList
    ++ "kill -l [exitstatus]".toList)

def isSignal (o : Octets) : Option Nat :=
  (Signal.ofName o).filter fun n => n ≠ 0 || (Octets.number? o).isSome

def kill (args : List Octets) : Sh Nat := do
  if args.isEmpty then usage
  let (signal, lists, rest) ← match args with
    | ('-' :: name) :: rest =>
      match isSignal name with
      | some signal => pure (some signal, false, rest)
      | none =>
        let (options, rest) ← Sh.takeOptions "ls:" args
        let named ← options.mapM fun (c, o) => do
          if c = 's' then
            match isSignal o with
            | some signal => pure (some signal)
            | none => Sh.fail ("invalid signal number or name: ".toList ++ o)
          else pure none
        pure ((named.filterMap id).getLast?, options.any fun (c, _) => c = 'l', rest)
    | rest => pure (none, false, rest)
  let signal := if lists then signal else some (signal.getD 15)
  if (signal.isNone || rest.isEmpty) != lists then usage
  else if lists then
    match rest with
    | [] =>
      Sh.print ("0\n".toList)
      for n in (List.range Signal.limit).drop 1 do Sh.print (Signal.nameOf n ++ ['\n'])
      pure 0
    | o :: _ =>
      let n ← Sh.smallNumber o
      let n := if n > 128 then n - 128 else n
      if 0 < n && n < Signal.limit then
        Sh.print (Signal.nameOf n ++ ['\n'])
        pure 0
      else Sh.fail ("invalid signal number or exit status: ".toList ++ o)
  else
    let mut status := 0
    for o in rest do
      let pid : Int ← match o with
        | '%' :: _ => pure ((← find o).pid : Int)
        | '-' :: digits => pure (-((← Sh.smallNumber digits) : Int))
        | digits => pure ((← Sh.smallNumber digits) : Int)
      match ← send pid (signal.getD 15) with
      | .ok () => pure ()
      | .error e =>
        Sh.warn (e.wording ++ ['\n'])
        status := 1
    pure status

end MatchedLines.Host.Shell.Jobs
