import MatchedLines.Host.Shell.Builtin
import MatchedLines.Host.Shell.Jobs
import MatchedLines.Host.Shell.Printing
import MatchedLines.Host.Shell.Redirection
import MatchedLines.Host.Shell.Test
/-!
Running commands and scripts. The functions take a bound on how deeply commands may be nested; a
script that goes deeper is killed, as it would be for lack of room. Commands joined by a pipe run
one after another, each on all that the one before it wrote. A command in the background runs at
once unless it sleeps; then it is put off until someone waits or the time has come.
-/

namespace MatchedLines.Host.Shell

/-- How a command is run. -/
structure Flags where
  /-- Its failure is looked at by what stands around it. -/
  tested : Bool := false
  /-- Nothing follows it. -/
  last : Bool := false

/-- Repeats a step as long as it asks for it. -/
def iterate {α : Type} (step : α → Sh (Bool × α)) : Nat → α → Sh α
  | 0, _ => Sh.exhausted
  | n + 1, x => fun s m =>
    match step x s m with
    | ((.ok (true, y), s), m) => iterate step n y s m
    | ((.ok (false, y), s), m) => ((.ok y, s), m)
    | ((.error e, s), m) => ((.error e, s), m)

/-- A bound on the rounds of a loop. -/
def maxRounds : Nat := 1000000000

/-- How deeply functions may call one another. -/
def maxCalls : Nat := 1000

/-- Tells what ended a command, if it was a signal, and gives the status. -/
def reportEnding (ending : Ending) : Sh Nat := do
  match ending with
  | .killed signal => Sh.report (Signal.report signal)
  | .exited _ => pure ()
  pure (Jobs.statusOf (some ending))

/-- Makes room for a command among the jobs: a job that was waited for gives up its number. -/
def claimNumber : Sh Nat := do
  let rec go : Nat → Nat → Sh Nat
    | 0, number => pure number
    | n + 1, number => do
      match (← get).jobs.find? fun j => j.number = number with
      | none => pure number
      | some j =>
        if j.waited && j.ending.isSome then
          modify fun s => { s with jobs := s.jobs.filter fun k => k.number ≠ number }
          pure number
        else go n (number + 1)
  go ((← get).jobs.length + 1) 1

/-- Forgets what was on its way when the work of a shell is over. -/
def reset (isExit : Bool) : Sh Unit := do
  modify fun s =>
    match s.savedStatus with
    | some status =>
      if isExit || s.skip = some (.return false) then { s with status, savedStatus := none }
      else { s with savedStatus := none }
    | none => s
  modify fun s => { s with skip := none, loops := 0, tracing := false }
  Move.undoTo 0 (← get).moved.length

/-- Reads the next command of a script. -/
def parseNext (c : Cursor) : Sh (Option (Option Command) × Cursor) := do
  let s ← get
  let asks := c.asks && s.settings.contains .interactive
  if asks then Sh.report ((← Sh.value? "PS1".toList).getD [])
  match Reader.next?.run { c with aliases := s.aliases, nextIndex := s.nextBody, bodies := [] } with
  | .error mistake =>
    modify fun s => { s with line := mistake.line, readLine := mistake.line }
    Sh.fail mistake.message
  | .ok (command, after) =>
    modify fun s =>
      { s with bodies := after.bodies ++ s.bodies, nextBody := after.nextIndex
               readLine := after.line }
    if s.settings.contains .verbose && c.echoes then
      Sh.report (c.layer.rest.take (c.layer.rest.length - after.layer.rest.length))
    if asks && command.isNone then Sh.report ['\n']
    pure (command, after)

/-- After a loop's part: whether the loop is left, and for good. -/
def loopSkip : Sh (Option Skip) := do
  match (← get).skip with
  | some (.leaveLoop (n + 2)) =>
    modify fun s => { s with skip := some (.leaveLoop (n + 1)) }
    pure (some (.leaveLoop 1))
  | some (.nextRound (n + 2)) =>
    modify fun s => { s with skip := some (.nextRound (n + 1)) }
    pure (some (.leaveLoop 1))
  | some (.leaveLoop n) =>
    modify fun s => { s with skip := none }
    pure (some (.leaveLoop n))
  | some (.nextRound n) =>
    modify fun s => { s with skip := none }
    pure (some (.nextRound n))
  | skip => pure skip

/-- What is known of a simple command while its words are being replaced. -/
structure Outline where
  /-- The words so far, without commands in front that only say how to find others. -/
  args : List Octets
  /-- All words so far. -/
  shown : List Octets
  /-- The words that were not looked at yet. -/
  pending : List Word
  found : Option Found := none
  /-- Whether the first command found was a special one. -/
  special : Option Bool := none
  path : Option Octets := none
  functions : Bool := true

namespace Outline

/-- Replaces words until there is one more, if there is. -/
def fill (run : Option Command → Sh Octets) (o : Outline) : List Word → Sh (Option Outline)
  | [] => pure none
  | word :: rest => do
    match ← expandWord run false word with
    | [] => fill run o rest
    | fields =>
      pure (some { o with
        args := o.args ++ fields, shown := o.shown ++ fields, pending := rest })

/-- Takes options of the command that finds others, from the place `index` on. It gives the place of
the command that was asked for, if no other options stand there. -/
def options (run : Option Command → Sh Octets) : Nat → Outline → Nat → Sh (Outline × Option Nat)
  | 0, o, _ => pure (o, none)
  | n + 1, o, index => do
    match o.args[index]? with
    | none =>
      match ← o.fill run o.pending with
      | none => pure ({ o with pending := [] }, none)
      | some o => options run n o index
    | some ('-' :: '-' :: []) =>
      if index + 1 < o.args.length then pure (o, some (index + 1))
      else match ← o.fill run o.pending with
        | none => pure ({ o with pending := [] }, none)
        | some o => pure (o, some (index + 1))
    | some ('-' :: c :: letters) =>
      if (c :: letters).all (· = 'p') then
        options run n { o with path := some Lookup.standardPath } (index + 1)
      else pure (o, none)
    | some _ => pure (o, some index)

/-- Finds out what the command is, as far as the shell itself knows it. -/
def identify (run : Option Command → Sh Octets) : Nat → Outline → Sh Outline
  | 0, o => pure o
  | n + 1, o => do
    let name := o.args.headD []
    let found ← Lookup.own? name o.functions
    match found with
    | some (.own trait) =>
      let o := { o with found, special := some (o.special.getD trait.special) }
      if name ≠ "command".toList then pure o
      else
        let (o, index) ← options run (o.args.length + o.pending.length + 2) o 1
        match index with
        | none => pure o
        | some index => identify run n { o with args := o.args.drop index, functions := false }
    | found => pure { o with found }

/-- Whether assignments before the command hold only for it. -/
def isLocal (o : Outline) : Bool := !o.args.isEmpty && o.special ≠ some true

/-- Whether words that assign are kept whole. -/
def keepsPairs (o : Outline) : Bool :=
  match o.found with
  | some (.own trait) => trait.assigns
  | _ => false

end Outline

/-- The program that a command name stands for. -/
def launchOf (path : Octets) (place name : Octets) (args : List Octets) :
    Sh (Except Errno Launch) := do
  let f ← Sh.act Act.files
  let cwd := (← get).process.cwd
  if (name :: args).any fun o => o.length + 1 > Launch.maxArgument then
    pure (.error .argumentsTooLong)
  else if name.contains '/' then pure (Launch.ofPath f cwd name args)
  else
    let rec go (refused : Errno) : List Octets → Except Errno Launch
      | [] => .error refused
      | place :: rest =>
        match Launch.ofPath f cwd place args with
        | .ok launch => .ok (Launch.renamed place name args launch)
        | .error e => go (if e = .noEntry || e = .notDirectory then refused else e) rest
    pure (go .noEntry ((Lookup.places path name).dropWhile (· ≠ place)))

/-- Runs a program in place of the shell. -/
def become {α : Type} (start : Start) (launch : Launch) : Sh α := do
  let ending ← Sh.act (start (← Sh.childProcess) launch)
  throw (.stop (.ended ending))

/-- Leaves the shell because a program could not be run. -/
def cannotRun {α : Type} (name : Octets) (e : Errno) : Sh α := do
  Sh.warn (name ++ ": ".toList ++ Lookup.complaint e)
  Sh.setStatus (Lookup.status e)
  throw .finish

/-- Work during which a mistake only fails a command. -/
def guarded (work : Sh Nat) : Sh Nat :=
  Sh.recover work fun e =>
    match e with
    | .error => pure 2
    | e => throw e

/-- Does work that does not sleep; if it does, everything is as before. -/
def unlessLate (work : Sh Ending) : Sh (Option Ending) := fun s m =>
  match work s m with
  | ((.ok ending, s'), m') =>
    if m'.clock > m.clock then ((.ok none, s), m) else ((.ok (some ending), s'), m')
  | ((.error e, s'), m') => ((.error e, s'), m')

/-- Puts back what was saved beyond a depth. -/
def unwind (depth : Nat) : Nat → Sh Unit
  | 0 => pure ()
  | n + 1 => do
    if (← get).locals.length > depth then
      Sh.restoreLocals
      unwind depth n

/-- The text of a script. A directory counts as an empty one. -/
def readScript (path : Octets) : Sh Octets := do
  match ← Sh.act ((← get).process.openFile path .reading) with
  | .error e => Sh.fail (Move.complaint .read path e)
  | .ok channel =>
    match ← Sh.act (Act.readAll channel) with
    | .ok o => pure (o.filter (· ≠ '\x00'))
    | .error _ => pure []

/-- Runs commands joined by pipes, each as `run` does with the process set up for it. Gives the
status of the last one and the pipes. -/
def joinedOnce (run : (Process → Process) → Command → Sh Ending) (limit : Nat) :
    Option Nat → List Nat → List Command → Sh (Nat × List Nat)
  | _, pipes, [] => pure (0, pipes)
  | input, pipes, c :: rest => do
    let read (p : Process) : Process :=
      match input with
      | some channel => p.setChannel 0 (some channel)
      | none => p
    if rest.isEmpty then return (← reportEnding (← run read c), pipes)
    else
      let (index, reader, writer) ← Sh.act (Act.addPipe limit)
      let _ ← reportEnding (← run (fun p => (read p).setChannel 1 (some writer)) c)
      joinedOnce run limit (some reader) (index :: pipes) rest

/-- The same; if a reader wants more than a writer was let write, all is done again with more
room. -/
def joined (run : (Process → Process) → Command → Sh Ending) (commands : List Command) :
    Nat → Nat → Sh Nat
  | 0, _ => Sh.exhausted
  | k + 1, limit => fun s m =>
    match joinedOnce run limit none [] commands s m with
    | ((.ok (status, pipes), s'), m') =>
      let isStarved := pipes.any fun p => (m'.pipes[p]?).any Pipe.starved
      if isStarved && limit < Machine.lastLimit then joined run commands k (limit * 8) s m
      else ((.ok status, s'), m')
    | ((.error e, s), m) => ((.error e, s), m)

mutual

/-- Runs a command and gives its status. -/
def evaluate (start : Start) : Nat → Flags → Option Command → Sh Nat
  | 0, _, _ => Sh.exhausted
  | n + 1, flags, c => do
    match c with
    | some c =>
      if !(← Sh.isOn .noexec) then
        takeTraps start n
        let status ← perform start n flags c
        Sh.setStatus status
        let isChecked := match c with
          | .simple _ _ _ _ | .pipe _ | .subshell _ _ _ | .background _ _ _ => true
          | _ => false
        if isChecked && status ≠ 0 && !flags.tested && (← Sh.isOn .errexit) then throw .finish
        takeTraps start n
    | none => pure ()
    if flags.last then throw .finish
    pure (← get).status

/-- What a command does, by its kind. -/
def perform (start : Start) : Nat → Flags → Command → Sh Nat
  | 0, _, _ => Sh.exhausted
  | n + 1, flags, c => do
    let inside : Flags := { tested := flags.tested }
    match c with
    | .simple line assignments words redirects =>
      modify fun s => { s with line, lastCapture := 0 }
      simple start n flags assignments words redirects
    | .pipe commands =>
      let _ ← claimNumber
      joined (fun setup c =>
        inCopy start n true (fun s => { s with process := setup s.process })
          (evaluate start n ⟨flags.tested, true⟩ (some c))) commands 4 Machine.firstLimit
    | .background line body redirects => background start n line body redirects
    | .subshell line body redirects =>
      modify fun s => { s with line }
      let moves ← redirects.mapM (Move.ofRedirect (capture start n))
      if flags.last && !Jobs.hasTraps (← get) then
        Move.carryOutAll (capture start n) false moves
        evaluate start n flags (some body)
      else
        let _ ← claimNumber
        let ending ← inCopy start n false id do
          Move.carryOutAll (capture start n) false moves
          evaluate start n { flags with last := true } (some body)
        reportEnding ending
    | .redirected line body redirects =>
      modify fun s => { s with line }
      let moves ← redirects.mapM (Move.ofRedirect (capture start n))
      modify fun s => { s with moved := [] :: s.moved }
      let ready ← guarded do
        Move.carryOutAll (capture start n) true moves
        pure 0
      let status ← if ready ≠ 0 then pure ready else evaluate start n inside (some body)
      Move.undo false
      pure status
    | .negated body =>
      let status ← evaluate start n { tested := true } (some body)
      pure (if status = 0 then 1 else 0)
    | .both first second =>
      let status ← evaluate start n { tested := true } (some first)
      if status ≠ 0 || (← get).skip.isSome then pure status
      else evaluate start n flags (some second)
    | .either first second =>
      let status ← evaluate start n { tested := true } (some first)
      if status = 0 || (← get).skip.isSome then pure status
      else evaluate start n flags (some second)
    | .sequence first second =>
      let status ← evaluate start n inside (some first)
      if (← get).skip.isSome then pure status else evaluate start n flags (some second)
    | .branch test yes no =>
      let status ← evaluate start n { tested := true } (some test)
      if (← get).skip.isSome then pure status
      else if status = 0 then evaluate start n flags (some yes)
      else match no with
        | some no => evaluate start n flags (some no)
        | none => pure 0
    | .loop whileTrue test body =>
      modify fun s => { s with loops := s.loops + 1 }
      let status ← iterate (fun status => do
        let result ← evaluate start n { tested := true } (some test)
        match ← loopSkip with
        | some (.return true) => pure (false, result)
        | some (.nextRound _) => pure (true, status)
        | some _ => pure (false, status)
        | none =>
          if (result = 0) != whileTrue then pure (false, status)
          else
            let status ← evaluate start n inside (some body)
            match ← loopSkip with
            | none | some (.nextRound _) => pure (true, status)
            | some _ => pure (false, status)) maxRounds 0
      modify fun s => { s with loops := s.loops - 1 }
      pure status
    | .each line name words body =>
      modify fun s => { s with line }
      let mut values : List (List Octets) := []
      for word in words do
        values := (← expandWord (capture start n) false word) :: values
      modify fun s => { s with loops := s.loops + 1 }
      let (_, status) ← iterate (fun (values, _) => do
        match values with
        | [] => pure (false, ([], (← get).status))
        | value :: rest =>
          Sh.assign name value
          let status ← evaluate start n inside (some body)
          match ← loopSkip with
          | none | some (.nextRound _) => pure (!rest.isEmpty, (rest, status))
          | some _ => pure (false, (rest, status))) maxRounds (values.reverse.flatten, 0)
      modify fun s => { s with loops := s.loops - 1 }
      pure (if values.all List.isEmpty then 0 else status)
    | .choose line subject arms =>
      modify fun s => { s with line }
      let subject ← expandText (capture start n) subject
      choose start n flags subject arms
    | .define line name body =>
      modify fun s =>
        { s with functions := (name, line, body) :: s.functions.filter fun (f, _) => f ≠ name }
      pure 0

/-- Runs the first arm with a pattern that covers the subject. -/
def choose (start : Start) : Nat → Flags → Octets → List (List Word × Option Command) → Sh Nat
  | 0, _, _, _ => Sh.exhausted
  | _ + 1, _, _, [] => pure 0
  | n + 1, flags, subject, (patterns, body) :: rest => do
    let mut found := false
    for pattern in patterns do
      unless found do
        let atoms ← expandPattern (capture start n) pattern
        found := Pattern.accepts atoms subject
    if !found then
      if (← get).skip.isSome then pure 0 else choose start n flags subject rest
    else match body with
      | some body => evaluate start n flags (some body)
      | none => pure 0

/-- Begins a command in the background. If it sleeps it is put off. -/
def background (start : Start) : Nat → Nat → Command → List Redirect → Sh Nat
  | 0, _, _, _ => Sh.exhausted
  | n + 1, line, body, redirects => do
    modify fun s => { s with line }
    let number ← claimNumber
    let pid ← Sh.act Act.newPid
    let nothing ← Sh.act (Act.addChannel (.device .null ⟨true, false⟩))
    let s ← get
    let p := s.process
    let ignored := 2 :: 3 :: p.ignored
    let situation : Situation :=
      { s.toSituation with
        process := { p.setChannel 0 (some nothing) with pid, ignored }
        deaf := 2 :: 3 :: s.deaf }
    let began := (← Sh.act get).clock
    let job : Job :=
      { number, pid, ending := none, work := some (situation, body, redirects), began }
    let job : Job ←
      match ← unlessLate (runJob start n job) with
      | some ending => pure { job with ending := some ending, work := none }
      | none => pure job
    modify fun s => { s with lastBackground := pid, jobs := s.jobs ++ [job] }
    pure 0

/-- Does the work of a job, and leaves the shell itself as it is. -/
def runJob (start : Start) : Nat → Job → Sh Ending
  | 0, _ => Sh.exhausted
  | n + 1, job => do
    match job.work with
    | none => pure (job.ending.getD (.exited 0))
    | some (situation, body, redirects) =>
      let shell : State := { Jobs.withoutTraps situation with }
      asProcess start n true shell do
        let moves ← redirects.mapM (Move.ofRedirect (capture start n))
        Move.carryOutAll (capture start n) false moves
        evaluate start n { last := true } (some body)

/-- Work of a shell of its own, to its end. -/
def asProcess (start : Start) : Nat → Bool → State → Sh Nat → Sh Ending
  | 0, _, _, _ => Sh.exhausted
  | n + 1, settles, shell, work => fun s m =>
    let pid := shell.process.pid
    let m := { m with alive := pid :: m.alive }
    let ((outcome, copy), m) := conclude start n work shell m
    let rest : Sh Unit := if settles then settle start n none none else pure ()
    let ((leftover, copy), m) := rest copy m
    let m := { m with alive := m.alive.filter (· ≠ pid) }
    let orphans := (copy.jobs.filter fun j => j.ending.isNone).map fun j => { j with number := 0 }
    let s := if settles then s else { s with jobs := s.jobs ++ orphans }
    match outcome, leftover with
    | .error (.stop .overflow), _ | _, .error (.stop .overflow) =>
      ((.error (.stop .overflow), s), m)
    | .error (.stop (.ended ending)), _ => ((.ok ending, s), m)
    | .ok status, _ => ((.ok (.exited (status % 256)), s), m)
    | .error _, _ => ((.ok (.exited 2), s), m)

/-- Work in a copy of the shell, of which only the machine is kept. -/
def inCopy (start : Start) : Nat → Bool → (Situation → Situation) → Sh Nat → Sh Ending
  | 0, _, _, _ => Sh.exhausted
  | n + 1, settles, setup, work => do
    let pid ← Sh.act Act.newPid
    let s ← get
    let situation := setup (Jobs.withoutTraps s.toSituation)
    let parent := s.process.pid
    let shell : State :=
      { situation with process := { situation.process with pid, parent }, moved := [] }
    let before := (← Sh.act get).clock
    let ending ← asProcess start n settles shell work
    afterSleep start n before
    pure ending

/-- Lets jobs go on that would have ended while the shell was held up. -/
def afterSleep (start : Start) : Nat → Nat → Sh Unit
  | 0, _ => Sh.exhausted
  | n + 1, before => do
    let now := (← Sh.act get).clock
    if now > before then settle start n (some now) none

/-- Does the work of jobs that were put off, those first that end first: all of them, or those that
end by some time, or up to the one with some number of a process. -/
def settle (start : Start) : Nat → Option Nat → Option Nat → Sh Unit
  | 0, _, _ => Sh.exhausted
  | n + 1, limit, target => do
    let open_ := (← get).jobs.filter fun j => j.ending.isNone
    let isDone := target.any fun pid => !open_.any fun j => j.pid = pid
    if open_.isEmpty || isDone then pure ()
    else
      let ends ← open_.mapM fun j => return (← endOf start n j, j)
      match ends.mergeSort fun a b => a.1 ≤ b.1 with
      | [] => pure ()
      | (time, j) :: _ =>
        if limit.any (· < time) then pure ()
        else
          let now := (← Sh.act get).clock
          Sh.act (modify fun m => { m with clock := j.began })
          let ending ← runJob start n j
          Sh.act (modify fun m => { m with clock := max now (if limit.isSome then 0 else m.clock) })
          let ended : Job := { j with ending := some ending, work := none }
          modify fun s => { s with jobs := s.jobs.map fun k => if k.pid = j.pid then ended else k }
          settle start n limit target

/-- When the work of a job would be over. -/
def endOf (start : Start) : Nat → Job → Sh Nat
  | 0, _ => Sh.exhausted
  | n + 1, j => fun s m =>
    let ((_, _), m') := runJob start n j s { m with clock := j.began }
    ((.ok m'.clock, s), m)

/-- Work with the end of the shell after it: its status, when everything is done. -/
def conclude (start : Start) : Nat → Sh Nat → Sh Nat
  | 0, _ => Sh.exhausted
  | n + 1, work => do
    let _ ← Sh.recover work fun e => do
      match e with
      | .stop _ => throw e
      | .exit => reset true
      | _ => reset false
      pure 0
    let s ← get
    modify fun s => { s with savedStatus := some s.status }
    match s.traps.lookup 0 with
    | some action =>
      modify fun s =>
        { s with traps := s.traps.filter (fun (signal, _) => signal ≠ 0), skip := none }
      let _ ← Sh.recover (do
        let _ ← runText start n {} action
        modify fun s => { s with skip := some (.return false) }
        reset false
        pure 0) fun e => do
        match e with
        | .stop _ => throw e
        | .exit => reset true
        | _ => reset false
        pure 0
    | none => reset true
    pure (← get).status

/-- Carries out what was set to be done at the signals that have come. -/
def takeTraps (start : Start) : Nat → Sh Unit
  | 0 => Sh.exhausted
  | n + 1 => do
    Sh.takeSignals
    let s ← get
    if s.caught.isEmpty || s.skip.isSome then pure ()
    else
      let before := s.savedStatus
      let status := before.getD s.status
      modify fun s => { s with savedStatus := some status }
      for signal in s.caught.mergeSort do
        if (← get).skip.isNone then
          modify fun s => { s with caught := s.caught.filter (· ≠ signal) }
          match (← get).traps.lookup signal with
          | some action =>
            let _ ← runText start n {} action
            if (← get).skip ≠ some (.return true) then Sh.setStatus status
          | none => pure ()
      modify fun s => { s with savedStatus := before }

/-- Runs a text as a script. -/
def runText (start : Start) : Nat → Flags → Octets → Sh Nat
  | 0, _, _ => Sh.exhausted
  | n + 1, flags, text => do
    let (_, status) ← iterate (fun (c, status) => do
      match ← parseNext c with
      | (none, c) => pure (false, (c, status))
      | (some command, c) =>
        let result ← evaluate start n flags command
        let status := if command.isSome then result else status
        pure ((← get).skip.isNone, (c, status))) maxRounds
        (({ layer := { rest := text } } : Cursor), 0)
    pure status

/-- Runs a script from a file, to its end or until it is left. -/
def runScript (start : Start) : Nat → Cursor → Sh Nat
  | 0, _ => Sh.exhausted
  | n + 1, c => do
    let (_, status) ← iterate (fun (c, status) => do
      match ← parseNext c with
      | (none, c) => pure (false, (c, status))
      | (some command, c) =>
        let result ← evaluate start n {} command
        let status := if command.isSome then result else status
        pure ((← get).skip.isNone, (c, status))) maxRounds (c, 0)
    match (← get).skip with
    | some (.return _) => modify fun s => { s with skip := none }
    | _ => pure ()
    pure status

/-- What a command writes. -/
def capture (start : Start) : Nat → Option Command → Sh Octets
  | 0, _ => Sh.exhausted
  | _ + 1, none => pure []
  | n + 1, some c => do
    let _ ← claimNumber
    let (index, _, writer) ← Sh.act (Act.addPipe Machine.lastLimit)
    let ending ← inCopy start n true
      (fun s => { s with process := s.process.setChannel 1 (some writer) })
      (evaluate start n { last := true } (some c))
    let status ← reportEnding ending
    modify fun s => { s with lastCapture := status }
    Sh.act (Act.drain index)

/-- Shows what is about to be carried out. -/
def trace (start : Start) : Nat → Option Nat → List Octets → Sh Unit
  | 0, _, _ => Sh.exhausted
  | n + 1, channel, words => do
    let s ← get
    if s.settings.contains .xtrace && !s.tracing then
      modify fun s => { s with tracing := true }
      let prompt := (← Sh.value? "PS4".toList).getD []
      let shown ←
        match Reader.template.run { layer := ⟨prompt, none, false⟩ } with
        | .ok (word, _) => expandBody (capture start n) word
        | .error _ => pure prompt
      match channel with
      | some c =>
        let _ ← Sh.act (Act.write c (shown ++ [' '].intercalate words ++ ['\n']))
      | none => pure ()
      modify fun s => { s with tracing := false }

/-- A command with assignments, words and redirections. -/
def simple (start : Start) : Nat → Flags → List Word → List Word → List Redirect → Sh Nat
  | 0, _, _, _, _ => Sh.exhausted
  | n + 1, flags, assignments, words, redirects => do
    let run := capture start n
    let empty : Outline := { args := [], shown := [], pending := words }
    let o ← do
      match ← empty.fill run words with
      | none => pure { empty with pending := [] }
      | some o => Outline.identify run 100 o
    let mut more : List (List Octets) := []
    for word in o.pending do
      more := (← expandWord run o.keepsPairs word) :: more
    let rest := more.reverse.flatten
    let o := { o with args := o.args ++ rest, shown := o.shown ++ rest, pending := [] }
    let isExec := o.args.head? = some "exec".toList && o.special.isSome
      && (match o.found with
        | some (.own _) => true
        | _ => false)
    let depth := (← get).locals.length
    let movedDepth := (← get).moved.length
    if o.isLocal then modify fun s => { s with locals := [] :: s.locals }
    let traceChannel := (← get).process.channel? 2
    let moves ← redirects.mapM (Move.ofRedirect run)
    modify fun s => { s with moved := [] :: s.moved }
    let ready ← guarded do
      Move.carryOutAll run true moves
      pure 0
    let status ← do
      if ready ≠ 0 then
        Sh.setStatus ready
        if o.special = some true then throw .error
        pure ready
      else
        let mut pairs : List Octets := []
        for word in assignments do
          let pair ← expandPair run word
          pairs := pair :: pairs
          if o.isLocal then Sh.makeLocal pair true
          else
            let (name, value) := Sh.splitPair pair
            Sh.setVariable name value (isExec && o.args.length > 1) false
        trace start n traceChannel (pairs.reverse ++ o.shown)
        carryOut start n flags o
    Move.undoTo (movedDepth + 1) (← get).moved.length
    Move.undo isExec
    unwind depth ((← get).locals.length + 1)
    pure status

/-- Carries out a command whose words, assignments and redirections are ready. -/
def carryOut (start : Start) : Nat → Flags → Outline → Sh Nat
  | 0, _, _ => Sh.exhausted
  | n + 1, flags, o => do
    match o.args with
    | [] => pure (← get).lastCapture
    | name :: args =>
      match o.found with
      | some (.own trait) =>
        let result ← Sh.recover (own start n flags name args) fun e =>
          match e with
          | .error => do
            if o.special = some true then throw e
            pure (← get).status
          | e => throw e
        let _ := trait
        pure result
      | some (.function _ body) => call start n flags args body
      | _ =>
        let path ← match o.path with
          | some path => pure path
          | none => Sh.searchPath
        match ← Lookup.findFile path name o.path.isNone with
        | .error e =>
          Sh.warn (name ++ ": ".toList ++ Lookup.complaint e)
          Sh.setStatus 127
          if o.special = some true then throw .error
          pure 127
        | .ok place =>
          let launch ← launchOf path place name args
          if flags.last && !Jobs.hasTraps (← get) then
            match launch with
            | .ok launch => become start launch
            | .error e => cannotRun name e
          else
            let _ ← claimNumber
            match launch with
            | .ok launch =>
              let pid ← Sh.act Act.newPid
              let p ← Sh.childProcess
              let before := (← Sh.act get).clock
              let ending ← Sh.act (start { p with pid, parent := p.pid } launch)
              afterSleep start n before
              reportEnding ending
            | .error e =>
              Sh.warn (name ++ ": ".toList ++ Lookup.complaint e)
              pure (Lookup.status e)

/-- Calls a function. -/
def call (start : Start) : Nat → Flags → List Octets → Command → Sh Nat
  | 0, _, _, _ => Sh.exhausted
  | n + 1, flags, args, body => do
    let s ← get
    if s.calls ≥ maxCalls then
      Sh.fail ("Maximum function recursion depth (".toList ++ Nat.toDigits 10 maxCalls
        ++ ") reached".toList)
    modify fun s =>
      { s with
        arguments := args, optionIndex := 1, optionOffset := none, loops := 0
        calls := s.calls + 1 }
    let work : Sh Nat := do
      let _ ← evaluate start n { tested := flags.tested } (some body)
      pure (← get).status
    Sh.always work fun after =>
      let skip := match after.skip with
        | some (.return _) => none
        | skip => skip
      { after with
        arguments := s.arguments, optionIndex := s.optionIndex, optionOffset := s.optionOffset
        loops := s.loops, calls := s.calls, skip }

/-- Runs a command of the shell itself, and writes what it has printed. -/
def own (start : Start) : Nat → Flags → Octets → List Octets → Sh Nat
  | 0, _, _, _ => Sh.exhausted
  | n + 1, flags, name, args => do
    let topic := (← get).topic
    modify fun s => { s with topic := some name, held := [] }
    let flush (status : Nat) : Sh Nat := do
      let o := (← get).held.reverse.flatten
      modify fun s => { s with held := [] }
      if o.isEmpty then pure status
      else match ← Sh.act ((← get).process.write 1 o) with
        | .ok () => pure status
        | .error _ =>
          Sh.warn (name ++ ": I/O error".toList)
          pure (status ||| 1)
    let work : Sh Nat := do
      let status ← Sh.recover (dispatch start n flags name args) fun e => do
        match e with
        | .stop e => throw (.stop e)
        | e =>
          let _ ← flush 0
          throw e
      let status ← flush status
      Sh.setStatus status
      pure status
    Sh.always work fun s => { s with topic }

/-- What a command of the shell itself does. -/
def dispatch (start : Start) : Nat → Flags → Octets → List Octets → Sh Nat
  | 0, _, _, _ => Sh.exhausted
  | n + 1, flags, name, args => do
    match String.ofList name with
    | ":" | "true" => pure 0
    | "false" => pure 1
    | "." =>
      match (← Sh.takeOptions "" args).2 with
      | [] => pure 0
      | file :: _ => source start n file
    | "[" | "test" => Test.run name args
    | "alias" => Builtin.makeAliases args
    | "bg" | "fg" => Jobs.resume args
    | "break" => Builtin.leave false args
    | "cd" | "chdir" => Builtin.cd args
    | "command" => Lookup.command args
    | "continue" => Builtin.leave true args
    | "echo" => Printing.echo args
    | "eval" =>
      if args.isEmpty then pure 0
      else runText start n { tested := flags.tested } ([' '].intercalate args)
    | "exec" =>
      match (← Sh.takeOptions "" args).2 with
      | [] => pure 0
      | name :: args =>
        let path ← Sh.searchPath
        let places := Lookup.places path name
        match ← launchOf path (places.headD []) name args with
        | .ok launch => become start launch
        | .error e => cannotRun name e
    | "exit" => Builtin.exit args
    | "export" => Builtin.mark name false args
    | "getopts" => Builtin.getopts args
    | "hash" => Lookup.hash args
    | "jobs" => Jobs.jobs args
    | "kill" => Jobs.kill args
    | "local" => Builtin.makeLocals args
    | "printf" => Printing.printf args
    | "pwd" => Builtin.pwd args
    | "read" => Builtin.read args
    | "readonly" => Builtin.mark name true args
    | "return" => Builtin.leaveScript args
    | "set" => Builtin.set args
    | "shift" => Builtin.shift args
    | "times" =>
      Sh.print "0m0.000000s 0m0.000000s\n0m0.000000s 0m0.000000s\n".toList
      pure 0
    | "trap" => Jobs.trap args
    | "type" => Lookup.type args
    | "ulimit" => Builtin.ulimit args
    | "umask" => Builtin.umask args
    | "unalias" => Builtin.removeAliases args
    | "unset" => Builtin.unset args
    | "wait" => wait start n args
    | _ => pure 0

/-- Reads a file as part of the script. -/
def source (start : Start) : Nat → Octets → Sh Nat
  | 0, _ => Sh.exhausted
  | n + 1, file => do
    let s ← get
    let f ← Sh.act Act.files
    let isFile (place : Octets) : Bool :=
      match f.resolve s.process.cwd place true with
      | .error _ => false
      | .ok n =>
        match f.body? n with
        | some (.file _) | some (.program _) => true
        | _ => false
    let place ←
      if file.contains '/' then pure file
      else match (Lookup.places (← Sh.searchPath) file).find? isFile with
        | some place => pure place
        | none => Sh.fail (file ++ ": not found".toList)
    let content ← readScript place
    modify fun s => { s with topic := some place }
    let line := s.readLine
    let status ← runScript start n { layer := ⟨content, none, false⟩, echoes := true }
    modify fun s => { s with readLine := line }
    pure status

/-- Waits for commands in the background. -/
def wait (start : Start) : Nat → List Octets → Sh Nat
  | 0, _ => Sh.exhausted
  | n + 1, args => do
    match (← Sh.takeOptions "" args).2 with
    | [] =>
      settle start n none none
      modify fun s => { s with jobs := s.jobs.map fun j => { j with waited := true } }
      pure 0
    | args =>
      let mut status := 127
      for o in args do
        let pid ← match o with
          | '%' :: _ => pure (← Jobs.find o).pid
          | o => Sh.smallNumber o
        match (← get).jobs.find? fun j => j.pid = pid with
        | none => pure ()
        | some _ =>
          settle start n none (some pid)
          match (← get).jobs.find? fun j => j.pid = pid with
          | some j =>
            let ending := j.ending.getD (.exited 0)
            status ← if j.waited then pure (Jobs.statusOf (some ending)) else reportEnding ending
            modify fun s =>
              { s with jobs := s.jobs.map fun k =>
                if k.pid = pid then { k with waited := true } else k }
          | none => pure ()
      pure status

end

end MatchedLines.Host.Shell
