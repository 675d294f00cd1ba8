import MatchedLines.Host.Shell.Execution
/-!
A shell from its start to its end: what it takes over from its process, how it reads its arguments,
and the script it runs.
-/

namespace MatchedLines.Host.Shell.Session

/-- The variables that every shell has. -/
def ownVariables (parent : Nat) : List Variable :=
  let plain (name value : String) : Variable := ⟨name.toList, some value.toList, false, false⟩
  [plain "PS1" "$ ", plain "PS2" "> ", plain "PS4" "+ ", plain "OPTIND" "1", plain "IFS" " \t\n",
    ⟨"PPID".toList, some (Nat.toDigits 10 parent), false, false⟩]

/-- The variables of a new shell: those of its process and its own. -/
def variablesOf (p : Process) : List Variable :=
  let taken := (p.environment.filter fun (name, _) => Octets.isName name).map fun (name, value) =>
    (⟨name, some value, true, false⟩ : Variable)
  let own := (ownVariables p.parent).filter fun v =>
    v.name = "IFS".toList || v.name = "OPTIND".toList || v.name = "PPID".toList
      || !taken.any fun w => w.name = v.name
  let path : List Variable :=
    if taken.any fun v => v.name = "PATH".toList then []
    else [⟨"PATH".toList, some Lookup.standardPath, false, false⟩]
  own ++ path ++ taken.filter fun v => !own.any fun w => w.name = v.name

/-- The directory as the process calls it, if that is right, or as it is reached from the root. -/
def directoryOf (f : Files) (p : Process) : Octets :=
  match p.environment.lookup "PWD".toList with
  | some ('/' :: rest) =>
    match f.resolve p.cwd ('/' :: rest) true with
    | .ok n => if n = p.cwd then '/' :: rest else f.render p.cwd
    | .error _ => f.render p.cwd
  | _ => f.render p.cwd

/-- A shell that has just been started. -/
def start (f : Files) (p : Process) (name : Octets) : State :=
  let directory := directoryOf f p
  let pwd : Variable := ⟨"PWD".toList, some directory, true, false⟩
  { process := p
    rootPid := p.pid
    name
    directory
    bindings := (variablesOf p).filter (fun v => v.name ≠ pwd.name) ++ [pwd]
    deaf := p.ignored }

/-- What a shell is asked to do. -/
structure Task where
  text : Option Octets := none
  file : Option Octets := none

/-- Reads the arguments of a shell. -/
def readArguments (args : List Octets) : Sh Task := do
  let (hasText, _, rest) ← Builtin.takeSettings true (args.length + 1) false args
  if hasText && rest.isEmpty then Sh.fail "-c requires an argument".toList
  if rest.isEmpty then
    modify fun s => { s with settings := Setting.switch s.settings .stdin true }
  let s ← get
  if s.settings.contains .monitor || s.settings.contains .interactive then
    Sh.warn "can't access tty; job control turned off".toList
    modify fun s => { s with settings := Setting.switch s.settings .monitor false }
  if hasText then
    match rest with
    | text :: name :: args =>
      modify fun s => { s with name, arguments := args }
      pure { text := some text }
    | text :: [] => pure { text := some text }
    | [] => pure {}
  else if s.settings.contains .stdin then
    modify fun s => { s with arguments := rest }
    pure {}
  else match rest with
    | file :: args =>
      let content ← readScript file
      modify fun s => { s with name := file, arguments := args }
      pure { file := some content }
    | [] => pure {}

/-- What a shell writes before it has a script to run. -/
def flush : Sh Unit := do
  let o := (← get).held.reverse.flatten
  modify fun s => { s with held := [] }
  let _ ← Sh.act ((← get).process.write 1 o)

/-- The work of a shell with these arguments. -/
def work (begin_ : Start) (n : Nat) (args : List Octets) : Sh Nat := do
  let task ← readArguments args
  flush
  let readsInput := (← get).settings.contains .stdin
  let status ← match task.text with
    | some text => runText begin_ n {} text
    | none => pure 0
  match task.file with
  | some content => runScript begin_ n { layer := { rest := content }, echoes := true }
  | none =>
    if readsInput then
      let content ← match (← get).process.channel? 0 with
        | none => pure []
        | some channel =>
          match ← Sh.act (Act.readAll channel) with
          | .ok o => pure (o.filter (· ≠ '\x00'))
          | .error _ => pure []
      runScript begin_ n { layer := { rest := content }, echoes := true, asks := true }
    else pure status

/-- How deeply commands may be nested. -/
def maxDepth : Nat := 100000

/-- Runs a shell as a process. -/
def run (begin_ : Start) (p : Process) (argv : List Octets) : Act Ending := fun m =>
  let shell := start m.files p (argv.headD "sh".toList)
  let ((outcome, _), m) :=
    asProcess begin_ maxDepth true shell (work begin_ maxDepth argv.tail) shell m
  match outcome with
  | .ok ending => (.ok ending, m)
  | .error (.stop stop) => (.error stop, m)
  | .error _ => (.ok (.exited 2), m)

end MatchedLines.Host.Shell.Session
