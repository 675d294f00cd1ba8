import MatchedLines.Host.Utility.Basic
import MatchedLines.Host.Utility.Mode
import MatchedLines.Host.Utility.Paths
/-!
Programs that make files and directories and change what is noted about them.
-/

namespace MatchedLines.Host.Changing

def about (what : String) (path : Octets) (e : Errno) : Octets :=
  what.toList ++ ' ' :: (Quoting.quoted path ++ ": ".toList ++ e.wording)

/-! ### Directories -/

/-- Makes one directory. -/
def makeDirectory (path : Octets) (mode : Nat) : Tool (Except Errno Unit) := do
  let cwd ← Tool.cwd
  Tool.change fun f => do
    let place ← f.locate cwd (Paths.withoutSlashes path) false
    return (← f.create place (.directory 0 []) mode).1

/-- The paths on the way to a path, each with one name more, and the path itself last. -/
def steps (path : Octets) : List Octets :=
  let rec go : Nat → Octets → Octets → List Octets
    | 0, _, _ => []
    | n + 1, taken, o =>
      let slashes := o.takeWhile Paths.isSlash
      let rest := o.drop slashes.length
      let name := rest.takeWhile (!Paths.isSlash ·)
      if name.isEmpty then []
      else
        let here := taken ++ slashes ++ name
        here :: go n here (rest.drop name.length)
  go (path.length + 1) [] path

/-- Makes a directory and those on the way to it. -/
def makeAll (verbose : Bool) (mode : Nat) (path : Octets) : Tool Bool := do
  let p ← Tool.process
  let all := steps path
  if all.isEmpty then
    if path.isEmpty then Tool.warn (about "cannot create directory" path .noEntry)
    pure (!path.isEmpty)
  else
    let mut ok := true
    for (here, i) in all.zipIdx do
      if ok then
        let isLast := i + 1 = all.length
        let mode := if isLast then mode else 0o777 - (p.umask &&& 0o777) ||| 0o300
        match (← Tool.files).resolve p.cwd here true with
        | .ok n =>
          if !(← Tool.files).isDirectory n then
            Tool.warn (about "cannot create directory" here
              (if isLast then .alreadyExists else .notDirectory))
            ok := false
        | .error _ =>
          match ← makeDirectory here mode with
          | .ok () =>
            if verbose then
              Tool.printLine
                ((← read).name ++ ": created directory ".toList ++ Quoting.quoted here)
          | .error e =>
            Tool.warn (about "cannot create directory" here e)
            ok := false
    pure ok

def mkdir (args : List Octets) : Tool Nat := do
  let grammar : Grammar :=
    { short := Grammar.letters "pm:vZ"
      long := [("context", .optional, "Z"), ("mode", .required, "m"), ("parents", .none, "p"),
        ("verbose", .none, "v"), ("help", .none, "help"), ("version", .none, "version")] }
  let (cs, operands) ← grammar.parse args
  if operands.isEmpty then Tool.misuse 1 "missing operand".toList
  let umask := (← Tool.process).umask
  let mode ← match Choice.last? cs "m" with
    | none => pure (Mode.without 0o777 umask)
    | some o =>
      match Mode.parse? o with
      | some changes => pure (Mode.ofNewDirectory umask changes)
      | none => Tool.fail 1 ("invalid mode ".toList ++ Quoting.shown o)
  let verbose := Choice.has cs "v"
  let mut status := 0
  for path in operands do
    if Choice.has cs "p" then
      if !(← makeAll verbose mode path) then status := 1
    else match ← makeDirectory path mode with
      | .ok () =>
        if verbose then
          Tool.printLine ((← read).name ++ ": created directory ".toList ++ Quoting.quoted path)
      | .error e =>
        Tool.warn (about "cannot create directory" path e)
        status := 1
  pure status

/-! ### Times -/

/-- Sets the time of a node; nothing means now. -/
def stampNode (n : Nat) (stamp : Option Nat) : Tool Unit := do
  let f ← Tool.files
  match stamp, f.node? n with
  | some stamp, some node => Tool.setFiles (f.setNode n { node with stamp })
  | _, _ => Tool.setFiles (f.change n id)

/-- Whether a text can stand for a time, as far as that is looked at: it has a digit or a word for a
time in it. -/
def isDate (o : Octets) : Bool :=
  o.any Char.isDigit || ["now", "today", "yesterday", "tomorrow"].any fun w =>
    Octets.isWithin w.toList (o.map Char.toLower)

/-- Whether digits, with a point before the seconds, are a time. -/
def isStamp (o : Octets) : Bool :=
  let digits := o.takeWhile Char.isDigit
  let rest := o.drop digits.length
  [8, 10, 12].contains digits.length
    && (rest.isEmpty ||
      (rest.length = 3 && rest.head? = some '.' && (rest.drop 1).all Char.isDigit))

def touch (args : List Octets) : Tool Nat := do
  let grammar : Grammar :=
    { short := Grammar.letters "acd:fhmr:t:"
      long := [("time", .required, "time"), ("no-create", .none, "c"), ("date", .required, "d"),
        ("reference", .required, "r"), ("no-dereference", .none, "h"), ("help", .none, "help"),
        ("version", .none, "version")] }
  let (cs, operands) ← grammar.parse args
  let p ← Tool.process
  let invalid (o : Octets) : Tool Unit :=
    Tool.fail 1 ("invalid date format ".toList ++ Quoting.shown o)
  match Choice.last? cs "d" with
  | some o => if !isDate o then invalid o
  | none => pure ()
  match Choice.last? cs "t" with
  | some o => if !isStamp o then invalid o
  | none => pure ()
  let stamp : Option Nat ← match Choice.last? cs "r" with
    | some path =>
      match ← Tool.resolve path true with
      | .ok n => pure (some ((← Tool.files).stamp n))
      | .error e => Tool.fail 1 (about "failed to get attributes of" path e)
    | none =>
      let given := (Choice.last? cs "d").getD ((Choice.last? cs "t").getD [])
      let isNow := given.isEmpty || ["now", "tomorrow", "next", "today"].any fun w =>
        Octets.isWithin w.toList given
      pure (if isNow then none else some 0)
  if operands.isEmpty then Tool.misuse 1 "missing file operand".toList
  let mut status := 0
  for path in operands do
    let creates := !Choice.has cs "c" && !Choice.has cs "h"
    if path = ['-'] then pure ()
    else
      let refusal : Option Errno ←
        if !creates then pure none
        else if path.getLast? = some '/' && (← Tool.resolve (Paths.parentOf path) true).isOk then
          pure none
        else
          let how : Opening := { rights := ⟨false, true⟩, create := true }
          match ← Tool.act (p.openFile path how) with
          | .ok _ | .error .isDirectory | .error .noDevice => pure none
          | .error e => pure (some e)
      match ← Tool.resolve path (!Choice.has cs "h") with
      | .ok n =>
        let f ← Tool.files
        let may := match f.node? n with
          | some node => node.own || (stamp.isNone && f.allows n .write)
          | none => false
        if may then stampNode n stamp
        else
          match refusal with
          | some e => Tool.warn (about "cannot touch" path e)
          | none => Tool.warn (about "setting times of" path .accessDenied)
          status := 1
      | .error e =>
        if !creates && e = .noEntry then pure ()
        else
          match refusal with
          | some e => Tool.warn (about "cannot touch" path e)
          | none => Tool.warn (about "setting times of" path e)
          status := 1
  pure status

/-! ### Permissions -/

structure Permissions where
  changes : List Mode.Change
  recursive : Bool
  silent : Bool
  /-- All changes are told, or only those that make a difference. -/
  verbose : Bool
  onlyChanges : Bool
  /-- The letters were written like options, and what they do may not be what was meant. -/
  diagnose : Bool

/-- Changes the permissions of what a path leads to, and of all below it. -/
def change (w : Permissions) : Nat → Bool → Octets → Tool Bool
  | 0, _, _ => pure false
  | depth + 1, atTop, path => do
    let p ← Tool.process
    let f ← Tool.files
    match f.locate p.cwd path false with
    | .error e =>
      if !w.silent then Tool.warn (about "cannot access" path e)
      pure false
    | .ok place =>
      match place.node with
      | none =>
        if !w.silent then Tool.warn (about "cannot access" path .noEntry)
        pure false
      | some link =>
        let isLink := match f.body? link with
          | some (.link _) => true
          | _ => false
        match if isLink then f.resolve p.cwd path true else .ok link with
        | .error e =>
          if isLink && !atTop then pure true
          else
            if !w.silent then
              if isLink then
                Tool.warn ("cannot operate on dangling symlink ".toList ++ Quoting.quoted path)
              else Tool.warn (about "cannot access" path e)
            pure false
        | .ok n =>
          if isLink && (!atTop) then pure true
          else match f.node? n with
            | none => pure false
            | some node =>
              let isDirectory := f.isDirectory n
              let mode := Mode.adjust isDirectory p.umask w.changes node.mode
              let shown (m : Nat) : Octets :=
                Mode.digits m ++ " (".toList ++ Mode.letters m ++ [')']
              let mut ok := true
              if !node.own then
                if !w.silent then Tool.warn (about "changing permissions of" path .notPermitted)
                if w.verbose then
                  Tool.printLine ("failed to change mode of ".toList ++ Quoting.quoted path
                    ++ " from ".toList ++ shown node.mode ++ " to ".toList ++ shown mode)
                ok := false
              else
                Tool.setFiles (f.setNode n { node with mode })
                if mode ≠ node.mode then
                  if w.verbose || w.onlyChanges then
                    Tool.printLine ("mode of ".toList ++ Quoting.quoted path
                      ++ " changed from ".toList ++ shown node.mode ++ " to ".toList ++ shown mode)
                else if w.verbose then
                  Tool.printLine ("mode of ".toList ++ Quoting.quoted path ++ " retained as ".toList
                    ++ shown mode)
                let naive := Mode.adjust isDirectory 0 w.changes node.mode
                if w.diagnose && Mode.without mode naive ≠ 0 then
                  Tool.warn (Quoting.name path ++ ": new permissions are ".toList
                    ++ Mode.letters mode ++ ", not ".toList ++ Mode.letters naive)
                  ok := false
              if w.recursive && isDirectory then
                let f ← Tool.files
                if !f.allows n .read then
                  if !w.silent then Tool.warn (about "cannot read directory" path .accessDenied)
                  pure false
                else
                  for (name, _) in (f.entries? n).getD [] do
                    if !(← change w depth false (Paths.join path name)) then ok := false
                  pure ok
              else pure ok

/-- Arguments that change permissions though they look like options. -/
def isModeOption : Octets → Bool
  | '-' :: c :: _ => "rwxXstugoa,+=01234567".toList.contains c
  | _ => false

/-- Tells arguments that change permissions from the others, up to the mark at which options end. -/
def takeModes : List Octets → List Octets × List Octets
  | [] => ([], [])
  | ['-', '-'] :: rest => ([], ['-', '-'] :: rest)
  | o :: rest =>
    let (modes, others) := takeModes rest
    if isModeOption o then (o :: modes, others) else (modes, o :: others)

def chmod (args : List Octets) : Tool Nat := do
  let grammar : Grammar :=
    { short := Grammar.letters "Rcfv"
      long := [("changes", .none, "c"), ("recursive", .none, "R"), ("no-preserve-root", .none, "n"),
        ("preserve-root", .none, "p"), ("quiet", .none, "f"), ("reference", .required, "ref"),
        ("silent", .none, "f"), ("verbose", .none, "v"), ("help", .none, "help"),
        ("version", .none, "version")] }
  let (modes, others) := takeModes args
  let (cs, operands) ← grammar.parse others
  let given := [','].intercalate modes
  let (mode, paths) : Option Octets × List Octets :=
    if !modes.isEmpty then (some given, operands)
    else if Choice.has cs "ref" then (none, operands)
    else (operands.head?, operands.drop 1)
  if paths.isEmpty then
    match mode with
    | some o =>
      if modes.isEmpty then Tool.misuse 1 ("missing operand after ".toList ++ Quoting.shown o)
      else Tool.misuse 1 "missing operand".toList
    | none => Tool.misuse 1 "missing operand".toList
  let changes ← match Choice.last? cs "ref", mode with
    | some path, _ =>
      match ← Tool.resolve path true with
      | .ok n =>
        let mode := (((← Tool.files).node? n).map Node.mode).getD 0
        let change : Mode.Change :=
          { op := '=', affected := Mode.all, value := mode, mentioned := Mode.all }
        pure [change]
      | .error e => Tool.fail 1 (about "failed to get attributes of" path e)
    | none, some o =>
      match Mode.parse? o with
      | some changes => pure changes
      | none => Tool.misuse 1 ("invalid mode: ".toList ++ Quoting.shown o)
    | none, none => pure []
  let w : Permissions :=
    { changes, recursive := Choice.has cs "R", silent := Choice.has cs "f"
      verbose := Choice.latest? cs ["v", "c"] = some "v"
      onlyChanges := Choice.latest? cs ["v", "c"] = some "c", diagnose := !modes.isEmpty }
  let mut status := 0
  for path in paths do
    if !(← change w 4096 true path) then status := 1
  pure status

/-! ### Files with new names -/

/-- A text of letters and digits that a number stands for. -/
def letters (count n : Nat) : Octets :=
  let digits := "abcdefghijklmnopqrstuvwxyzABCDEFGHIJKLMNOPQRSTUVWXYZ0123456789".toList
  (List.range count).map fun i => (digits[(n + 7 * i * i) / Nat.pow 3 i % 62]?).getD 'x'

def mktemp (args : List Octets) : Tool Nat := do
  let grammar : Grammar :=
    { short := Grammar.letters "dp:qtuV"
      long := [("directory", .none, "d"), ("quiet", .none, "q"), ("dry-run", .none, "u"),
        ("suffix", .required, "suffix"), ("tmpdir", .optional, "p"), ("help", .none, "help"),
        ("version", .none, "version")] }
  let (cs, operands) ← grammar.parse args
  let has := Choice.has cs
  let given ← match operands with
    | [] => pure "tmp.XXXXXXXXXX".toList
    | [o] => pure o
    | _ => Tool.misuse 1 "too many templates".toList
  let suffixGiven := Choice.last? cs "suffix"
  let tail : Octets ← match suffixGiven with
    | some s =>
      if given.getLast? ≠ some 'X' then
        Tool.fail 1 ("with --suffix, template ".toList ++ Quoting.shown given
          ++ " must end in X".toList)
      else pure s
    | none => pure (given.reverse.takeWhile (· ≠ 'X')).reverse
  let body := if suffixGiven.isSome then given else given.take (given.length - tail.length)
  let count := (body.reverse.takeWhile (· = 'X')).length
  if count < 3 then
    Tool.fail 1 ("too few X's in template ".toList ++ Quoting.shown given)
  let p ← Tool.process
  let useDirectory := operands.isEmpty || has "p" || has "t"
  let directory := match Choice.last? cs "p" with
    | some d => d
    | none => ((p.environment.lookup "TMPDIR".toList).filter (!·.isEmpty)).getD "/tmp".toList
  let front := body.take (body.length - count)
  let name := front ++ letters count (1000 + (← Tool.files).nodes.size * 37) ++ tail
  let path := if useDirectory then Paths.join directory name else name
  let template := if useDirectory then Paths.join directory (body ++ tail) else body ++ tail
  let outcome ←
    if has "u" then pure (.ok ())
    else if has "d" then makeDirectory path 0o700
    else Tool.change fun f => do
      let place ← f.locate p.cwd path false
      return (← f.create place (.file {}) 0o600).1
  match outcome with
  | .ok () =>
    Tool.printLine path
    pure 0
  | .error e =>
    if !has "q" then
      Tool.warn ((if has "d" then "failed to create directory via template "
        else "failed to create file via template ").toList ++ Quoting.shown template ++ ": ".toList
        ++ e.wording)
    pure 1

end MatchedLines.Host.Changing
