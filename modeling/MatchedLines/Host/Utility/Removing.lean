import MatchedLines.Host.Utility.Basic
import MatchedLines.Host.Utility.Paths
/-!
Programs that take names away from directories.
-/

namespace MatchedLines.Host.Removing

structure Wishes where
  recursive : Bool := false
  /-- A name that is not there is no failure. -/
  force : Bool := false
  /-- Empty directories may go too. -/
  directories : Bool := false
  asks : Bool := false
  verbose : Bool := false
  /-- The root may go too. -/
  root : Bool := false

/-- What became of a name. -/
inductive Outcome where
  | done
  /-- It is still there because someone said so. -/
  | declined
  /-- It is still there, and its directories have to stay. -/
  | failed
  deriving DecidableEq

/-- Asks a question; only an answer that begins with a y agrees. -/
def confirms (question : Octets) : Tool Bool := do
  Tool.report ((← read).name ++ ": ".toList ++ question ++ "? ".toList)
  match (← Tool.process).channel? 0 with
  | none => pure false
  | some c =>
    match ← Tool.act (Act.readLine c) with
    | .ok (c :: _) => pure (c = 'y' || c = 'Y')
    | _ => pure false

/-- What a node is called. -/
def kindOf (f : Files) (n : Nat) : String :=
  match f.body? n with
  | some (.directory _ _) => "directory"
  | some (.link _) => "symbolic link"
  | some (.device _) => "character special file"
  | some (.file c) => if c.size = 0 then "regular empty file" else "regular file"
  | _ => "regular file"

def isLink (f : Files) (n : Nat) : Bool :=
  match f.body? n with
  | some (.link _) => true
  | _ => false

def complain (path : Octets) (e : Errno) : Tool Unit :=
  Tool.warn ("cannot remove ".toList ++ Quoting.quoted path ++ ": ".toList ++ e.wording)

/-- Asks whether a thing is to be removed, or a directory to be emptied. -/
def agrees (w : Wishes) (descend : Bool) (n : Nat) (path : Octets) : Tool Bool := do
  if !w.asks then pure true
  else
    let f ← Tool.files
    let guarded := !w.force && !isLink f n && !f.allows n .write
    let guard_ := if guarded then "write-protected " else ""
    confirms (
      (if descend then "descend into " ++ guard_ ++ "directory "
        else "remove " ++ guard_ ++ kindOf f n ++ " ").toList ++ Quoting.quoted path)

/-- Takes one name away. -/
def excise (w : Wishes) (path : Octets) (change : Files → Except Errno Files)
    (kind : String) (instead : Errno → Errno) : Tool Outcome := do
  match ← Tool.change change with
  | .ok () =>
    if w.verbose then
      Tool.printLine ("removed ".toList ++ kind.toList ++ Quoting.quoted path)
    pure .done
  | .error e =>
    if w.force && [Errno.noEntry, .notDirectory, .nameTooLong, .invalidArgument].contains e then
      pure .done
    else
      complain path (instead e)
      pure .failed

/-- Removes what a path leads to, and first all that is below it. -/
def remove (w : Wishes) : Nat → Bool → Octets → Tool Outcome
  | 0, _, _ => pure .failed
  | depth + 1, atTop, path => do
    let cwd ← Tool.cwd
    let f ← Tool.files
    match f.resolve cwd path false with
    | .error e =>
      excise w path (fun _ => .error e) "" id
    | .ok n =>
      match f.entries? n with
      | none =>
        if ← agrees w false n path then
          excise w path (fun f => do f.unlink (← f.locate cwd path false)) "" id
        else pure .declined
      | some entries =>
        let isEmpty := entries.isEmpty && f.allows n .read
        if !w.recursive && !(w.directories && isEmpty) then
          complain path (if w.directories then .notEmpty else .isDirectory)
          pure .failed
        else if atTop && Paths.isDots (Paths.lastName path) then
          Tool.warn ("refusing to remove '.' or '..' directory: skipping ".toList
            ++ Quoting.quoted path)
          pure .failed
        else if atTop && n = 0 && !w.root then
          Tool.warn ("it is dangerous to operate recursively on ".toList ++ Quoting.quoted path
            ++ (if path = ['/'] then [] else " (same as '/')".toList))
          Tool.warn "use --no-preserve-root to override this failsafe".toList
          pure .failed
        else
          let wasEmpty := isEmpty
          if !(← agrees w (!wasEmpty) n path) then
            pure (if wasEmpty then .declined else .failed)
          else
            let mut failed := false
            if f.allows n .read then
              for (name, _) in entries do
                if (← remove w depth false (Paths.join path name)) = .failed then failed := true
            if failed then pure .failed
            else if !wasEmpty && !(← agrees w false n path) then pure .declined
            else
              let instead (e : Errno) : Errno :=
                if e = .notEmpty && !f.allows n .read then .accessDenied else e
              excise w path
                (fun f => do f.removeDirectory (← f.locate cwd (Paths.withoutSlashes path) false))
                "directory " instead

/-- How deep directories may be. -/
def maxDepth : Nat := 4096

/-- How to write files whose names look like options, for those that are there. -/
def hintFor (args : List Octets) : Tool Octets := do
  let name := (← read).name
  let hints ← args.filterMapM fun o => do
    if o.head? = some '-' && o.length > 1 && (← Tool.resolve o false).toBool then
      pure (some ("Try '".toList ++ name ++ " ./".toList ++ Quoting.name o
        ++ "' to remove the file ".toList ++ Quoting.quoted o ++ ".\n".toList))
    else pure none
  pure hints.flatten

def rm (args : List Octets) : Tool Nat := do
  let grammar : Grammar :=
    { short := Grammar.letters "dfirvIR"
      long := [("force", .none, "f"), ("interactive", .optional, "interactive"),
        ("one-file-system", .none, "one"), ("no-preserve-root", .none, "root"),
        ("preserve-root", .optional, "keep"), ("-presume-input-tty", .none, "tty"),
        ("recursive", .none, "r"), ("dir", .none, "d"), ("verbose", .none, "v"),
        ("help", .none, "help"), ("version", .none, "version")]
      hint := ← hintFor args }
  let (cs, operands) ← grammar.parse args
  let has := Choice.has cs
  let last := Choice.latest? cs ["f", "i", "I", "interactive"]
  let when_ := String.ofList ((Choice.last? cs "interactive").getD "always".toList)
  let asks := last = some "i" || (last = some "interactive" && (when_ = "always" || when_ = "yes"))
  let asksOnce := last = some "I" || (last = some "interactive" && when_ = "once")
  let w : Wishes :=
    { recursive := has "r" || has "R", force := last = some "f", directories := has "d"
      asks, verbose := has "v", root := has "root" }
  match operands with
  | [] => if w.force then pure 0 else Tool.misuse 1 "missing operand".toList
  | operands =>
    let count := operands.length
    let goes ←
      if asksOnce && (w.recursive || count > 3) then
        confirms ("remove ".toList ++ Nat.toDigits 10 count
          ++ (if count = 1 then " argument" else " arguments").toList
          ++ (if w.recursive then " recursively" else "").toList)
      else pure true
    if !goes then pure 0
    else
      let mut status := 0
      for path in operands do
        if (← remove w maxDepth true (Paths.trimmed path)) = .failed then status := 1
      pure status

def unlink (args : List Octets) : Tool Nat := do
  let grammar : Grammar :=
    { short := [], long := [("help", .none, "help"), ("version", .none, "version")] }
  match (← grammar.parse args).2 with
  | [] => Tool.misuse 1 "missing operand".toList
  | [path] =>
    let cwd ← Tool.cwd
    match ← Tool.change fun f => do f.unlink (← f.locate cwd path false) with
    | .ok () => pure 0
    | .error e =>
      Tool.fail 1 ("cannot unlink ".toList ++ Quoting.quoted path ++ ": ".toList ++ e.wording)
  | _ :: o :: _ => Tool.misuse 1 ("extra operand ".toList ++ Quoting.shown o)

/-- Removes a directory and then, if asked for, those on the way to it. -/
def removeUpward (verbose ignores : Bool) : Nat → Bool → Octets → Tool Bool
  | 0, _, _ => pure true
  | depth + 1, first, path => do
    if verbose then Tool.printLine ("rmdir: removing directory, ".toList ++ Quoting.quoted path)
    let cwd ← Tool.cwd
    match ← Tool.change fun f => do
        f.removeDirectory (← f.locate cwd (Paths.withoutSlashes path) false) with
    | .error e =>
      if ignores && e = .notEmpty then pure true
      else
        Tool.warn ((if first then "failed to remove " else "failed to remove directory ").toList
          ++ Quoting.quoted path ++ ": ".toList ++ e.wording)
        pure false
    | .ok () =>
      let parent := Paths.parentOf path
      if first && depth = 0 || !(Paths.withoutSlashes path).contains '/' || parent = ['/'] then
        pure true
      else removeUpward verbose ignores depth false parent

def rmdir (args : List Octets) : Tool Nat := do
  let grammar : Grammar :=
    { short := Grammar.letters "pv"
      long := [("ignore-fail-on-non-empty", .none, "ignore"), ("path", .none, "p"),
        ("parents", .none, "p"), ("verbose", .none, "v"), ("help", .none, "help"),
        ("version", .none, "version")] }
  let (cs, operands) ← grammar.parse args
  if operands.isEmpty then Tool.misuse 1 "missing operand".toList
  let mut status := 0
  for path in operands do
    let depth := if Choice.has cs "p" then path.length + 1 else 1
    if !(← removeUpward (Choice.has cs "v") (Choice.has cs "ignore") depth true path) then
      status := 1
  pure status

end MatchedLines.Host.Removing
