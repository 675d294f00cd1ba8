import MatchedLines.Host.Utility.Changing
import MatchedLines.Host.Utility.Removing
/-!
Programs that give what files hold, or the files themselves, other names.
-/

namespace MatchedLines.Host.Copying

/-- What becomes of a file that already has the new name. -/
inductive Clash where
  | replace
  | ask
  | keep
  deriving DecidableEq

structure Wishes where
  moves : Bool := false
  recursive : Bool := false
  /-- Links are followed to what they lead to. -/
  follows : Bool := true
  force : Bool := false
  clash : Clash := .replace
  /-- Only what is older is replaced. -/
  update : Bool := false
  /-- Times and permissions are kept. -/
  preserve : Bool := false
  verbose : Bool := false
  symbolic : Bool := false
  hard : Bool := false
  backup : Bool := false

/-- What one call has dealt with: the sources and the targets. -/
structure Seen where
  sources : List Nat := []
  targets : List Nat := []

abbrev Copier := StateT Seen Tool

def failure (what : String) (path : Octets) (e : Errno) : Copier Bool := do
  Tool.warn (Changing.about what path e)
  pure false

def tell (w : Wishes) (source target backup : Octets) : Copier Unit := do
  if w.verbose then
    Tool.printLine ((if w.moves then "renamed " else "").toList ++ Quoting.quoted source
      ++ " -> ".toList ++ Quoting.quoted target
      ++ (if backup.isEmpty then []
        else " (backup: ".toList ++ Quoting.quoted backup ++ [')']))

/-- Keeps the time and the permissions of a node for another one. -/
def keepStamp (source target : Nat) : Tool Unit := do
  let f ← Tool.files
  match f.node? source, f.node? target with
  | some a, some b => Tool.setFiles (f.setNode target { b with stamp := a.stamp, mode := a.mode })
  | _, _ => pure ()

/-- Puts what a file holds into a new file. -/
def createCopy (w : Wishes) (source : Nat) (o target : Octets) : Copier Bool := do
  let p ← Tool.process
  let f ← Tool.files
  let mode := ((f.node? source).map Node.mode).getD 0o666
  let mode := if w.preserve then mode else Mode.without (mode &&& 0o777) p.umask
  let outcome : Except Errno (Files × Nat) := do
    if target.getLast? = some '/' then
      let _ ← f.resolve p.cwd (Paths.parentOf target) true
      throw .notDirectory
    let place ← f.locate p.cwd target false
    if place.node.isSome then throw .alreadyExists
    f.create place (.file (.ofOctets o)) mode
  match outcome with
  | .ok (f, n) =>
    Tool.setFiles f
    if w.preserve then keepStamp source n
    modify fun s => { s with targets := n :: s.targets }
    pure true
  | .error .alreadyExists =>
    Tool.warn ("not writing through dangling symlink ".toList ++ Quoting.quoted target)
    pure false
  | .error e => failure "cannot create regular file" target e

/-- Puts what a file holds into another one that is there. -/
def overwrite (w : Wishes) (source target_ : Nat) (o target : Octets) : Copier Bool := do
  let p ← Tool.process
  let how : Opening := { rights := ⟨false, true⟩, truncate := true }
  match ← Tool.act (p.openFile target how) with
  | .ok channel =>
    match ← Tool.act (Act.write channel o) with
    | .ok () =>
      if w.preserve then keepStamp source target_
      modify fun s => { s with targets := target_ :: s.targets }
      pure true
    | .error e =>
      Tool.warn ("error writing ".toList ++ Quoting.quoted target ++ ": ".toList ++ e.wording)
      pure false
  | .error e =>
    if w.force then
      match ← Tool.change fun f => do f.unlink (← f.locate p.cwd target false) with
      | .ok () =>
        if w.verbose then Tool.printLine ("removed ".toList ++ Quoting.quoted target)
        createCopy w source o target
      | .error e => failure "cannot remove" target e
    else failure "cannot create regular file" target e

/-- Makes a link and not a copy. -/
def linkCopy (w : Wishes) (n : Nat) (source target : Octets) : Copier Bool := do
  let cwd ← Tool.cwd
  let what := if w.symbolic then "cannot create symbolic link" else "cannot create hard link"
  match ← Tool.change fun f => do
      let place ← f.locate cwd target false
      if w.symbolic then return (← f.create place (.link source) 0o777).1
      else if place.node.isSome then throw .alreadyExists
      else if !f.allows place.parent .write then throw .accessDenied
      else pure (f.enter place.parent place.name n) with
  | .ok () => pure true
  | .error e =>
    if w.symbolic then
      Tool.warn (what.toList ++ ' ' :: (Quoting.quoted target ++ " to ".toList
        ++ Quoting.quoted source ++ ": ".toList ++ e.wording))
      pure false
    else
      Tool.warn (what.toList ++ ' ' :: (Quoting.quoted target ++ " to ".toList
        ++ Quoting.quoted source ++ ": ".toList ++ e.wording))
      pure false

/-- Gives a node its new name. -/
def move (w : Wishes) (source target backup : Octets) : Copier Bool := do
  let cwd ← Tool.cwd
  let f ← Tool.files
  let outcome : Except Errno Files := do
    let a ← f.locate cwd (Paths.withoutSlashes source) false
    if target.getLast? = some '/' && !(a.node.any f.isDirectory) then
      let _ ← f.resolve cwd (Paths.parentOf target) true
      throw .notDirectory
    let b ← f.locate cwd (Paths.withoutSlashes target) false
    f.rename a b
  match outcome with
  | .ok f' =>
    Tool.setFiles f'
    match f'.resolve cwd (Paths.withoutSlashes target) false with
    | .ok n => modify fun s => { s with targets := n :: s.targets }
    | .error _ => pure ()
    tell w source target backup
    pure true
  | .error .invalidArgument =>
    Tool.warn ("cannot move ".toList ++ Quoting.quoted source
      ++ " to a subdirectory of itself, ".toList ++ Quoting.quoted target)
    pure false
  | .error e =>
    if [Errno.alreadyExists, .isDirectory, .notEmpty, .noSpace].contains e then
      failure "cannot overwrite" target e
    else
      Tool.warn ("cannot move ".toList ++ Quoting.quoted source ++ " to ".toList
        ++ Quoting.quoted target ++ ": ".toList ++ e.wording)
      pure false

/-- The name of a copy that is put aside. -/
def backupName (target : Octets) : Octets := Paths.withoutSlashes target ++ ['~']

/-- What is done with a target that is already there: nothing more, with this outcome, or the work
itself. -/
def settleClash (w : Wishes) (source target : Octets) (n m : Nat) (atTop : Bool) :
    Copier (Option Bool) := do
  let f ← Tool.files
  let isDirectory := f.isDirectory n
  let isLink := Removing.isLink f n
  let cwd ← Tool.cwd
  let followed := if isLink then (f.resolve cwd source true).toOption else some n
  let same := n = m || (isLink && followed = some m && (!w.moves || f.linkCount m > 1))
  if same && !isDirectory then
    Tool.warn (Quoting.quoted source ++ " and ".toList ++ Quoting.quoted target
      ++ " are the same file".toList)
    return some false
  if w.update && !isDirectory && f.stamp m ≥ f.stamp n then return some true
  if !isDirectory || w.moves then
    match w.clash with
    | .replace => pure ()
    | .keep =>
      if w.moves then Tool.warn ("not replacing ".toList ++ Quoting.quoted target)
      return some (!w.moves)
    | .ask =>
      if !isDirectory || f.isDirectory m then
        if !(← Removing.confirms ("overwrite ".toList ++ Quoting.quoted target)) then
          return some false
  if !f.isDirectory m && isDirectory then
    Tool.warn ("cannot overwrite non-directory ".toList ++ Quoting.quoted target
      ++ " with directory ".toList ++ Quoting.quoted source)
    return some false
  if atTop && !f.isDirectory m && (← get).targets.contains m then
    Tool.warn ("will not overwrite just-created ".toList ++ Quoting.quoted target
      ++ " with ".toList ++ Quoting.quoted source)
    return some false
  if f.isDirectory m && !isDirectory then
    Tool.warn ("cannot overwrite directory ".toList ++ Quoting.quoted target
      ++ " with non-directory".toList)
    return some false
  pure none

/-- Puts an existing target aside if that is asked for, and gives its other name. -/
def putAside (w : Wishes) (target : Octets) : Copier Octets := do
  if !w.backup then pure []
  else
    let cwd ← Tool.cwd
    match ← Tool.change fun f => do
        let a ← f.locate cwd (Paths.withoutSlashes target) false
        let b ← f.locate cwd (backupName target) false
        f.rename a b with
    | .ok () => pure (backupName target)
    | .error _ => pure []

/-- Copies or moves one thing. `created` are the directories that were made on the way, `top` the
names with which it all began. -/
def copy (w : Wishes) (top : Octets × Octets) :
    Nat → Bool → List Nat → Octets → Octets → Copier Bool
  | 0, _, _, _, _ => pure false
  | depth + 1, atTop, created, source, target => do
    let p ← Tool.process
    let f ← Tool.files
    match if source.isEmpty then .error .noEntry else f.resolve p.cwd source w.follows with
    | .error e => failure "cannot stat" source e
    | .ok n =>
      let isDirectory := f.isDirectory n
      if isDirectory && !w.recursive && !w.moves then
        Tool.warn ("-r not specified; omitting directory ".toList ++ Quoting.quoted source)
        return false
      if atTop && !isDirectory && (← get).sources.contains n then
        Tool.warn ("warning: source file ".toList ++ Quoting.quoted source
          ++ " specified more than once".toList)
        return true
      if atTop then modify fun s => { s with sources := n :: s.sources }
      let followsTarget := !w.moves && (w.follows || isDirectory || !Removing.isLink f n)
      match f.resolve p.cwd target followsTarget with
      | .error e =>
        if e = .noEntry || e = .notDirectory && target.getLast? = some '/' then
          fresh depth created n source target none
        else failure "cannot stat" target e
      | .ok m =>
        match ← settleClash w source target n m atTop with
        | some outcome => pure outcome
        | none => fresh depth created n source target (some m)
where
  /-- The work itself, once nothing stands against it. -/
  fresh (depth : Nat) (created : List Nat) (n : Nat) (source target : Octets)
      (old : Option Nat) : Copier Bool := do
    let p ← Tool.process
    let f ← Tool.files
    let backup ←
      if old.isSome && !(w.recursive && f.isDirectory n) then putAside w target else pure []
    let old := if backup.isEmpty then old else none
    if w.moves then move w source target backup
    else match f.body? n with
      | some (.directory _ entries) =>
        if created.contains n then
          Tool.warn ("cannot copy a directory, ".toList ++ Quoting.quoted top.1
            ++ ", into itself, ".toList ++ Quoting.quoted top.2)
          return false
        let mode := ((f.node? n).map Node.mode).getD 0o755
        let mode := if w.preserve then mode else Mode.without (mode &&& 0o777) p.umask
        let made ← match old with
          | some m => pure (.ok m)
          | none =>
            match ← Changing.makeDirectory target (mode ||| 0o700) with
            | .ok () => pure ((← Tool.files).resolve p.cwd target true)
            | .error e => pure (.error e)
        match made with
        | .error e => failure "cannot create directory" target e
        | .ok m =>
          if old.isNone then tell w source target []
          if !f.allows n .read then
            let _ ← failure "cannot access" source .accessDenied
            finish n m mode old
            return false
          let entries := (((← Tool.files).entries? n).getD entries)
          let mut ok := true
          for (name, _) in entries do
            if !(← inner depth (m :: created) (Paths.join source name)
                (Paths.join target name)) then
              ok := false
          finish n m mode old
          pure ok
      | some (.link name) =>
        if w.follows then pure false
        else
          tell w source target []
          if old.isSome then
            let _ ← Tool.change fun f => do f.unlink (← f.locate p.cwd target false)
          match ← Tool.change fun f => do
              return (← f.create (← f.locate p.cwd target false) (.link name) 0o777).1 with
          | .ok () => pure true
          | .error e => failure "cannot create symbolic link" target e
      | _ =>
        if w.symbolic || w.hard then
          tell w source target backup
          linkCopy w n source target
        else
          tell w source target backup
          match ← Tool.act (p.openFile source .reading) with
          | .error e =>
            Tool.warn ("cannot open ".toList ++ Quoting.quoted source ++ " for reading: ".toList
              ++ e.wording)
            pure false
          | .ok channel =>
            match ← Tool.act (Act.readAll channel) with
            | .error e => failure "error reading" source e
            | .ok o =>
              match old with
              | some m => overwrite w n m o target
              | none => createCopy w n o target
  inner (depth : Nat) (created : List Nat) (source target : Octets) : Copier Bool :=
    copy w top depth false created source target
  /-- Gives a new directory its permissions. -/
  finish (n m mode : Nat) (old : Option Nat) : Copier Unit := do
    if old.isNone then
      let f ← Tool.files
      match f.node? m with
      | some node => Tool.setFiles (f.setNode m { node with mode })
      | none => pure ()
      if w.preserve then keepStamp n m

/-- The directory that the last operand names, unless it names something else. -/
def directoryAt (path : Octets) : Tool (Except Errno Unit) := do
  match ← Tool.resolve path true with
  | .error e => pure (.error e)
  | .ok n => if (← Tool.files).isDirectory n then pure (.ok ()) else pure (.error .notDirectory)

/-- Where the operands of a program are to go. -/
inductive Goal where
  | into (directory : Octets) (sources : List Octets)
  | onto (source target : Octets)

/-- Finds out where the operands are to go. -/
def goalOf (given : Option Octets) (plain : Bool) (operands : List Octets) : Tool Goal := do
  match given, operands with
  | _, [] => Tool.misuse 1 "missing file operand".toList
  | some dir, _ =>
    match ← directoryAt dir with
    | .ok () => pure (.into dir operands)
    | .error e => Tool.fail 1 (Changing.about "target directory" dir e)
  | none, [o] =>
    Tool.misuse 1 ("missing destination file operand after ".toList ++ Quoting.quoted o)
  | none, a :: b :: rest =>
    if plain then
      match rest with
      | [] => pure (.onto a b)
      | o :: _ => Tool.misuse 1 ("extra operand ".toList ++ Quoting.quoted o)
    else
      let target := (a :: b :: rest).getLastD []
      match ← directoryAt target with
      | .ok () => pure (.into target (a :: b :: rest).dropLast)
      | .error e =>
        if rest.isEmpty then pure (.onto a b)
        else Tool.fail 1 (Changing.about "target" target e)

/-- Copies or moves all operands to where they go. -/
def carryOut (w : Wishes) (goal : Goal) : Tool Nat := do
  match goal with
  | .onto source target =>
    let (ok, _) ← (copy w (source, target) 4096 true [] source target).run {}
    pure (if ok then 0 else 1)
  | .into directory sources =>
    let work : Copier Nat := do
      let mut status := 0
      for source in sources do
        let name := Paths.lastName source
        let target :=
          if name = ['.', '.'] then directory else Paths.join directory name
        let ok ← copy w (source, target) 4096 true [] source target
        if !ok then status := 1
      pure status
    let (status, _) ← work.run {}
    pure status

/-- What is done when the new name is taken, as the last option about it says. -/
def clashOf (cs : List Choice) : Clash :=
  match Choice.latest? cs ["i", "f", "n"] with
  | some "i" => .ask
  | some "n" => .keep
  | _ => .replace

def cp (args : List Octets) : Tool Nat := do
  let grammar : Grammar :=
    { short := Grammar.letters "abdfHilLnprst:uvxPRS:TZ"
      long := [("archive", .none, "a"), ("attributes-only", .none, "attributes"),
        ("backup", .optional, "b"), ("copy-contents", .none, "contents"),
        ("debug", .none, "debug"), ("dereference", .none, "L"), ("force", .none, "f"),
        ("interactive", .none, "i"), ("link", .none, "l"), ("no-clobber", .none, "n"),
        ("no-dereference", .none, "P"), ("no-preserve", .required, "no-preserve"),
        ("no-target-directory", .none, "T"), ("one-file-system", .none, "x"),
        ("parents", .none, "parents"), ("path", .none, "parents"),
        ("preserve", .optional, "p"), ("recursive", .none, "r"),
        ("remove-destination", .none, "remove"), ("sparse", .required, "sparse"),
        ("reflink", .optional, "reflink"), ("strip-trailing-slashes", .none, "strip"),
        ("suffix", .required, "S"), ("symbolic-link", .none, "s"),
        ("target-directory", .required, "t"), ("update", .optional, "u"),
        ("verbose", .none, "v"), ("help", .none, "help"), ("version", .none, "version")] }
  let (cs, operands) ← grammar.parse args
  let has := Choice.has cs
  let recursive := has "r" || has "R" || has "a"
  let follows :=
    match Choice.latest? cs ["L", "P", "d", "a", "H"] with
    | some "L" => true
    | some _ => false
    | none => !recursive || has "l"
  let clash := match Choice.latest? cs ["i", "n"] with
    | some "i" => Clash.ask
    | some _ => .keep
    | none => .replace
  let w : Wishes :=
    { recursive, follows, force := has "f", clash, update := has "u", preserve := has "p" || has "a"
      verbose := has "v", symbolic := has "s", hard := has "l", backup := has "b" }
  if has "n" then
    Tool.warn ("warning: behavior of -n is non-portable and may change in future; ".toList
      ++ "use --update=none instead".toList)
  let goal ← goalOf (Choice.last? cs "t") (has "T") operands
  carryOut w goal

def mv (args : List Octets) : Tool Nat := do
  let grammar : Grammar :=
    { short := Grammar.letters "bfint:uvS:TZ"
      long := [("backup", .optional, "b"), ("context", .none, "Z"), ("debug", .none, "debug"),
        ("force", .none, "f"), ("interactive", .none, "i"), ("no-clobber", .none, "n"),
        ("no-copy", .none, "no-copy"), ("no-target-directory", .none, "T"),
        ("strip-trailing-slashes", .none, "strip"), ("suffix", .required, "S"),
        ("target-directory", .required, "t"), ("update", .optional, "u"),
        ("verbose", .none, "v"), ("help", .none, "help"), ("version", .none, "version")] }
  let (cs, operands) ← grammar.parse args
  let has := Choice.has cs
  let w : Wishes :=
    { moves := true, follows := false, clash := clashOf cs, update := has "u", verbose := has "v"
      backup := has "b" }
  let goal ← goalOf (Choice.last? cs "t") (has "T") operands
  carryOut w goal

/-! ### Links -/

structure LinkWishes where
  symbolic : Bool
  force : Bool
  asks : Bool
  verbose : Bool
  follows : Bool

/-- Makes one link. -/
def link (w : LinkWishes) (source target : Octets) : Tool Bool := do
  let cwd ← Tool.cwd
  let f ← Tool.files
  let node := f.resolve cwd source w.follows
  match if w.symbolic then .ok 0 else node with
  | .error e =>
    Tool.warn (Changing.about "failed to access" source e)
    pure false
  | .ok n =>
    if !w.symbolic && f.isDirectory n then
      Tool.warn (Quoting.name source ++ ": hard link not allowed for directory".toList)
      pure false
    else
      let old := (f.resolve cwd target false).toOption
      if (w.force || w.asks) && old.any f.isDirectory then
        Tool.warn (Quoting.name target ++ ": cannot overwrite directory".toList)
        return false
      if (w.force || w.asks) && old.isSome && node.toOption = old
          && Paths.lastName source = Paths.lastName target then
        Tool.warn (Quoting.quoted source ++ " and ".toList ++ Quoting.quoted target
          ++ " are the same file".toList)
        return false
      if w.asks && old.isSome then
        if !(← Removing.confirms ("replace ".toList ++ Quoting.quoted target)) then return false
      if w.force || w.asks then
        let _ ← Tool.change fun f => do f.unlink (← f.locate cwd target false)
      match ← Tool.change fun f => do
          let place ← f.locate cwd target false
          if w.symbolic then
            if source.isEmpty then throw .noEntry
            return (← f.create place (.link source) 0o777).1
          else if place.node.isSome then throw .alreadyExists
          else if !f.allows place.parent .write then throw .accessDenied
          else pure (f.enter place.parent place.name n) with
      | .ok () =>
        if w.verbose then
          Tool.printLine (Quoting.quoted target
            ++ (if w.symbolic then " -> " else " => ").toList ++ Quoting.quoted source)
        pure true
      | .error e =>
        let from_ :=
          if w.symbolic then (if source.isEmpty then " -> ".toList ++ Quoting.quoted source else [])
          else if e = .alreadyExists || e = .noSpace then []
          else " => ".toList ++ Quoting.quoted source
        Tool.warn ((if w.symbolic then "failed to create symbolic link "
          else "failed to create hard link ").toList ++ Quoting.quoted target ++ from_
          ++ ": ".toList
          ++ e.wording)
        pure false

def ln (args : List Octets) : Tool Nat := do
  let grammar : Grammar :=
    { short := Grammar.letters "bdfinrst:vFLPS:T"
      long := [("backup", .optional, "b"), ("directory", .none, "F"),
        ("no-dereference", .none, "n"), ("no-target-directory", .none, "T"), ("force", .none, "f"),
        ("interactive", .none, "i"), ("suffix", .required, "S"),
        ("target-directory", .required, "t"), ("logical", .none, "L"), ("physical", .none, "P"),
        ("relative", .none, "r"), ("symbolic", .none, "s"), ("verbose", .none, "v"),
        ("help", .none, "help"), ("version", .none, "version")] }
  let (cs, operands) ← grammar.parse args
  let has := Choice.has cs
  let w : LinkWishes :=
    { symbolic := has "s", force := Choice.latest? cs ["f", "i"] = some "f"
      asks := Choice.latest? cs ["f", "i"] = some "i", verbose := has "v", follows := has "L" }
  let isPlain (path : Octets) : Tool Bool := do
    if has "T" then pure true
    else if has "n" then
      match ← Tool.resolve path false with
      | .ok n => pure (Removing.isLink (← Tool.files) n)
      | .error _ => pure false
    else pure false
  let goal ← match Choice.last? cs "t", operands with
    | some dir, _ => goalOf (some dir) false operands
    | none, [o] =>
      if has "T" then
        Tool.misuse 1 ("missing destination file operand after ".toList ++ Quoting.quoted o)
      else pure (.into ['.'] [o])
    | none, operands => goalOf none (← isPlain (operands.getLastD [])) operands
  match goal with
  | .onto source target => pure (if ← link w source target then 0 else 1)
  | .into directory sources =>
    let mut status := 0
    for source in sources do
      if !(← link w source (Paths.join directory (Paths.lastName source))) then status := 1
    pure status

/-- The path of a place from the root, over no links. Missing names are allowed at its end, or
anywhere. -/
def canonical (f : Files) (cwd : Nat) (path : Octets) (existing anywhere : Bool) :
    Except Errno Octets :=
  match f.locate cwd path true with
  | .ok place =>
    match place.node with
    | some n =>
      if f.isDirectory n then .ok (f.render n)
      else .ok (Paths.join (f.render place.parent) place.name)
    | none =>
      if existing then .error .noEntry else .ok (Paths.join (f.render place.parent) place.name)
  | .error e => if anywhere && !path.isEmpty then .ok (lexical path) else .error e
where
  /-- The path with its names taken as they are. -/
  lexical (path : Octets) : Octets :=
    let start := if path.head? = some '/' then [] else f.namesTo 1000 cwd
    let names := ((path.splitOn '/').filter fun o => !o.isEmpty && o ≠ ['.']).foldl
      (fun names o => if o = ['.', '.'] then names.dropLast else names ++ [o]) start
    if names.isEmpty then ['/'] else names.flatMap ('/' :: ·)

def readlink (args : List Octets) : Tool Nat := do
  let grammar : Grammar :=
    { short := Grammar.letters "efmnqsvz"
      long := [("canonicalize", .none, "f"), ("canonicalize-existing", .none, "e"),
        ("canonicalize-missing", .none, "m"), ("no-newline", .none, "n"), ("quiet", .none, "q"),
        ("silent", .none, "q"), ("verbose", .none, "v"), ("zero", .none, "z"),
        ("help", .none, "help"), ("version", .none, "version")] }
  let (cs, operands) ← grammar.parse args
  let has := Choice.has cs
  if operands.isEmpty then Tool.misuse 1 "missing operand".toList
  if has "n" && operands.length > 1 then
    Tool.warn "ignoring --no-newline with multiple arguments".toList
  let lineEnd :=
    if has "n" && operands.length = 1 then [] else if has "z" then ['\x00'] else ['\n']
  let verbose := Choice.latest? cs ["q", "s", "v"] = some "v"
  let mut status := 0
  for path in operands do
    let f ← Tool.files
    let cwd ← Tool.cwd
    let outcome : Except Errno Octets :=
      match Choice.latest? cs ["e", "f", "m"] with
      | some key => canonical f cwd path (key = "e") (key = "m")
      | none =>
        match f.resolve cwd path false with
        | .error e => .error e
        | .ok n =>
          match f.body? n with
          | some (.link target) => .ok target
          | _ => .error .invalidArgument
    match outcome with
    | .ok o => Tool.print (o ++ lineEnd)
    | .error e =>
      if verbose then Tool.warnAbout (Quoting.name path) e
      status := 1
  pure status

def realpath (args : List Octets) : Tool Nat := do
  let grammar : Grammar :=
    { short := Grammar.letters "eLmPqsz"
      long := [("canonicalize-existing", .none, "e"), ("canonicalize-missing", .none, "m"),
        ("relative-to", .required, "to"), ("relative-base", .required, "base"),
        ("quiet", .none, "q"), ("strip", .none, "s"), ("no-symlinks", .none, "s"),
        ("zero", .none, "z"), ("logical", .none, "L"), ("physical", .none, "P"),
        ("help", .none, "help"), ("version", .none, "version")] }
  let (cs, operands) ← grammar.parse args
  let has := Choice.has cs
  if operands.isEmpty then Tool.misuse 1 "missing operand".toList
  let lineEnd := if has "z" then '\x00' else '\n'
  let f ← Tool.files
  let cwd ← Tool.cwd
  let outcomeOf (path : Octets) : Except Errno Octets :=
    if path.isEmpty then .error .noEntry
    else if has "s" then .ok (canonical.lexical f cwd path)
    else canonical f cwd path (has "e") (has "m")
  let base := (Choice.last? cs "to").bind fun o => (outcomeOf o).toOption
  let relative (o : Octets) : Octets :=
    match base with
    | none => o
    | some b =>
      let from_ := (b.splitOn '/').filter (!·.isEmpty)
      let names := (o.splitOn '/').filter (!·.isEmpty)
      let common := ((from_.zip names).takeWhile fun (x, y) => x = y).length
      let parts := List.replicate (from_.length - common) ['.', '.'] ++ names.drop common
      if parts.isEmpty then ['.'] else ['/'].intercalate parts
  let mut status := 0
  for path in operands do
    match outcomeOf path with
    | .ok o => Tool.print (relative o ++ [lineEnd])
    | .error e =>
      if !has "q" then Tool.warnAbout (if path.isEmpty then "''".toList else Quoting.name path) e
      status := 1
  pure status

end MatchedLines.Host.Copying
