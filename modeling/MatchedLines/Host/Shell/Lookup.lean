import MatchedLines.Host.Shell.State
/-!
From the name of a command to what carries it out: a function, a command of the shell itself, or a
file in the search path.
-/

namespace MatchedLines.Host.Shell

/-- How a command of the shell itself is treated. -/
structure Trait where
  /-- A mistake in it ends the shell, and assignments before it stay. -/
  special : Bool := false
  /-- Words that assign are not cut into fields. -/
  assigns : Bool := false

namespace Trait

/-- The commands of the shell itself. -/
def table : List (String × Trait) :=
  let plain : Trait := {}
  let special : Trait := { special := true }
  let pairs : Trait := { special := true, assigns := true }
  [(".", special), (":", special), ("[", plain), ("alias", { assigns := true }), ("bg", plain),
    ("break", special), ("cd", plain), ("chdir", plain), ("command", plain),
    ("continue", special), ("echo", plain), ("eval", special), ("exec", special),
    ("exit", special), ("export", pairs), ("false", plain), ("fg", plain), ("getopts", plain),
    ("hash", plain), ("jobs", plain), ("kill", plain), ("local", pairs), ("printf", plain),
    ("pwd", plain), ("read", plain), ("readonly", pairs), ("return", special), ("set", special),
    ("shift", special), ("test", plain), ("times", special), ("trap", special), ("true", plain),
    ("type", plain), ("ulimit", plain), ("umask", plain), ("unalias", plain), ("unset", special),
    ("wait", plain)]

def ofName (name : Octets) : Option Trait :=
  (table.find? fun (n, _) => n.toList = name).map Prod.snd

end Trait

/-- What a name stands for. -/
inductive Found where
  | function (line : Nat) (body : Command)
  | own (trait : Trait)
  /-- A file, at its place. -/
  | file (place : Octets)

namespace Lookup

/-- The places of a name in the directories of a search path. -/
def places (path name : Octets) : List Octets :=
  (path.splitOn ':').map fun dir => if dir.isEmpty then name else dir ++ '/' :: name

/-- The first place at which a file stands that can be run. -/
def file? (f : Files) (cwd : Nat) : Errno → List Octets → Except Errno Octets
  | refused, [] => .error refused
  | refused, place :: rest =>
    match f.resolve cwd place true with
    | .ok n =>
      match f.body? n with
      | some (.file _) | some (.program _) =>
        if f.allows n .execute then .ok place else file? f cwd .accessDenied rest
      | _ => file? f cwd .accessDenied rest
    | .error e =>
      file? f cwd (if e = .noEntry || e = .notDirectory then refused else e) rest

/-- What is said of a command that cannot be run. -/
def complaint (e : Errno) : Octets :=
  if e = .noEntry || e = .notDirectory then "not found".toList else e.wording

/-- The status of a command that cannot be run. -/
def status (e : Errno) : Nat :=
  if [Errno.tooManyLinks, .nameTooLong, .noEntry, .notDirectory].contains e then 127 else 126

/-- Finds a file in a search path, and remembers it if the path is the shell's own. -/
def findFile (path name : Octets) (remember : Bool) : Sh (Except Errno Octets) := do
  if name.contains '/' then pure (.ok name)
  else
    let s ← get
    match if remember then s.hashed.lookup name else none with
    | some place => pure (.ok place)
    | none =>
      let f ← Sh.act Act.files
      let found := file? f s.process.cwd .noEntry (places path name)
      match found with
      | .ok place =>
        if remember then modify fun s => { s with hashed := s.hashed ++ [(name, place)] }
      | .error _ => pure ()
      pure found

/-- Finds what the shell has itself under a name. -/
def own? (name : Octets) (functions : Bool) : Sh (Option Found) := do
  let s ← get
  match if functions then s.functions.lookup name else none with
  | some (line, body) => pure (some (.function line body))
  | none => pure ((Trait.ofName name).map .own)

def keywords : List String :=
  ["!", "case", "do", "done", "elif", "else", "esac", "fi", "for", "if", "in", "then", "until",
    "while", "\x7b", "\x7d"]

/-- The way in which an alias is listed. -/
def aliasText (name value : Octets) : Octets := name ++ '=' :: (Sh.quoted value ++ ['\n'])

/-- Says what a name stands for: in words, or so that it could be typed. -/
def describe (path? : Option Octets) (inWords : Bool) (name : Octets) : Sh Nat := do
  let line (words : String) (plain : Octets) : Sh Nat := do
    Sh.print (if inWords then name ++ words.toList ++ ['\n'] else plain ++ ['\n'])
    pure 0
  if keywords.contains (String.ofList name) then line " is a shell keyword" name
  else
    let s ← get
    match s.aliases.lookup name with
    | some value =>
      if inWords then Sh.print (name ++ " is an alias for ".toList ++ value ++ ['\n'])
      else Sh.print ("alias ".toList ++ aliasText name value)
      pure 0
    | none =>
      let hashed := if path?.isNone then s.hashed.lookup name else none
      match ← own? name path?.isNone, hashed with
      | some (.function _ _), _ => line " is a shell function" name
      | _, some place =>
        if inWords then
          Sh.print (name ++ " is a tracked alias for ".toList ++ place ++ ['\n'])
        else Sh.print (place ++ ['\n'])
        pure 0
      | some (.own trait), none =>
        line (if trait.special then " is a special shell builtin" else " is a shell builtin") name
      | _, none =>
        let found ←
          if name.contains '/' then
            let f ← Sh.act Act.files
            pure ((f.resolve s.process.cwd name true).map fun _ => name)
          else findFile (path?.getD (← Sh.searchPath)) name path?.isNone
        match found with
        | .ok place =>
          if inWords then Sh.print (name ++ " is ".toList ++ place ++ ['\n'])
          else Sh.print (place ++ ['\n'])
          pure 0
        | .error _ =>
          if inWords then Sh.print (name ++ ": not found\n".toList)
          pure 127

/-- The search path of a shell that has none. -/
def standardPath : Octets :=
  "/usr/local/sbin:/usr/local/bin:/usr/sbin:/usr/bin:/sbin:/bin".toList

def type (args : List Octets) : Sh Nat := do
  let statuses ← args.mapM (describe none true)
  pure (statuses.foldl max 0)

/-- The command that says what another one is. -/
def command (args : List Octets) : Sh Nat := do
  let (options, rest) ← Sh.takeOptions "pvV" args
  let letters := options.map Prod.fst
  let path? := if letters.contains 'p' then some standardPath else none
  match rest with
  | name :: _ =>
    if letters.contains 'V' then describe path? true name
    else if letters.contains 'v' then describe path? false name
    else pure 0
  | [] => pure 0

def hash (args : List Octets) : Sh Nat := do
  let (options, names) ← Sh.takeOptions "r" args
  if !options.isEmpty then
    modify fun s => { s with hashed := [] }
    pure 0
  else if names.isEmpty then
    for (_, place) in Sh.inOrder 31 (← get).hashed do Sh.print (place ++ ['\n'])
    pure 0
  else
    let mut status := 0
    for name in names do
      modify fun s => { s with hashed := s.hashed.filter fun (n, _) => n ≠ name }
      if (← own? name true).isNone then
        match ← findFile (← Sh.searchPath) name true with
        | .ok _ => pure ()
        | .error e =>
          Sh.warn (name ++ ": ".toList ++ complaint e)
          status := 1
    pure status

end Lookup
end MatchedLines.Host.Shell
