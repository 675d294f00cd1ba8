import MatchedLines.Host.Shell.Expansion
/-!
Redirections: which file a number is given, and how that is undone. A number that is moved is closed
first, so a complaint about a redirection of standard error itself is lost.
-/

namespace MatchedLines.Host.Shell

/-- A redirection whose target has been replaced. -/
inductive Move where
  | file (fd : Nat) (direction : Direction) (path : Octets)
  | duplicate (fd source : Nat)
  | close (fd : Nat)
  | here (fd index : Nat)

namespace Move

/-- The words of redirections are replaced before the first of them is carried out. -/
def ofRedirect (run : Option Command → Sh Octets) (r : Redirect) : Sh Move := do
  match r with
  | .file fd direction target => return .file fd direction (← expandText run target)
  | .duplicate fd target =>
    match ← expandText run target with
    | ['-'] => pure (.close fd)
    | [c] =>
      if c.isDigit then pure (.duplicate fd (c.toNat - '0'.toNat)) else bad
    | _ => bad
  | .here fd index => pure (.here fd index)
where
  bad : Sh Move := do
    modify fun s => { s with line := s.readLine }
    Sh.fail "Syntax error: Bad fd number".toList

/-- Puts a channel behind a number, and remembers what stood there. -/
def put (saves : Bool) (fd : Nat) (channel : Option Nat) : Sh Unit := modify fun s =>
  let moved :=
    match s.moved with
    | frame :: rest =>
      if saves && !frame.any (fun (n, _) => n = fd) then
        ((fd, s.process.channel? fd) :: frame) :: rest
      else s.moved
    | [] => []
  { s with moved, process := s.process.setChannel fd channel }

/-- The complaint about a file that could not be opened. -/
def complaint (direction : Direction) (path : Octets) (e : Errno) : Octets :=
  let absent := e = .noEntry || e = .notDirectory
  if direction = .read then
    "cannot open ".toList ++ path ++ ": ".toList
      ++ if absent then "No such file".toList else e.wording
  else
    "cannot create ".toList ++ path ++ ": ".toList
      ++ if absent then "Directory nonexistent".toList else e.wording

/-- Opens the file of a redirection. -/
def openFile (direction : Direction) (path : Octets) : Sh Nat := do
  let s ← get
  let p := s.process
  let given (e : Errno) : Sh Nat := Sh.fail (complaint direction path e)
  let attempt (how : Opening) : Sh Nat := do
    match ← Sh.act (p.openFile path how) with
    | .ok channel => pure channel
    | .error e => given e
  match direction with
  | .read => attempt .reading
  | .append => attempt .appending
  | .both => attempt .both
  | .overwrite => attempt .writing
  | .write =>
    if !s.settings.contains .noclobber then attempt .writing
    else match ← Sh.act (p.resolve path true) with
      | .error _ => attempt .writing
      | .ok n =>
        match (← Sh.act Act.files).body? n with
        | some (.file _) | some (.program _) => given .alreadyExists
        | _ => attempt { rights := ⟨false, true⟩ }

/-- Carries out a redirection. -/
def carryOut (run : Option Command → Sh Octets) (saves : Bool) (m : Move) : Sh Unit := do
  match m with
  | .file fd direction path =>
    let channel ← openFile direction path
    put saves fd (some channel)
  | .duplicate fd source =>
    if fd = source then pure ()
    else
      let channel := (← get).process.channel? source
      if saves then put true fd none
      match channel with
      | some c => put saves fd (some c)
      | none => Sh.fail (Nat.toDigits 10 source ++ ": ".toList ++ Errno.badDescriptor.wording)
  | .close fd => put saves fd none
  | .here fd index =>
    let word := ((← get).bodies.lookup index).getD []
    let channel ← Sh.act (Act.addText (← expandBody run word))
    put saves fd (some channel)

/-- Carries out redirections one after another. -/
def carryOutAll (run : Option Command → Sh Octets) (saves : Bool) (ms : List Move) : Sh Unit :=
  ms.forM (carryOut run saves)

/-- Undoes the redirections that were begun last, or keeps them for good. -/
def undo (keeps : Bool) : Sh Unit := modify fun s =>
  match s.moved with
  | [] => s
  | frame :: rest =>
    let process :=
      if keeps then s.process
      else frame.foldl (fun p (fd, channel) => p.setChannel fd channel) s.process
    { s with moved := rest, process }

/-- Undoes all redirections down to a depth. -/
def undoTo (depth : Nat) : Nat → Sh Unit
  | 0 => pure ()
  | n + 1 => do
    if (← get).moved.length > depth then
      undo false
      undoTo depth n

end Move
end MatchedLines.Host.Shell
