import MatchedLines.Host.Programs
import MatchedLines.Spawn
import MatchedLines.Text.Units
/-!
A host on which commands can be run: its files, with the standard programs among them, and a
directory to work in. Running a command may change the files and leaves nothing else behind.
-/

namespace MatchedLines

/-- The files of a host. -/
structure Host where
  store : Host.Files

namespace Host

/-- The directory in which commands are run and names are looked up. -/
def workDirectory : List Octets := ["tmp".toList, "scratch".toList]

/-- The directories that hold the standard programs, in the order in which they are searched. -/
def searchPath : Octets := "/usr/bin:/bin".toList

/-- Puts a thing of the system at a path, with the directories on the way. -/
def place (f : Files) (path : String) (body : Body) (mode : Nat) : Files :=
  let names := Files.split path.toList
  let (f, dir) := f.addParents false names.dropLast
  (f.add dir (names.getLastD []) body mode false).1

/-- What every host has besides its programs. -/
def fixtures : List (String × Body × Nat) :=
  [("/dev/null", .device .null, 0o666), ("/dev/zero", .device .zero, 0o666),
    ("/dev/full", .device .full, 0o666), ("/dev/random", .device .random, 0o666),
    ("/dev/urandom", .device .random, 0o666), ("/dev/tty", .device .terminal, 0o666),
    ("/dev/fd", .link "/proc/self/fd".toList, 0o777),
    ("/dev/stdin", .link "/proc/self/fd/0".toList, 0o777),
    ("/dev/stdout", .link "/proc/self/fd/1".toList, 0o777),
    ("/dev/stderr", .link "/proc/self/fd/2".toList, 0o777),
    ("/bin", .link "usr/bin".toList, 0o777), ("/sbin", .link "usr/sbin".toList, 0o777),
    ("/lib", .link "usr/lib".toList, 0o777), ("/usr/sbin", .directory 0 [], 0o755),
    ("/usr/lib", .directory 0 [], 0o755), ("/home", .directory 0 [], 0o755),
    ("/root", .directory 0 [], 0o700), ("/var", .directory 0 [], 0o755),
    ("/tmp", .directory 0 [], 0o1777),
    ("/etc/passwd",
      .file (.ofOctets "root:x:0:0:root:/root:/bin/bash\n".toList), 0o644)]

/-- The numbers below which processes have their open files. -/
def descriptors : List (String × Body × Nat) :=
  (List.range 10).map fun n =>
    ("/proc/self/fd/" ++ String.ofList (Nat.toDigits 10 n), .descriptor n, 0o777)

/-- A host with nothing but its standard programs and an empty directory to work in. -/
def standard : Host where
  store :=
    let root : Files := { nodes := #[⟨.directory 0 [], 0o755, false, 0⟩] }
    let f := (fixtures ++ descriptors).foldl
      (fun f (path, body, mode) => place f path body mode) root
    let f := Programs.names.foldl
      (fun f name => place f ("/usr/bin/" ++ name) (.program name.toList) 0o755) f
    let (f, tmp) := f.addParents false (workDirectory.take 1)
    (f.add tmp (workDirectory.getLastD []) (.directory tmp []) 0o755 true).1

/-- The directory to work in. -/
def home (h : Host) : Nat :=
  ((h.store.resolve 0 ('/' :: ['/'].intercalate workDirectory) true).toOption).getD 0

/-- Puts a file into the directory to work in, or makes a directory for a name that ends in a
slash. Directories on the way are made. -/
def add (h : Host) (name content : Text) (mode : Nat) : Host :=
  let names := ((Octets.ofText name).splitOn '/').filter fun o => !o.isEmpty && o ≠ ['.']
  if name.getLast? = some '/' then ⟨(h.store.addParents true (workDirectory ++ names)).1⟩
  else
    let (f, dir) := h.store.addParents true (workDirectory ++ names.dropLast)
    ⟨(f.add dir (names.getLastD []) (.file (.ofOctets (Octets.ofText content))) mode true).1⟩

/-- Why the files of a host cannot be looked at: the user may not. -/
def refusal (action : String) (path : Octets) : Failure :=
  .other "Error".toList
    ("EACCES: permission denied, ".toList ++ action.toList ++ " '".toList ++ Octets.toText path
      ++ ['\''])
    (some "EACCES".toList)

/-- The files below a directory, with their names from `here` on. -/
def filesBelow (f : Files) : Nat → Nat → Octets → Except Failure (List (Octets × Octets))
  | 0, _, _ => pure []
  | depth + 1, dir, here => do
    if !f.allows dir .read then
      throw (refusal "scandir" (if here.isEmpty then ['.'] else here))
    let entries := ((f.entries? dir).getD []).mergeSort fun a b => Octets.le a.1 b.1
    let found ← entries.mapM fun (name, n) => do
      let path := if here.isEmpty then name else here ++ '/' :: name
      match f.body? n with
      | some (.directory _ _) => filesBelow f depth n path
      | some (.file content) =>
        if f.allows n .read && f.allows dir .execute then pure [(path, content.toOctets)]
        else throw (refusal "open" path)
      | _ => pure []
    pure found.flatten

/-- The files below the directory to work in, with their names from there, in order. -/
def files (h : Host) : Except Failure (List (Text × Text)) := do
  let found ← filesBelow h.store 1000 h.home []
  let found := found.map fun (name, content) => (Octets.toText name, Octets.toText content)
  pure (found.mergeSort fun a b => Units.le (Units.ofText a.1) (Units.ofText b.1))

/-- The directory in which a command is to run. -/
def directory (h : Host) : Option Text → Except Errno Nat
  | none => .ok h.home
  | some name => do
    let n ← h.store.resolve h.home (Octets.ofText name) true
    if !h.store.isDirectory n then throw .notDirectory
    if !h.store.allows n .execute then throw .accessDenied
    pure n

/-- What a command runs and where. -/
def prepare (h : Host) (i : Invocation) : Except Errno (Nat × Launch) := do
  let cwd ← h.directory i.cwd
  let args := i.args.map Octets.ofText
  if args.any fun o => o.length + 1 > Launch.maxArgument then throw .argumentsTooLong
  let launch ← Launch.ofCommand h.store cwd searchPath (args.headD []) args.tail
  pure (cwd, launch)

/-- How deeply programs may run one another. -/
def maxDepth : Nat := 100

/-- Runs a command on the host with its input and with two outputs for what it writes. -/
def spawn : Spawn.System Host := fun i h =>
  match h.prepare i with
  | .error e => (.failed e, h)
  | .ok (cwd, launch) =>
    let machine : Machine :=
      { files := h.store
        channels := #[.input, .output .stdout, .output .stderr]
        input := Octets.ofText (i.stdin.getD []) }
    let process : Process :=
      { pid := machine.nextPid - 1
        cwd
        numbers := [(0, 0), (1, 1), (2, 2)]
        environment := [("PATH".toList, searchPath), ("LC_ALL".toList, ['C'])] }
    let (ending, after) := Programs.run maxDepth process launch machine
    let out := Octets.toBytes after.out.reverse.flatten
    let err := Octets.toBytes after.err.reverse.flatten
    let outcome : Spawn.Outcome :=
      match ending with
      | .error .overflow => .failed .noBuffers
      | .ok (.exited status) | .error (.ended (.exited status)) => .exited status out err
      | .ok (.killed signal) | .error (.ended (.killed signal)) => .killed signal out err
    (outcome, ⟨after.files⟩)

end Host
end MatchedLines
