import MatchedLines.Event
import MatchedLines.Host.Files
/-!
Open files and processes. A channel is an open file with its position, shared by every process and
number that was given it; a process has a directory, an environment and a number for each channel.

Commands joined by a pipe run one after another, so a pipe first takes all that is written and then
gives it out. A writer without end is stopped at the pipe's limit. If the reader asks for more than
that (`Pipe.starved`), whoever joined the two has to start again with a higher limit.
-/

namespace MatchedLines.Host

/-- What an open file may be used for. -/
structure Rights where
  read : Bool
  write : Bool
  deriving DecidableEq, Repr

/-- Something that is open. -/
inductive Channel where
  /-- What is still to be read is kept with the time at which it was looked up. -/
  | file (node : Nat) (rights : Rights) (append : Bool) (offset : Nat)
      (ahead : Option (Nat × Octets))
  | device (device : Device) (rights : Rights)
  | reader (pipe : Nat)
  | writer (pipe : Nat)
  /-- The input of the whole command. -/
  | input
  /-- An output of the whole command. -/
  | output (stream : Stream)
  deriving Repr

structure Pipe where
  ahead : Octets := []
  /-- What was written since, the latest piece first. -/
  behind : List Octets := []
  written : Nat := 0
  limit : Nat
  /-- The writer was stopped at the limit. -/
  isCut : Bool := false
  /-- The reader has asked for more than a stopped writer gave. -/
  starved : Bool := false
  deriving Repr

/-- A signal on its way to a process. -/
structure Sent where
  pid : Nat
  signal : Nat
  /-- When it was sent. -/
  due : Nat
  deriving Repr

/-- The files of a host and everything that was opened while a command runs. -/
structure Machine where
  files : Files
  channels : Array Channel := #[]
  pipes : Array Pipe := #[]
  /-- What the command can still read from its input. -/
  input : Octets := []
  /-- What was written to the two outputs, the latest piece first. -/
  out : List Octets := []
  err : List Octets := []
  /-- How many bytes both outputs have taken. -/
  total : Nat := 0
  /-- What the running program has not passed on to its output yet, the latest piece first. -/
  held : List Octets := []
  /-- The number of the next process. -/
  nextPid : Nat := 4000
  /-- The processes that can be sent signals. -/
  alive : List Nat := []
  pending : List Sent := []
  /-- How many milliseconds have passed in sleep. -/
  clock : Nat := 0

/-- What a running command has. -/
structure Process where
  pid : Nat
  /-- The process that has started it. -/
  parent : Nat := 1
  cwd : Nat
  /-- The channel behind each open number. -/
  numbers : List (Nat × Nat) := []
  environment : List (Octets × Octets) := []
  /-- The permission bits that new files are not given. -/
  umask : Nat := 0o022
  /-- Signals that do nothing. -/
  ignored : List Nat := []

/-- How a process ends. -/
inductive Ending where
  | exited (status : Nat)
  | killed (signal : Nat)
  deriving DecidableEq, Repr

/-- Why work stops early. -/
inductive Stop where
  | ended (ending : Ending)
  /-- The command has written more than is taken from it. -/
  | overflow
  deriving DecidableEq, Repr

/-- Work on a machine. -/
abbrev Act := ExceptT Stop (StateM Machine)

/-- How a file is opened. -/
structure Opening where
  rights : Rights
  create : Bool := false
  truncate : Bool := false
  append : Bool := false
  /-- The file must not be there yet. -/
  fresh : Bool := false

namespace Opening

def reading : Opening := { rights := ⟨true, false⟩ }

def writing : Opening := { rights := ⟨false, true⟩, create := true, truncate := true }

def appending : Opening := { rights := ⟨false, true⟩, create := true, append := true }

def both : Opening := { rights := ⟨true, true⟩, create := true }

end Opening

namespace Machine

/-- A command may write so many bytes to its outputs before it is stopped. -/
def maxOutput : Nat := 1048576

/-- More bytes than any command can pass on; a device without end stops here. -/
def endless : Nat := 4194304

/-- The lowest and the highest limit of a pipe. -/
def firstLimit : Nat := 131072

def lastLimit : Nat := 8388608

end Machine

namespace Act

/-- The signals that have come for a process. -/
def signals (pid : Nat) : Act (List Nat) := do
  let m ← get
  if m.pending.isEmpty then pure []
  else
    let isHere (s : Sent) : Bool := s.pid = pid && s.due ≤ m.clock
    set { m with pending := m.pending.filter (!isHere ·) }
    pure ((m.pending.filter isHere).map Sent.signal)

/-- A number for a new process. -/
def newPid : Act Nat := do
  let m ← get
  set { m with nextPid := m.nextPid + 1 }
  pure m.nextPid

/-- Lets time pass. -/
def sleep (milliseconds : Nat) : Act Unit :=
  modify fun m => { m with clock := m.clock + milliseconds }

def stop {α : Type} (ending : Ending) : Act α := throw (.ended ending)

/-- Opens a channel and gives its index. -/
def addChannel (c : Channel) : Act Nat := do
  let m ← get
  set { m with channels := m.channels.push c }
  pure m.channels.size

def setChannel (index : Nat) (c : Channel) : Act Unit :=
  modify fun m => { m with channels := m.channels.setIfInBounds index c }

def setPipe (index : Nat) (p : Pipe) : Act Unit :=
  modify fun m => { m with pipes := m.pipes.setIfInBounds index p }

def modifyFiles (g : Files → Files) : Act Unit := modify fun m => { m with files := g m.files }

def files : Act Files := return (← get).files

/-- Makes a pipe: the channel to read from and the one to write to. -/
def addPipe (limit : Nat) : Act (Nat × Nat × Nat) := do
  let m ← get
  set { m with pipes := m.pipes.push { limit } }
  let reader ← addChannel (.reader m.pipes.size)
  let writer ← addChannel (.writer m.pipes.size)
  pure (m.pipes.size, reader, writer)

/-- Makes a channel from which a text can be read. -/
def addText (o : Octets) : Act Nat := do
  let (pipe, reader, _) ← addPipe Machine.lastLimit
  setPipe pipe { ahead := o, written := o.length, limit := Machine.lastLimit }
  pure reader

/-- Everything that was written to a pipe and not read yet. -/
def drain (pipe : Nat) : Act Octets := do
  match (← get).pipes[pipe]? with
  | some p => pure (p.ahead ++ p.behind.reverse.flatten)
  | none => pure []

/-- Writes to a channel. -/
def write (index : Nat) (o : Octets) : Act (Except Errno Unit) := do
  let m ← get
  match m.channels[index]? with
  | none => pure (.error .badDescriptor)
  | some (.file n rights append offset _) =>
    if !rights.write then pure (.error .badDescriptor)
    else
      let offset := if append then m.files.size n else offset
      modifyFiles fun f => f.write n offset o
      setChannel index (.file n rights append (offset + o.length) none)
      pure (.ok ())
  | some (.device d rights) =>
    if !rights.write then pure (.error .badDescriptor)
    else if d = .full && !o.isEmpty then pure (.error .noSpace)
    else pure (.ok ())
  | some (.reader _) => pure (.error .badDescriptor)
  | some (.writer pipe) =>
    match m.pipes[pipe]? with
    | none => pure (.error .badDescriptor)
    | some p =>
      let length := o.length
      if p.written + length > p.limit then
        let front := o.take (p.limit - p.written)
        setPipe pipe { p with behind := front :: p.behind, written := p.limit, isCut := true }
        stop (.killed 13)
      else
        setPipe pipe { p with behind := o :: p.behind, written := p.written + length }
        pure (.ok ())
  | some .input => pure (.ok ())
  | some (.output stream) =>
    let total := m.total + o.length
    match stream with
    | .stdout => set { m with out := o :: m.out, total }
    | .stderr => set { m with err := o :: m.err, total }
    if total > Machine.maxOutput then throw .overflow
    pure (.ok ())

/-- Some bytes of a program, as far as anyone looks at them. -/
def programBytes : Octets :=
  ['\x7f', 'E', 'L', 'F', '\x02', '\x01', '\x01'] ++ List.replicate 64 '\x00'

/-- What is still to be read from a file that is open at an offset. -/
def rest (m : Machine) (n offset : Nat) (ahead : Option (Nat × Octets)) : Octets :=
  match ahead with
  | some (stamp, o) => if stamp = m.files.stamp n then o else (m.files.content n).drop offset
  | none => (m.files.content n).drop offset

/-- Takes bytes from the front of a channel; `cut` says how many of those that are there. -/
def take (index : Nat) (cut : Octets → Nat) : Act (Except Errno Octets) := do
  let m ← get
  match m.channels[index]? with
  | none => pure (.error .badDescriptor)
  | some (.file n rights append offset ahead) =>
    if !rights.read then pure (.error .badDescriptor)
    else
      match m.files.body? n with
      | some (.directory _ _) => pure (.error .isDirectory)
      | some (.program _) =>
        let piece := programBytes.drop offset
        setChannel index (.file n rights append (offset + piece.length) none)
        pure (.ok piece)
      | _ =>
        let o := rest m n offset ahead
        let count := cut o
        let (piece, left) := o.splitAt count
        setChannel index
          (.file n rights append (offset + piece.length) (some (m.files.stamp n, left)))
        pure (.ok piece)
  | some (.device d rights) =>
    if !rights.read then pure (.error .badDescriptor)
    else match d with
      | .zero | .full =>
        let o := List.replicate Machine.endless '\x00'
        pure (.ok (o.take (cut o)))
      | .random =>
        let o := List.replicate Machine.endless '\x5a'
        pure (.ok (o.take (cut o)))
      | .null | .terminal => pure (.ok [])
  | some (.reader pipe) =>
    match m.pipes[pipe]? with
    | none => pure (.error .badDescriptor)
    | some p =>
      let o := if p.behind.isEmpty then p.ahead else p.ahead ++ p.behind.reverse.flatten
      let count := cut o
      let (piece, left) := o.splitAt count
      setPipe pipe
        { p with ahead := left, behind := [], starved := p.starved || (p.isCut && left.isEmpty) }
      pure (.ok piece)
  | some (.writer _) => pure (.error .badDescriptor)
  | some .input =>
    let (piece, left) := m.input.splitAt (cut m.input)
    set { m with input := left }
    pure (.ok piece)
  | some (.output _) => pure (.ok [])

/-- Reads at most so many bytes. -/
def read (index count : Nat) : Act (Except Errno Octets) := take index fun _ => count

/-- Everything that a channel still holds. -/
def readAll (index : Nat) : Act (Except Errno Octets) := take index List.length

/-- Reads up to and including the next line feed. -/
def readLine (index : Nat) : Act (Except Errno Octets) :=
  take index fun o => (o.takeWhile (· ≠ '\n')).length + 1

end Act

namespace Process

/-- The channel behind a number. -/
def channel? (p : Process) (fd : Nat) : Option Nat := p.numbers.lookup fd

/-- Gives a number to a channel, or takes it away. -/
def setChannel (p : Process) (fd : Nat) (channel : Option Nat) : Process :=
  let others := p.numbers.filter fun (n, _) => n ≠ fd
  { p with numbers := (channel.map fun c => (fd, c)).toList ++ others }

def write (p : Process) (fd : Nat) (o : Octets) : Act (Except Errno Unit) :=
  match p.channel? fd with
  | some c => Act.write c o
  | none => pure (.error .badDescriptor)

/-- Writes to standard error, whether or not that succeeds. -/
def report (p : Process) (o : Octets) : Act Unit := do
  let _ ← p.write 2 o

/-- Everything that can be read from a number. -/
def readAll (p : Process) (fd : Nat) : Act (Except Errno Octets) :=
  match p.channel? fd with
  | some c => Act.readAll c
  | none => pure (.error .badDescriptor)

def resolve (p : Process) (path : Octets) (followLast : Bool) : Act (Except Errno Nat) :=
  return (← Act.files).resolve p.cwd path followLast

/-- Opens what stands behind a number once more. -/
def reopen (p : Process) (fd : Nat) (how : Opening) : Act (Except Errno Nat) := do
  match (p.channel? fd).bind ((← get).channels[·]?) with
  | none => pure (.error .noEntry)
  | some (.file n _ _ _ _) =>
    if how.truncate then Act.modifyFiles fun f => f.setContent n {}
    .ok <$> Act.addChannel (.file n how.rights how.append 0 none)
  | some (.device d _) => .ok <$> Act.addChannel (.device d how.rights)
  | some (.reader pipe) | some (.writer pipe) =>
    .ok <$> Act.addChannel (if how.rights.read then .reader pipe else .writer pipe)
  | some .input | some (.output _) => pure (.error .noDevice)

/-- Opens the file that a path leads to. -/
def openFile (p : Process) (path : Octets) (how : Opening) : Act (Except Errno Nat) := do
  let f ← Act.files
  match f.locate p.cwd path true with
  | .error e =>
    pure (.error
      (if how.create && e = .noEntry && path.getLast? = some '/' then .isDirectory else e))
  | .ok place =>
    match place.node with
    | none =>
      if !how.create then pure (.error .noEntry)
      else match f.create place (.file {}) (0o666 - (p.umask &&& 0o666)) with
        | .error e => pure (.error e)
        | .ok (f, n) =>
          Act.modifyFiles fun _ => f
          .ok <$> Act.addChannel (.file n how.rights how.append 0 none)
    | some n =>
      let refused :=
        (how.rights.read && !f.allows n .read) || (how.rights.write && !f.allows n .write)
      match f.body? n with
      | some (.descriptor fd) => p.reopen fd how
      | some (.directory _ _) =>
        if how.rights.write || how.create then pure (.error .isDirectory)
        else if refused then pure (.error .accessDenied)
        else .ok <$> Act.addChannel (.file n how.rights false 0 none)
      | some (.device .terminal) => pure (.error .noDevice)
      | some (.device d) => .ok <$> Act.addChannel (.device d how.rights)
      | _ =>
        if how.fresh then pure (.error .alreadyExists)
        else if refused then pure (.error .accessDenied)
        else
          if how.truncate then Act.modifyFiles fun f => f.setContent n {}
          .ok <$> Act.addChannel (.file n how.rights how.append 0 none)

/-- The whole of the file that a path leads to. -/
def readFile (p : Process) (path : Octets) : Act (Except Errno Octets) := do
  match ← p.openFile path .reading with
  | .error e => pure (.error e)
  | .ok channel => Act.readAll channel

end Process
end MatchedLines.Host
