import MatchedLines.Errno
import MatchedLines.Host.Octets
/-!
The files of a host. Every file, directory or other thing is a node with a number of its own; a
directory gives names to numbers, so one node may have several names or none. `Files.walk` follows
a name and says why it leads nowhere.
-/

namespace MatchedLines.Host

inductive Device where
  | null
  | zero
  | full
  | random
  | terminal
  deriving DecidableEq, Repr

/-- The bytes of a file, kept in pieces so that writing at the end costs little. -/
structure Content where
  /-- The latest piece first. -/
  pieces : List Octets := []
  size : Nat := 0
  deriving DecidableEq, Repr

namespace Content

def ofOctets (o : Octets) : Content := ⟨[o], o.length⟩

def toOctets (c : Content) : Octets :=
  match c.pieces with
  | [] => []
  | [o] => o
  | pieces => pieces.reverse.flatten

/-- Writes from a position on, over what stands there; a gap is filled with zero bytes. -/
def write (c : Content) (offset : Nat) (o : Octets) : Content :=
  if o.isEmpty then c
  else if offset = c.size then ⟨o :: c.pieces, c.size + o.length⟩
  else
    let old := c.toOctets
    ofOctets (old.take offset ++ List.replicate (offset - old.length) '\x00' ++ o
      ++ old.drop (offset + o.length))

end Content

/-- What a node is. -/
inductive Body where
  | directory (parent : Nat) (entries : List (Octets × Nat))
  | file (content : Content)
  /-- Another name to follow. -/
  | link (target : Octets)
  | device (device : Device)
  /-- Stands for whatever the process has open under a number. -/
  | descriptor (fd : Nat)
  /-- A program that comes with the host. -/
  | program (name : Octets)
  deriving Repr

structure Node where
  body : Body
  /-- The permission bits. -/
  mode : Nat
  /-- Whether it belongs to the user and not to the system. -/
  own : Bool
  /-- When it was last changed. -/
  stamp : Nat
  deriving Repr

/-- What a process may want to do with a node; for a directory the last means to follow names in
it. -/
inductive Access where
  | read
  | write
  | execute
  deriving DecidableEq, Repr

/-- All nodes by number; the root is number 0. -/
structure Files where
  nodes : Array Node
  /-- Advances with every change. -/
  clock : Nat := 1

/-- Where a name leads: the directory, the last name in it and the node of that name if there is
one. -/
structure Place where
  parent : Nat
  name : Octets
  node : Option Nat
  deriving Repr

namespace Files

def node? (f : Files) (n : Nat) : Option Node := f.nodes[n]?

def body? (f : Files) (n : Nat) : Option Body := (f.node? n).map Node.body

/-- The bits that hold for the user. -/
def bits (f : Files) (n : Nat) : Nat :=
  match f.node? n with
  | some node => if node.own then node.mode / 64 % 8 else node.mode % 8
  | none => 0

def allows (f : Files) (n : Nat) : Access → Bool
  | .read => f.bits n / 4 % 2 = 1
  | .write => f.bits n / 2 % 2 = 1
  | .execute => f.bits n % 2 = 1

def entries? (f : Files) (n : Nat) : Option (List (Octets × Nat)) :=
  match f.body? n with
  | some (.directory _ entries) => some entries
  | _ => none

def isDirectory (f : Files) (n : Nat) : Bool := (f.entries? n).isSome

/-- The bytes of a file; nothing for any other node. -/
def content (f : Files) (n : Nat) : Octets :=
  match f.body? n with
  | some (.file c) => c.toOctets
  | _ => []

def size (f : Files) (n : Nat) : Nat :=
  match f.body? n with
  | some (.file c) => c.size
  | some (.link target) => target.length
  | some (.directory _ _) => 4096
  | _ => 0

/-- When the node was last changed. -/
def stamp (f : Files) (n : Nat) : Nat := ((f.node? n).map Node.stamp).getD 0

/-! ### Names -/

/-- The longest name that a directory can hold. -/
def maxName : Nat := 255

/-- The longest path that can be followed. -/
def maxPath : Nat := 4095

/-- How many links one path may lead over. -/
def maxLinks : Nat := 40

/-- The names in a path as it is written. A slash at the end asks for a directory. -/
def split (path : Octets) : List Octets :=
  let parts := (path.splitOn '/').filter (!·.isEmpty)
  if path.getLast? = some '/' && !parts.isEmpty then parts ++ [['.']] else parts

/-- Follows names one by one. Only the last of them may lead to a place where nothing stands. -/
def walk (f : Files) (followLast : Bool) : Nat → Nat → Nat → List Octets → Except Errno Place
  | 0, _, _, _ => .error .tooManyLinks
  | _ + 1, _, here, [] => .ok ⟨here, ['.'], some here⟩
  | steps + 1, links, here, name :: rest =>
    match f.body? here with
    | some (.directory parent entries) =>
      if !f.allows here .execute then .error .accessDenied
      else if name = ['.'] || name = ['.', '.'] then
        let next := if name = ['.'] then here else parent
        if rest.isEmpty then .ok ⟨here, name, some next⟩
        else walk f followLast steps links next rest
      else if name.length > maxName then .error .nameTooLong
      else match entries.lookup name with
        | none => if rest.isEmpty then .ok ⟨here, name, none⟩ else .error .noEntry
        | some n =>
          match f.body? n with
          | some (.link target) =>
            if rest.isEmpty && !followLast then .ok ⟨here, name, some n⟩
            else if links = 0 then .error .tooManyLinks
            else if target.isEmpty then .error .noEntry
            else
              walk f followLast steps (links - 1) (if target.head? = some '/' then 0 else here)
                (split target ++ rest)
          | _ =>
            if rest.isEmpty then .ok ⟨here, name, some n⟩
            else walk f followLast steps links n rest
    | _ => .error .notDirectory

/-- The place that a path leads to from the directory `cwd`. -/
def locate (f : Files) (cwd : Nat) (path : Octets) (followLast : Bool) : Except Errno Place :=
  if path.isEmpty then .error .noEntry
  else if path.length > maxPath then .error .nameTooLong
  else walk f followLast 10000 maxLinks (if path.head? = some '/' then 0 else cwd) (split path)

/-- The node that a path leads to. -/
def resolve (f : Files) (cwd : Nat) (path : Octets) (followLast : Bool) : Except Errno Nat := do
  match (← f.locate cwd path followLast).node with
  | some n => pure n
  | none => throw .noEntry

/-- The name of a node in its directory. -/
def nameIn (f : Files) (parent n : Nat) : Option Octets :=
  ((f.entries? parent).getD []).find? (fun (_, m) => m = n) |>.map Prod.fst

/-- The names that lead to a directory from the root. -/
def namesTo (f : Files) : Nat → Nat → List Octets
  | 0, _ => []
  | steps + 1, n =>
    if n = 0 then []
    else match f.body? n with
      | some (.directory parent _) =>
        match f.nameIn parent n with
        | some name => namesTo f steps parent ++ [name]
        | none => ["(unreachable)".toList]
      | _ => []

/-- A directory written as a path from the root. -/
def render (f : Files) (n : Nat) : Octets :=
  let names := f.namesTo 1000 n
  if names.isEmpty then ['/'] else names.flatMap ('/' :: ·)

/-- Whether a directory can still be reached from the root. -/
def isReachable (f : Files) : Nat → Nat → Bool
  | 0, _ => false
  | steps + 1, n =>
    n = 0 || match f.body? n with
      | some (.directory parent _) => (f.nameIn parent n).isSome && isReachable f steps parent
      | _ => false

/-- Whether a directory is another one or lies below it. -/
def isBelow (f : Files) (top : Nat) : Nat → Nat → Bool
  | 0, _ => false
  | steps + 1, n =>
    n = top || (n ≠ 0 && match f.body? n with
      | some (.directory parent _) => isBelow f top steps parent
      | _ => false)

/-- How many names lead to a node. -/
def linkCount (f : Files) (n : Nat) : Nat :=
  match f.body? n with
  | some (.directory _ entries) =>
    2 + (entries.filter fun (_, m) => f.isDirectory m).length
  | _ =>
    f.nodes.foldl (fun count node =>
      match node.body with
      | .directory _ entries => count + (entries.filter fun (_, m) => m = n).length
      | _ => count) 0

/-! ### Changes -/

def setNode (f : Files) (n : Nat) (node : Node) : Files :=
  { f with nodes := f.nodes.setIfInBounds n node }

/-- Changes a node and notes the time. -/
def change (f : Files) (n : Nat) (g : Node → Node) : Files :=
  match f.node? n with
  | some node =>
    { nodes := f.nodes.setIfInBounds n { g node with stamp := f.clock + 1 }, clock := f.clock + 1 }
  | none => f

def setContent (f : Files) (n : Nat) (c : Content) : Files :=
  f.change n fun node => { node with body := .file c }

/-- Writes into a file from a position on. -/
def write (f : Files) (n offset : Nat) (o : Octets) : Files :=
  match f.body? n with
  | some (.file c) => f.setContent n (c.write offset o)
  | _ => f

/-- Changes the names in a directory. -/
def editEntries (f : Files) (dir : Nat) (g : List (Octets × Nat) → List (Octets × Nat)) : Files :=
  f.change dir fun node =>
    match node.body with
    | .directory parent entries => { node with body := .directory parent (g entries) }
    | _ => node

def setParent (f : Files) (n parent : Nat) : Files :=
  match f.node? n with
  | some ({ body := .directory _ entries, mode, own, stamp }) =>
    f.setNode n { body := .directory parent entries, mode, own, stamp }
  | _ => f

/-- Gives a node a name in a directory. -/
def enter (f : Files) (dir : Nat) (name : Octets) (n : Nat) : Files :=
  f.editEntries dir fun entries => entries.filter (fun (m, _) => m ≠ name) ++ [(name, n)]

/-- Takes a name out of a directory. -/
def leave (f : Files) (dir : Nat) (name : Octets) : Files :=
  f.editEntries dir fun entries => entries.filter fun (m, _) => m ≠ name

/-- Adds a node without asking for permission. -/
def add (f : Files) (dir : Nat) (name : Octets) (body : Body) (mode : Nat) (own : Bool) :
    Files × Nat :=
  let n := f.nodes.size
  let body : Body :=
    match body with
    | .directory _ entries => .directory dir entries
    | body => body
  let f : Files := { nodes := f.nodes.push ⟨body, mode, own, f.clock + 1⟩, clock := f.clock + 1 }
  (f.enter dir name n, n)

/-- Makes a new node at a place where none stands. -/
def create (f : Files) (p : Place) (body : Body) (mode : Nat) : Except Errno (Files × Nat) :=
  if p.node.isSome then .error .alreadyExists
  else if !f.isReachable 1000 p.parent then .error .noEntry
  else if !f.allows p.parent .write then .error .accessDenied
  else .ok (f.add p.parent p.name body mode true)

/-- Takes away a name, unless it is that of a directory. -/
def unlink (f : Files) (p : Place) : Except Errno Files :=
  match p.node with
  | none => .error .noEntry
  | some n =>
    if !f.allows p.parent .write then .error .accessDenied
    else if f.isDirectory n then .error .isDirectory
    else .ok (f.leave p.parent p.name)

/-- Takes away an empty directory. -/
def removeDirectory (f : Files) (p : Place) : Except Errno Files :=
  match p.node with
  | none => .error .noEntry
  | some n =>
    match f.entries? n with
    | none => .error .notDirectory
    | some entries =>
      if p.name = ['.'] then .error .invalidArgument
      else if p.name = ['.', '.'] then .error .notEmpty
      else if !f.allows p.parent .write then .error .accessDenied
      else if !entries.isEmpty then .error .notEmpty
      else .ok (f.leave p.parent p.name)

/-- Moves a name, over what stands at the target if that can be replaced. -/
def rename (f : Files) (source target : Place) : Except Errno Files :=
  match source.node with
  | none => .error .noEntry
  | some n =>
    if [['.'], ['.', '.']].contains source.name || [['.'], ['.', '.']].contains target.name then
      .error .busy
    else if target.node = some n then .ok f
    else if !f.allows source.parent .write || !f.allows target.parent .write then
      .error .accessDenied
    else if f.isDirectory n && f.isBelow n 1000 target.parent then .error .invalidArgument
    else
      let moved := ((f.leave source.parent source.name).enter target.parent target.name n).setParent
        n target.parent
      match target.node with
      | none => .ok moved
      | some m =>
        match f.isDirectory n, f.entries? m with
        | true, none => .error .notDirectory
        | false, some _ => .error .isDirectory
        | true, some (_ :: _) => .error .notEmpty
        | _, _ => .ok moved

/-- Makes the directories on the way to a place, as far as they are missing, and gives the last. -/
def addParents (f : Files) (own : Bool) (names : List Octets) : Files × Nat :=
  names.foldl (fun (f, here) name =>
    match ((f.entries? here).getD []).lookup name with
    | some n => (f, n)
    | none => f.add here name (.directory here []) 0o755 own) (f, 0)

end Files
end MatchedLines.Host
