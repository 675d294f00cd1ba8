import MatchedLines.Host.Machine
/-!
From a file to the program that runs it. A program of the host runs itself; a script names its
interpreter in its first line; a script that names none is left to the caller, who may give it to
a shell.
-/

namespace MatchedLines.Host

/-- A program of the host with the arguments it is called with, its own name first. -/
structure Launch where
  program : Octets
  argv : List Octets
  deriving Repr

/-- Runs a program in a process and says how it ends. -/
abbrev Start := Process → Launch → Act Ending

namespace Launch

/-- An argument may have so many bytes with the one that ends it. -/
def maxArgument : Nat := 131072

/-- How much of a script is looked at for its interpreter. -/
def headLength : Nat := 255

/-- The interpreter that a script names in its first line, with the one argument it may have. -/
def interpreter? (content : Octets) : Option (Octets × List Octets) :=
  match content.take headLength with
  | '#' :: '!' :: rest =>
    let line := (rest.takeWhile (· ≠ '\n')).dropWhile Octets.isBlank
    let name := line.takeWhile (!Octets.isBlank ·)
    let argument := (line.drop name.length).dropWhile Octets.isBlank
    let argument := (argument.reverse.dropWhile Octets.isBlank).reverse
    let isWhole := rest.contains '\n' || name.length < line.length || content.length < headLength
    if name.isEmpty || !isWhole then none
    else some (name, if argument.isEmpty then [] else [argument])
  | _ => none

/-- What starting the file at `name` runs. Interpreters may be scripts themselves, up to a depth
given by the first number. -/
def ofFile (f : Files) (cwd : Nat) : Nat → Octets → List Octets → Except Errno Launch
  | 0, _, _ => .error .tooManyLinks
  | depth + 1, name, args =>
    match f.resolve cwd name true with
    | .error e => .error e
    | .ok n =>
      match f.body? n with
      | some (.program program) =>
        if f.allows n .execute then .ok ⟨program, name :: args⟩ else .error .accessDenied
      | some (.file content) =>
        if !f.allows n .execute then .error .accessDenied
        else match interpreter? content.toOctets with
          | none => .error .badFormat
          | some (interpreter, argument) =>
            ofFile f cwd depth interpreter (argument ++ name :: args)
      | _ => .error .accessDenied

/-- How many files may lead from one to the next, the last of them a program. -/
def maxDepth : Nat := 6

/-- Gives a file that names no interpreter to a shell. -/
def orShell (name : Octets) (args : List Octets) : Except Errno Launch → Except Errno Launch
  | .error .badFormat => .ok ⟨"sh".toList, "/bin/sh".toList :: name :: args⟩
  | outcome => outcome

/-- The file itself or, if it names no interpreter, a shell that reads it. -/
def ofPath (f : Files) (cwd : Nat) (path : Octets) (args : List Octets) : Except Errno Launch :=
  orShell path args (ofFile f cwd maxDepth path args)

/-- A name in a directory of the search path. -/
def join (dir name : Octets) : Octets :=
  if dir.isEmpty then name
  else if dir.getLast? = some '/' then dir ++ name
  else dir ++ '/' :: name

/-- The program at a place is called by the name under which it was looked for. -/
def renamed (place name : Octets) (args : List Octets) (launch : Launch) : Launch :=
  if launch.argv.head? = some place then { launch with argv := name :: args } else launch

/-- Looks for a command in the directories of a search path. A place that may not be used is
remembered as long as no other is found. A program is called by its name and not by its place. -/
def search (f : Files) (cwd : Nat) (name : Octets) (args : List Octets) :
    Errno → List Octets → Except Errno Launch
  | refused, [] => .error refused
  | refused, dir :: dirs =>
    let place := join dir name
    match ofPath f cwd place args with
    | .ok launch => .ok (renamed place name args launch)
    | .error .accessDenied => search f cwd name args .accessDenied dirs
    | .error .noEntry | .error .notDirectory => search f cwd name args refused dirs
    | .error e => .error e

/-- What a command runs, found by its path or in the search path. -/
def ofCommand (f : Files) (cwd : Nat) (searchPath name : Octets) (args : List Octets) :
    Except Errno Launch :=
  if name.contains '/' then ofPath f cwd name args
  else if name.isEmpty then .error .noEntry
  else if name.length > Files.maxName then .error .nameTooLong
  else search f cwd name args .noEntry (searchPath.splitOn ':')

end Launch
end MatchedLines.Host
