import MatchedLines.Command
import MatchedLines.Errno
import MatchedLines.Session
import MatchedLines.Text.Literal
import MatchedLines.Text.Utf8
/-!
Running a command as a process of its own, without a shell. The system says how that went
(`Spawn.Outcome`); here it is decided what it means: a status of zero is success, any other status
or a signal is the command's failure, and a command that cannot be started is the environment's.
-/

namespace MatchedLines

/-- What a command that succeeded has written. -/
structure CommandResult where
  stdout : Text
  stderr : Text
  exitCode : Int
  deriving DecidableEq, Repr

namespace Spawn

/-- How an attempt to run a command ended. -/
inductive Outcome where
  /-- The request itself was refused, and nothing was tried. -/
  | refused (className message : Text) (code : Option Text)
  /-- The system could not start the command or could not see it through. -/
  | failed (errno : Errno)
  | exited (status : Nat) (stdout stderr : Bytes)
  | killed (signal : Nat) (stdout stderr : Bytes)
  deriving DecidableEq, Repr

/-- Carries out a command; `σ` is what the system remembers from one command to the next. -/
abbrev System (σ : Type) := Invocation → σ → Outcome × σ

def invalid (what name requirement value : Text) : Outcome :=
  .refused "TypeError".toList
    ("The ".toList ++ what ++ " '".toList ++ name ++ "' ".toList ++ requirement
      ++ ". Received ".toList ++ Literal.ofText value)
    (some "ERR_INVALID_ARG_VALUE".toList)

def hasNul (t : Text) : Bool := t.contains '\x00'

/-- Why the request is refused before anything is tried. A NUL would end a text early on its way to
the system, so no text may hold one. -/
def refusal? (i : Invocation) : Option Outcome :=
  match i.args with
  | [] => some (.refused "TypeError".toList
      "Command invocation requires at least one argument".toList none)
  | command :: args =>
    if hasNul command then
      some (invalid "argument".toList "file".toList
        "must be a string without null bytes".toList command)
    else if command.isEmpty then
      some (invalid "argument".toList "file".toList "cannot be empty".toList command)
    else match args.zipIdx.find? fun (arg, _) => hasNul arg with
      | some (arg, index) =>
        some (invalid "argument".toList ("args[".toList ++ Decimal.ofNat index ++ [']'])
          "must be a string without null bytes".toList arg)
      | none =>
        match i.cwd with
        | some dir =>
          if hasNul dir then
            some (invalid "property".toList "options.cwd".toList
              "must be a string, Uint8Array, or URL without null bytes".toList dir)
          else none
        | none => none

/-- Carries out a command unless it is refused. -/
def attempt {σ : Type} (system : System σ) (i : Invocation) (s : σ) : Outcome × σ :=
  match refusal? i with
  | some refusal => (refusal, s)
  | none => system i s

/-- A signal with a name counts as a status above all that a command can choose in seven bits. One
that has only a number counts as a failure and no more. -/
def signalStatus (signal : Nat) : Nat := if signal < 32 then 128 + signal else 1

/-- A command that ended, with its status. -/
def ended (args : List Text) (status : Nat) (stdout stderr : Bytes) :
    Except Failure CommandResult :=
  let out := Utf8.decode stdout
  let err := Utf8.decode stderr
  if status = 0 then .ok ⟨out, err, 0⟩ else .error (.childProcess args status out err)

/-- What the outcome means for a command with these arguments. -/
def Outcome.result (args : List Text) : Outcome → Except Failure CommandResult
  | .refused className message code => .error (.other className message code)
  | .failed errno =>
    let command := args.headD []
    if errno.code = Errno.noEntry.code then .error (.environment .executableMissing command)
    else if errno.code = Errno.accessDenied.code then
      .error (.environment .permissionDenied command)
    else .error (.other "Error".toList
      ("spawnSync ".toList ++ command ++ ' ' :: errno.code) (some errno.code))
  | .exited status stdout stderr => ended args status stdout stderr
  | .killed signal stdout stderr => ended args (signalStatus signal) stdout stderr

/-- Runs a command and says what it has written, or why it failed. -/
def run {σ : Type} (system : System σ) (i : Invocation) (s : σ) :
    Except Failure CommandResult × σ :=
  let (outcome, s) := attempt system i s
  (outcome.result i.args, s)

/-- The runner that carries out its calls on the system and looks at nothing that succeeded. -/
def runner {σ : Type} (system : System σ) : Runner Invocation σ := fun i s =>
  let (result, s) := run system i s
  (result.map fun _ => (), s)

end Spawn
end MatchedLines
