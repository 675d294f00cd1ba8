import MatchedLines.Options.Similar
import MatchedLines.Text.Decimal
/-!
The options of the command line. Arguments are read from left to right; a run of short flags may
share one dash, and whatever follows them in the same argument is read as an argument of its own.
An argument that is no option is kept, and after the last argument decides how reading ends:
`Options.parse` gives the options only if nothing was kept.
-/

namespace MatchedLines

/-- What the user chose. -/
structure Options where
  verbose : Bool := false
  binary : Text := "clang-format".toList
  dryRun : Bool := false
  deriving DecidableEq, Repr

namespace Options

/-- Why the program ends without options. -/
inductive Stop where
  | version
  | help
  /-- The last argument was `--binary`. -/
  | missingBinary
  | unknownOption (arg : Text)
  | tooManyOperands (count : Nat)
  | emptyBinary
  deriving DecidableEq, Repr

/-- The names that an unknown long option may be a slip for. -/
def longNames : List Text := ["version", "verbose", "binary", "dry-run", "help"].map String.toList

def helpText : Text :=
  ("Usage: format-matches [options]\n\n" ++
    "Reformat only the lines reported by `grep -n` (read from stdin) with\n" ++
    "clang-format\n\n" ++
    "Options:\n" ++
    "  -V, --version    output the version number\n" ++
    "  -v, --verbose    Print a notice for every file formatted or skipped (default:\n" ++
    "                   false)\n" ++
    "  --binary <path>  Formatter executable name or path (default: \"clang-format\")\n" ++
    "  -n, --dry-run    Print the formatter commands instead of running them\n" ++
    "                   (default: false)\n" ++
    "  -h, --help       display help for command\n").toList

namespace Stop

/-- Only what the user asked for counts as success. -/
def exitCode : Stop → Int
  | version | help => 0
  | missingBinary | unknownOption _ | tooManyOperands _ | emptyBinary => 1

def message : Stop → Text
  | version => "0.1.0\n".toList
  | help => helpText
  | missingBinary => "error: option '--binary <path>' argument missing\n".toList
  | unknownOption arg =>
    "error: unknown option '".toList ++ arg ++ '\'' :: (Similar.suggestion arg longNames ++ ['\n'])
  | tooManyOperands count =>
    "error: too many arguments. Expected 0 arguments but got ".toList ++ Decimal.ofNat count
      ++ ".\n".toList
  | emptyBinary => "Error: --binary requires a non-empty executable name or path.\n".toList

end Stop

/-- What the arguments read so far amount to. -/
structure Scan where
  options : Options := {}
  /-- Arguments before the first unknown option that are no options. -/
  operands : List Text := []
  /-- The first unknown option and every argument kept after it. -/
  unknown : List Text := []
  deriving DecidableEq, Repr

namespace Scan

/-- Keeps arguments that are no options. Once one was unknown, all that follow go with it. -/
def keep (s : Scan) (args : List Text) : Scan :=
  if s.unknown.isEmpty then { s with operands := s.operands ++ args }
  else { s with unknown := s.unknown ++ args }

/-- Keeps an argument that looks like an option and is none. -/
def keepUnknown (s : Scan) (arg : Text) : Scan := { s with unknown := s.unknown ++ [arg] }

/-- Keeps all arguments after the `--` that ends the options; the `--` itself is kept only
behind an unknown option. -/
def keepRest (s : Scan) (args : List Text) : Scan :=
  if s.unknown.isEmpty then s.keep args else s.keep ("--".toList :: args)

/-- Sets the option of a short flag. -/
def setFlag (s : Scan) (flag : Char) : Scan :=
  if flag = 'v' then { s with options.verbose := true } else { s with options.dryRun := true }

end Scan

/-- The flags that can share a dash. -/
def isFlag (c : Char) : Bool := c = 'v' || c = 'n'

/-- The short flags at the front of an argument, and what is left of it to read. A remainder keeps
the dash; an argument of flags alone leaves nothing. -/
def takeFlags : Text → Text × Option Text
  | '-' :: word =>
    let flags := word.takeWhile isFlag
    let rest := word.dropWhile isFlag
    (flags, if rest.isEmpty && !flags.isEmpty then none else some ('-' :: rest))
  | arg => ([], some arg)

/-- The kinds of argument, once its short flags are taken off. -/
inductive Kind where
  | endOfOptions
  | version
  | verbose
  | dryRun
  /-- `--binary`, whose value is the next argument. -/
  | binary
  /-- `--binary=` with its value. -/
  | binaryIs (value : Text)
  /-- Looks like an option and is none that this scan knows. -/
  | unknown
  | operand
  deriving DecidableEq, Repr

/-- Tells an argument's kind. `-V` ends reading at once, so what shares its dash is never read. -/
def kind (arg : Text) : Kind :=
  if arg = "--".toList then .endOfOptions
  else if arg = "--version".toList ∨ "-V".toList.isPrefixOf arg then .version
  else if arg = "--verbose".toList then .verbose
  else if arg = "--dry-run".toList then .dryRun
  else if arg = "--binary".toList then .binary
  else if "--binary=".toList.isPrefixOf arg then .binaryIs (arg.drop "--binary=".length)
  else match arg with
    | '-' :: _ :: _ => .unknown
    | _ => .operand

/-- Reads the arguments in order. -/
def scan (s : Scan) : List Text → Except Stop Scan
  | [] => .ok s
  | arg :: args =>
    let (flags, rest) := takeFlags arg
    let s := flags.foldl Scan.setFlag s
    match rest with
    | none => scan s args
    | some arg =>
      match kind arg with
      | .endOfOptions => .ok (s.keepRest args)
      | .version => .error .version
      | .verbose => scan { s with options.verbose := true } args
      | .dryRun => scan { s with options.dryRun := true } args
      | .binary =>
        match args with
        | [] => .error .missingBinary
        | value :: args => scan { s with options.binary := value } args
      | .binaryIs value => scan { s with options.binary := value } args
      | .unknown => scan (s.keepUnknown arg) args
      | .operand => scan (s.keep [arg]) args

/-- Decides once all arguments are read. Help wins over every complaint, an unknown option over
operands, and both over an empty name for the formatter. -/
def Scan.finish (s : Scan) : Except Stop Options :=
  if "-h".toList ∈ s.unknown ∨ "--help".toList ∈ s.unknown then .error .help
  else match s.unknown with
    | arg :: _ => .error (.unknownOption arg)
    | [] =>
      if s.operands ≠ [] then .error (.tooManyOperands s.operands.length)
      else if s.options.binary.isEmpty then .error .emptyBinary
      else .ok s.options

theorem Scan.finish_eq_ok_iff {s : Scan} {o : Options} :
    s.finish = .ok o ↔
      s.operands = [] ∧ s.unknown = [] ∧ s.options.binary ≠ [] ∧ s.options = o := by
  unfold finish
  cases unknown : s.unknown with
  | cons arg rest => split <;> simp
  | nil =>
    by_cases operands : s.operands = []
    · by_cases named : s.options.binary = []
      · simp [operands, named]
      · simp [operands, named]
    · simp [operands]

/-- The options that the arguments give, or why there are none. -/
def parse (args : List Text) : Except Stop Options :=
  match scan {} args with
  | .error stop => .error stop
  | .ok s => s.finish

theorem parse_eq_ok_iff {args : List Text} {o : Options} :
    parse args = .ok o ↔ ∃ s, scan {} args = .ok s ∧ s.finish = .ok o := by
  unfold parse
  cases scan {} args <;> simp

end Options
end MatchedLines
