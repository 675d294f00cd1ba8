import MatchedLines.Command
/-!
What the words of a formatting command say to whoever receives them. `Reading.ofArguments?` reads
them by position, as `Command.arguments` writes them. `Operands.split` reads them by the usual
convention, in which a word that begins with a dash is an option wherever it stands.
-/

namespace MatchedLines.Command

/-- A formatting command as its words say it. -/
structure Reading where
  binary : Text
  path : Text
  lines : List Nat
  deriving DecidableEq, Repr

namespace Reading

/-- The line that an option `--lines=N:N` selects, when both numbers are the same plain decimal. -/
def lineOption? (arg : Text) : Option Nat :=
  if "--lines=".toList.isPrefixOf arg then
    match Text.cutAt? ':' (arg.drop "--lines=".length) with
    | some (first, last) =>
      if first = last ∧ first = Decimal.ofNat (Decimal.value first) then
        some (Decimal.value first)
      else none
    | none => none
  else none

/-- The first word is the formatter, the second `-i`, the last the file, and all others select
lines. -/
def ofArguments? : List Text → Option Reading
  | binary :: inPlace :: rest =>
    if inPlace = "-i".toList then
      match rest.getLast?, rest.dropLast.mapM lineOption? with
      | some path, some lines => some ⟨binary, path, lines⟩
      | _, _ => none
    else none
  | _ => none

end Reading

/-- The words behind a command, sorted by what they are. -/
structure Operands where
  options : List Text
  operands : List Text
  deriving DecidableEq, Repr

namespace Operands

/-- A dash alone is an operand. -/
def isOption (arg : Text) : Bool := 1 < arg.length && arg.head? = some '-'

/-- Options and operands in their order; after `--` there are operands only. -/
def split : List Text → Operands
  | [] => ⟨[], []⟩
  | arg :: args =>
    if arg = "--".toList then ⟨[], args⟩
    else if isOption arg then { split args with options := arg :: (split args).options }
    else { split args with operands := arg :: (split args).operands }

end Operands
end MatchedLines.Command
