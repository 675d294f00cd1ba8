import MatchedLines.Options
/-!
The option language as a grammar: a command line that the program accepts is a list of items, and
what it means is read off the items at once and in no order, except that the last formatter named
is the one that counts.
-/

namespace MatchedLines.Options

/-- One thing that the user can say. -/
inductive Item where
  | verbose
  | dryRun
  /-- Short flags that share a dash. -/
  | flags (word : Text)
  /-- A formatter, named in the argument after `--binary`. -/
  | binary (value : Text)
  /-- A formatter, named in the same argument. -/
  | binaryIs (value : Text)
  deriving DecidableEq, Repr

namespace Item

/-- The arguments that say it. -/
def args : Item → List Text
  | verbose => ["--verbose".toList]
  | dryRun => ["--dry-run".toList]
  | flags word => ['-' :: word]
  | binary value => ["--binary".toList, value]
  | binaryIs value => ["--binary=".toList ++ value]

/-- A word of flags holds at least one, and flags only. -/
def isProper : Item → Bool
  | flags word => !word.isEmpty && word.all isFlag
  | _ => true

def asksVerbose : Item → Bool
  | verbose => true
  | flags word => word.contains 'v'
  | _ => false

def asksDryRun : Item → Bool
  | dryRun => true
  | flags word => word.contains 'n'
  | _ => false

def binary? : Item → Option Text
  | binary value | binaryIs value => some value
  | _ => none

end Item

/-- The arguments that a list of items is written as; `--` may end them. -/
def spell (items : List Item) (closed : Bool) : List Text :=
  items.flatMap Item.args ++ if closed then ["--".toList] else []

/-- What a list of items asks for. -/
def meaning (items : List Item) : Options where
  verbose := items.any Item.asksVerbose
  dryRun := items.any Item.asksDryRun
  binary := (items.filterMap Item.binary?).getLast?.getD "clang-format".toList

end MatchedLines.Options
