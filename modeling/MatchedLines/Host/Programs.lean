import MatchedLines.Host.Shell.Session
import MatchedLines.Host.Utility.Columns
import MatchedLines.Host.Utility.Comparing
import MatchedLines.Host.Utility.Condition
import MatchedLines.Host.Utility.Copying
import MatchedLines.Host.Utility.Editing
import MatchedLines.Host.Utility.Listing
import MatchedLines.Host.Utility.Matching
import MatchedLines.Host.Utility.Numbering
import MatchedLines.Host.Utility.Sorting
import MatchedLines.Host.Utility.Surroundings
import MatchedLines.Host.Utility.Tabs
import MatchedLines.Host.Utility.Texts
import MatchedLines.Host.Utility.Translating
import MatchedLines.Host.Utility.Words
/-!
The programs of a host by their names.
-/

namespace MatchedLines.Host.Programs

/-- A program: the status that says that it could not write, and its work. -/
structure Program where
  failure : Nat := 1
  work : List Octets → Tool Nat

/-- The programs that need no others. -/
def table : List (String × Program) :=
  [("[", { work := Condition.bracket, failure := 2 }),
    ("basename", { work := Words.basename }), ("cat", { work := Texts.cat }),
    ("chmod", { work := Changing.chmod }), ("comm", { work := Comparing.comm }),
    ("cp", { work := Copying.cp }), ("cut", { work := Columns.cut }),
    ("dirname", { work := Words.dirname }), ("echo", { work := Words.echo }),
    ("egrep", { work := Matching.egrep, failure := 2 }),
    ("expand", { work := Tabs.expand }), ("false", { work := Words.silent 1 }),
    ("fgrep", { work := Matching.fgrep, failure := 2 }), ("fold", { work := Columns.fold }),
    ("grep", { work := Matching.grep, failure := 2 }), ("head", { work := Texts.head }),
    ("id", { work := Surroundings.id }), ("ln", { work := Copying.ln }),
    ("ls", { work := Listing.ls, failure := 2 }), ("mkdir", { work := Changing.mkdir }),
    ("mktemp", { work := Changing.mktemp }), ("mv", { work := Copying.mv }),
    ("nl", { work := Numbering.nl }), ("paste", { work := Columns.paste }),
    ("printenv", { work := Surroundings.printenv, failure := 2 }),
    ("printf", { work := Words.printf }), ("pwd", { work := Surroundings.pwd }),
    ("readlink", { work := Copying.readlink }), ("realpath", { work := Copying.realpath }),
    ("rev", { work := Columns.rev }), ("rm", { work := Removing.rm }),
    ("rmdir", { work := Removing.rmdir }), ("sed", { work := Editing.sed, failure := 4 }),
    ("seq", { work := Words.seq }),
    ("sleep", { work := Surroundings.sleep }),
    ("sort", { work := Sorting.sort, failure := 2 }), ("tac", { work := Texts.tac }),
    ("tail", { work := Texts.tail }), ("tee", { work := Texts.tee }),
    ("test", { work := Condition.test, failure := 2 }), ("touch", { work := Changing.touch }),
    ("tr", { work := Translating.tr }), ("true", { work := Words.silent 0 }),
    ("unexpand", { work := Tabs.unexpand }),
    ("uniq", { work := Comparing.uniq }), ("unlink", { work := Removing.unlink }),
    ("wc", { work := Texts.wc }), ("whoami", { work := Surroundings.whoami }),
    ("yes", { work := Words.yes })]

/-- The programs that run others. -/
def launchers (start : Start) : List (String × Program) :=
  [("env", { work := Surroundings.env start, failure := 125 }),
    ("nohup", { work := Surroundings.nohup start, failure := 125 }),
    ("timeout", { work := Surroundings.timeout start, failure := 125 })]

def shells : List String := ["sh", "dash"]

/-- The names of all programs. -/
def names : List String :=
  shells ++ (launchers fun _ _ => Act.stop (.exited 0)).map Prod.fst ++ table.map Prod.fst

/-- Runs a program in a process. Programs may run one another up to a depth. -/
def run : Nat → Start
  | 0 => fun _ _ => pure (.killed 11)
  | n + 1 => fun p launch =>
    let name := String.ofList launch.program
    if shells.contains name then Shell.Session.run (run n) p launch.argv
    else match (table ++ launchers (run n)).lookup name with
      | some program =>
        let task : Task := { process := p, name := launch.argv.headD [] }
        Tool.run task program.failure (program.work launch.argv.tail)
      | none => pure (.exited 127)

end MatchedLines.Host.Programs
