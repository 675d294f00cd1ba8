import MatchedLines.Proofs.ShellReading

/-! Reading undoes quoting. A shell that reads what a dry run has printed finds one command for
each group that was treated, with exactly its words, and outside the quotes no character that
means anything else to it (`commands_of_printed`). -/
namespace MatchedLines

variable {ι σ : Type}

namespace Formatter

/-- Treats groups one after another, whatever their files are. -/
def formatEach (f : Formatter ι) (runner : Runner ι σ) : List Group → σ → Session ι σ Unit
  | [], s => Session.pure () s
  | g :: rest, s => (f.formatLines runner g s).andThen fun _ s => f.formatEach runner rest s

/-- A dry run prints one line for each group and does nothing else. -/
theorem formatEach_dryRun (binary : Text) (runner : Runner ι σ) (groups : List Group) (s : σ) :
    (dryRun binary).formatEach runner groups s =
      Session.print (((groups.map fun g => Command.arguments binary g.path g.lines).map
        Command.Quoted.command).map (.line .stdout)) () s := by
  induction groups generalizing s with
  | nil => rfl
  | cons g rest ih =>
    have printed : (dryRun binary).formatLines runner g s =
        Session.print ((dryRun binary).notice g) () s := rfl
    rw [formatEach, printed]
    simp only [Session.print, Session.andThen, ih]
    rfl

end Formatter

namespace Command

open Quoted

/-- The commands in a text as plain words, whichever way they were quoted. -/
def Words.commands? (t : Text) : Option (List (List Text)) :=
  (read t).map fun commands => commands.map fun words => words.map Word.text

/-- Commands that are printed line by line are read back as they were. -/
theorem Words.commands?_lines {commands : List (List Text)}
    (notEmpty : ∀ args ∈ commands, args ≠ []) :
    commands? (commands.flatMap fun args => Quoted.command args ++ ['\n']) = some commands := by
  rw [commands?, read_lines notEmpty]
  simp [Function.comp_def]

/-- A single command needs no newline behind it. -/
theorem Words.commands?_command (w : Text) (more : List Text) :
    commands? (Quoted.command (w :: more)) = some [w :: more] := by
  have ends (before : List Word) (last : Word) : readFrom before (.inWord last) [] =
      some (asCommand (before ++ [last])) := by
    simp [readFrom, Place.ended]
  have whole := readFrom_command [] [] (fun found => some (asCommand found)) ends w more
  rw [List.append_nil] at whole
  rw [commands?, read, whole]
  simp [asCommand, Function.comp_def]

/-- **Reading undoes quoting.** Whatever formatter, files and lines a dry run is given, empty texts,
blanks, quotes, backslashes and newlines among them, all that it prints can be read as shell text,
and what is read is one command for each group, in order, with the words of the call that formats
it. Any command at all is read back from its quoted form. -/
theorem commands_of_printed (binary : Text) (groups : List Group) (runner : Runner ι σ) (s : σ) :
    (let printed := (Formatter.dryRun binary).formatEach runner groups s
     printed.outcome = .ok () ∧ Event.calls printed.events = [] ∧
      Words.commands? (Event.writtenTo .stdout printed.events) =
        some (groups.map fun g => arguments binary g.path g.lines)) ∧
    ∀ w more, Words.commands? (Quoted.command (w :: more)) = some [w :: more] := by
  refine ⟨?_, Words.commands?_command⟩
  intro printed
  let commands := groups.map fun g => arguments binary g.path g.lines
  let shown : List (Event ι) := (commands.map Quoted.command).map (.line .stdout)
  have isPrinted : printed = Session.print shown () s :=
    Formatter.formatEach_dryRun binary runner groups s
  have writes : ∀ e ∈ shown, e.isWrite = true := by
    intro e member
    obtain ⟨text, -, rfl⟩ := List.mem_map.1 member
    rfl
  have notEmpty : ∀ args ∈ commands, args ≠ [] := by
    intro args member
    obtain ⟨g, -, rfl⟩ := List.mem_map.1 member
    exact List.cons_ne_nil binary _
  have output : Event.writtenTo .stdout shown =
      commands.flatMap fun args => Quoted.command args ++ ['\n'] := by
    rw [Event.writtenTo_map_line, List.flatMap_map]
  rw [isPrinted]
  refine ⟨rfl, Event.calls_of_isWrite writes, ?_⟩
  change Words.commands? (Event.writtenTo .stdout shown) = some commands
  rw [output, Words.commands?_lines notEmpty]

/-- Touching pieces are one word, two quotes an empty one, and a quoted newline ends nothing. -/
example : Words.commands? "'it'\\''s' '' 'a\nb' x=1\n".toList =
    some [["it's".toList, [], "a\nb".toList, "x=1".toList]] := by decide

end Command
end MatchedLines
