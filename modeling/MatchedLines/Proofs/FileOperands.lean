import Mathlib.Data.List.Forall2
import MatchedLines.Command.Reading
import MatchedLines.Proofs.FileExtensions
import MatchedLines.Proofs.RunCoverage

/-! How the formatter understands the words that it is given. By the usual convention it takes every
word with a dash in front for an option, and the file stands among the words like any other: it is
an operand exactly when its path does not begin with a dash (`run_file_operand_iff`). -/
namespace MatchedLines

namespace Command.Operands

/-- Options that end no options are read as such, whatever words stand behind them. -/
theorem split_append {options : List Text}
    (all : ∀ word ∈ options, isOption word = true ∧ word ≠ "--".toList) (rest : List Text) :
    split (options ++ rest) = ⟨options ++ (split rest).options, (split rest).operands⟩ := by
  induction options with
  | nil => rfl
  | cons word options ih =>
    obtain ⟨readsAsOption, goesOn⟩ := all word (by simp)
    have later := ih fun other member => all other (by simp [member])
    rw [List.cons_append, split, if_neg goesOn, if_pos readsAsOption, later]
    rfl

/-- A word that selects lines is an option, and does not end the options. -/
theorem isOption_selection (range : Text) :
    isOption ("--lines=".toList ++ range) = true ∧ "--lines=".toList ++ range ≠ "--".toList := by
  constructor
  · simp [isOption]
  · intro same
    have long := congrArg List.length same
    simp at long

/-- What the formatter is to understand: to work in place, on these lines and on this file. -/
def asked (path : Text) (numbers : List Nat) : Operands where
  options := "-i".toList :: numbers.map fun n =>
    "--lines=".toList ++ Decimal.ofNat n ++ ':' :: Decimal.ofNat n
  operands := [path]

/-- The words between the formatter and the file are options, one for each line behind `-i`. -/
theorem split_arguments (binary path : Text) (numbers : List Nat) :
    split (arguments binary path (numbers.map Int.ofNat)).tail =
      ⟨(asked path numbers).options ++ (split [path]).options, (split [path]).operands⟩ := by
  have words : (arguments binary path (numbers.map Int.ofNat)).tail =
      (asked path numbers).options ++ [path] := by
    rw [arguments, List.map_map]
    rfl
  rw [words]
  apply split_append
  intro word member
  rcases List.mem_cons.1 member with rfl | selects
  · decide
  · obtain ⟨n, -, rfl⟩ := List.mem_map.1 selects
    rw [List.append_assoc]
    exact isOption_selection _

/-- A supported file is read as an option when there is a dash in front of its path, and as an
operand when there is none. -/
theorem split_file {path : Text} (supported : FileType.isSupported path = true) :
    split [path] = if path.head? = some '-' then ⟨[path], []⟩ else ⟨[], [path]⟩ := by
  have dot := FileType.dot_mem_of_isSupported supported
  have notEnd : path ≠ "--".toList := by
    rintro rfl
    exact absurd dot (by decide)
  rw [split, if_neg notEnd]
  by_cases dash : path.head? = some '-'
  · have long : 1 < path.length := by
      obtain ⟨rest, rfl⟩ := List.head?_eq_some_iff.1 dash
      have inRest : '.' ∈ rest := by simpa using dot
      have notEmpty := List.length_pos_of_mem inRest
      simpa using notEmpty
    simp [isOption, dash, long, split]
  · simp [isOption, dash, split]

end Command.Operands

namespace Run

open Command (Operands)

variable {σ : Type}

/-- **A file is an operand unless its path begins with a dash.** Whatever the runner answers, the
calls of a run in earnest are for supported files, in the order of first appearance, and for all of
them if no call fails. Read by the usual convention, the words behind the formatter say what they
should, `-i` and one selection for each line of the file in order as options and the file as the
only operand, exactly when there is no dash in front of the path. Where there is one, the path is
one more option, and no file is named. -/
theorem run_file_operand_iff (coloured : Bool) {o : Options} (runner : Runner Invocation σ) (s : σ)
    {input : Source} {lines : List Text} {found : List MatchLine}
    (read : input.readLines = .ok lines) (understood : lines.mapM MatchLine.parse = .ok found)
    (inEarnest : o.dryRun = false) :
    let calls := Event.calls (run coloured o runner input s).events
    ∃ files, files <+: (MatchLine.paths found).filter FileType.isSupported ∧
      ((∀ outcome ∈ runner.outcomes calls s, outcome = .ok ()) →
        files = (MatchLine.paths found).filter FileType.isSupported) ∧
      List.Forall₂ (fun call path =>
          call.args.head? = some o.binary ∧
          (Operands.split call.args.tail = Operands.asked path (MatchLine.linesOf path found) ↔
            path.head? ≠ some '-') ∧
          (path.head? = some '-' → Operands.split call.args.tail =
            ⟨(Operands.asked path (MatchLine.linesOf path found)).options ++ [path], []⟩))
        calls files := by
  obtain ⟨files, isPrefix, all, isCalls⟩ :=
    exists_calls_eq coloured runner s read understood inEarnest
  refine ⟨files, isPrefix, all, ?_⟩
  rw [isCalls, List.forall₂_map_left_iff, List.forall₂_same]
  intro path member
  have supported : FileType.isSupported path = true :=
    (List.mem_filter.1 (isPrefix.subset member)).2
  have words : Operands.split (command o found path).args.tail = _ :=
    Operands.split_arguments o.binary path (MatchLine.linesOf path found)
  rw [Operands.split_file supported] at words
  refine ⟨rfl, ?_, fun dash => ?_⟩
  · rw [words]
    by_cases dash : path.head? = some '-'
    · simp [dash, Operands.asked]
    · simp [dash, Operands.asked]
  · rw [words, if_pos dash]

/-- Of two files that are found one has a dash in front of its path. -/
theorem run_file_operand_iff_dash :
    let input : Source := ⟨["a.c:2:x\n-x.c:1:y\r\na", ".c:7:z"].map (.text ·.toList), none⟩
    let call (words : List String) : Invocation := { args := words.map String.toList }
    let first := call ["clang-format", "-i", "--lines=2:2", "--lines=7:7", "a.c"]
    let second := call ["clang-format", "-i", "--lines=1:1", "-x.c"]
    Event.calls (run false {} Runner.scripted input []).events = [first, second] ∧
      Operands.split first.args.tail = Operands.asked "a.c".toList [2, 7] ∧
      Operands.split second.args.tail =
        ⟨["-i", "--lines=1:1", "-x.c"].map String.toList, []⟩ := by
  intro input call first second
  have read : input.readLines = .ok (["a.c:2:x", "-x.c:1:y", "a.c:7:z"].map String.toList) := rfl
  have understood : (["a.c:2:x", "-x.c:1:y", "a.c:7:z"].map String.toList).mapM MatchLine.parse =
      .ok [⟨"a.c".toList, 2⟩, ⟨"-x.c".toList, 1⟩, ⟨"a.c".toList, 7⟩] := rfl
  have isFiles : (MatchLine.paths [⟨"a.c".toList, 2⟩, ⟨"-x.c".toList, 1⟩, ⟨"a.c".toList, 7⟩]).filter
      FileType.isSupported = ["a.c".toList, "-x.c".toList] := by decide
  have isCalls : Event.calls (run false {} Runner.scripted input []).events = [first, second] := rfl
  obtain ⟨files, -, all, sorted⟩ :=
    run_file_operand_iff false (o := {}) Runner.scripted [] read understood rfl
  rw [isCalls] at all sorted
  rw [isFiles] at all
  obtain rfl := all (by simp [Runner.outcomes, Runner.scripted])
  obtain ⟨⟨-, operand, -⟩, more⟩ := List.forall₂_cons.1 sorted
  obtain ⟨⟨-, -, option⟩, -⟩ := List.forall₂_cons.1 more
  exact ⟨isCalls, operand.2 (by decide), option rfl⟩

/-- A file whose path begins with a dash is named to the formatter as an option. -/
theorem file_read_as_option :
    let input : Source := ⟨[.text "-x.c:1:y\n".toList], none⟩
    let calls := Event.calls (run false {} Runner.scripted input []).events
    calls = [{ args := ["clang-format", "-i", "--lines=1:1", "-x.c"].map String.toList }] ∧
      ∀ call ∈ calls, Operands.split call.args.tail =
          ⟨["-i", "--lines=1:1", "-x.c"].map String.toList, []⟩ ∧
        Operands.split call.args.tail ≠ Operands.asked "-x.c".toList [1] := by
  intro input calls
  have isCalls : calls =
    [{ args := ["clang-format", "-i", "--lines=1:1", "-x.c"].map String.toList }] := rfl
  rw [isCalls]
  decide

end Run
end MatchedLines
