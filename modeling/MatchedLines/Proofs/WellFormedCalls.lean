import MatchedLines.Proofs.ExitCodes
import MatchedLines.Proofs.LineReading

/-! Every call that the program can make is a well-formed formatting command. What makes it so is
established in four places, each by the part that knows: the options name a formatter, no line
that is read holds a break, a match has a path and a number within bounds, and a file is formatted
only if it is supported. Nothing looks at these facts again before the call is made. -/
namespace MatchedLines

/-- No line of a stream holds a break. -/
theorem Source.plain_of_mem_readLines {input : Source} {lines : List Text} {line : Text}
    (read : input.readLines = .ok lines) (member : line ∈ lines) :
    ∀ c ∈ line, Text.isBreak c = false := by
  rw [readLines] at read
  split at read
  · cases read
  · cases read
    exact Lines.plain_of_mem_readAll (by simp) member

namespace MatchLine

/-- What was understood is spelled by the lines. -/
theorem exists_spells_of_mem {lines : List Text} {found : List MatchLine} {m : MatchLine}
    (understood : lines.mapM parse = .ok found) (member : m ∈ found) :
    ∃ line ∈ lines, Spells line m := by
  have reported : some m ∈ lines.map parse? := by
    rw [reports_of_mapM_parse understood]
    exact List.mem_map_of_mem member
  obtain ⟨line, isLine, read⟩ := List.mem_map.1 reported
  exact ⟨line, isLine, Spells.of_parse? read⟩

end MatchLine

/-- Options that were accepted name a formatter. -/
theorem Options.binary_ne_nil {args : List Text} {o : Options} (accepted : parse args = .ok o) :
    o.binary ≠ [] := by
  obtain ⟨final, -, finished⟩ := parse_eq_ok_iff.1 accepted
  obtain ⟨-, -, named, rfl⟩ := Scan.finish_eq_ok_iff.1 finished
  exact named

namespace Command

/-- The word selects one line. It has the same number on both sides, spelled in plain decimal:
digits only and no leading zero. -/
def IsSelection (word : Text) : Prop :=
  ∃ digits, word = "--lines=".toList ++ digits ++ ':' :: digits ∧
    Decimal.isNumeral digits = true ∧ digits.head? ≠ some '0' ∧
    1 ≤ Decimal.value digits ∧ Decimal.value digits ≤ MatchLine.maxNumber

theorem isSelection_lineOption {n : Nat} (positive : 1 ≤ n) (le : n ≤ MatchLine.maxNumber) :
    IsSelection (lineOption (.ofNat n)) := by
  refine ⟨Decimal.ofNat n, rfl, Decimal.isNumeral_ofNat n, Decimal.head_ofNat positive, ?_⟩
  rw [Decimal.value_ofNat]
  exact ⟨positive, le⟩

/-- The call runs the formatter on one file, which is supported, for lines that are selected one by
one. It reads nothing and runs where the program runs. -/
structure IsFormatting (call : Invocation) (binary : Text) (selections : List Text) (file : Text) :
    Prop where
  args : call.args = binary :: "-i".toList :: (selections ++ [file])
  stdin : call.stdin = none
  cwd : call.cwd = none
  binary_ne_nil : binary ≠ []
  selections_ne_nil : selections ≠ []
  isSelection : ∀ word ∈ selections, IsSelection word
  file_ne_nil : file ≠ []
  file_plain : ∀ c ∈ file, c ≠ ':' ∧ Text.isBreak c = false
  supported : FileType.isSupported file = true

variable {call : Invocation} {binary file : Text} {selections : List Text}

/-- All that can be refused in a formatting command is a NUL in one of its words. -/
theorem IsFormatting.refusal?_cases (formatting : IsFormatting call binary selections file) :
    let refusedFor (name value : Text) : Spawn.Outcome :=
      Spawn.invalid "argument".toList name "must be a string without null bytes".toList value
    Spawn.refusal? call = none ∨
      Spawn.refusal? call = some (refusedFor "file".toList binary) ∨
      ∃ index value, Spawn.refusal? call =
        some (refusedFor ("args[".toList ++ Decimal.ofNat index ++ [']']) value) := by
  rw [Spawn.refusal?, formatting.args, formatting.cwd]
  have named : binary.isEmpty = false := List.isEmpty_eq_false_iff.2 formatting.binary_ne_nil
  simp only [named, Bool.false_eq_true, if_false]
  split
  · exact .inr (.inl rfl)
  · split
    · exact .inr (.inr ⟨_, _, rfl⟩)
    · exact .inl rfl

/-- A formatting command is not refused because there is no command in it or an empty one. -/
theorem IsFormatting.refusal?_ne (formatting : IsFormatting call binary selections file) :
    Spawn.refusal? call ≠ some (.refused "TypeError".toList
      "Command invocation requires at least one argument".toList none) ∧
    Spawn.refusal? call ≠ some (.refused "TypeError".toList
      "The argument 'file' cannot be empty. Received ''".toList
      (some "ERR_INVALID_ARG_VALUE".toList)) := by
  rcases formatting.refusal?_cases with refusal | refusal | ⟨index, value, refusal⟩ <;>
    simp [refusal, Spawn.invalid]

end Command

namespace Run

variable {σ : Type} {o : Options} {lines : List Text} {found : List MatchLine} {input : Source}

/-- The calls for what was understood are well-formed. -/
theorem isFormatting_of_mem_commands (named : o.binary ≠ []) (read : input.readLines = .ok lines)
    (understood : lines.mapM MatchLine.parse = .ok found) {call : Invocation}
    (member : call ∈ commands o found) :
    ∃ selections file, Command.IsFormatting call o.binary selections file := by
  obtain ⟨file, isFile, rfl⟩ := List.mem_map.1 member
  obtain ⟨listed, supported⟩ := List.mem_filter.1 isFile
  obtain ⟨m, isFound, rfl⟩ := MatchLine.mem_paths.1 listed
  obtain ⟨line, isLine, digits, matched, isSpelling, notEmpty, noColon, -⟩ :=
    MatchLine.exists_spells_of_mem understood isFound
  refine ⟨((MatchLine.linesOf m.path found).map Int.ofNat).map Command.lineOption, m.path,
    rfl, rfl, rfl, named, ?_, ?_, notEmpty, ?_, supported⟩
  · have ofFile : m.number ∈ MatchLine.linesOf m.path found :=
      List.mem_map.2 ⟨m, List.mem_filter.2 ⟨isFound, by simp⟩, rfl⟩
    simpa using List.ne_nil_of_mem ofFile
  · intro word isWord
    simp only [List.map_map, List.mem_map, MatchLine.linesOf] at isWord
    obtain ⟨other, isOther, rfl⟩ := isWord
    obtain ⟨_, -, _, _, -, -, -, -, -, positive, le⟩ :=
      MatchLine.exists_spells_of_mem understood (List.mem_filter.1 isOther).1
    exact Command.isSelection_lineOption positive le
  · intro c inPath
    refine ⟨?_, Source.plain_of_mem_readLines read isLine c (by simp [isSpelling, inPath])⟩
    rintro rfl
    exact noColon inPath

/-- No two of these calls name the same file. -/
theorem nodup_files_commands (o : Options) (found : List MatchLine) :
    ((commands o found).map fun call => call.args.getLast?).Nodup := by
  have files : ((commands o found).map fun call => call.args.getLast?) =
      ((MatchLine.paths found).filter FileType.isSupported).map some := by
    rw [commands, List.map_map]
    apply List.map_congr_left
    intro path _
    exact Command.getLast?_arguments ..
  rw [files]
  have distinct := (MatchLine.nodup_paths found).filter FileType.isSupported
  exact List.pairwise_map.2 (distinct.imp fun different same => different (Option.some.inj same))

/-- All calls that a run can make: none, or the first of those for what was understood. -/
theorem calls_run_cases (coloured : Bool) (o : Options) (runner : Runner Invocation σ)
    (input : Source) (s : σ) :
    Event.calls (run coloured o runner input s).events = [] ∨
      ∃ lines found, input.readLines = .ok lines ∧ lines.mapM MatchLine.parse = .ok found ∧
        Event.calls (run coloured o runner input s).events <+: commands o found := by
  rcases input.failed_or_malformed_or_understood with
    ⟨failure, failed⟩ | ⟨lines, read, malformed⟩ | ⟨lines, found, read, understood⟩
  · rw [run_of_failed coloured o runner s failed]
    exact .inl rfl
  · obtain ⟨before, bad, after, rfl, good, noMatch⟩ := MatchLine.exists_first_malformed malformed
    rw [run_of_malformed coloured o runner s read good noMatch]
    exact .inl rfl
  · have made := calls_run_prefix read understood coloured o runner s
    cases dry : o.dryRun with
    | true =>
      rw [calls_plan_dryRun dry, List.prefix_nil] at made
      exact .inl made
    | false =>
      rw [calls_plan_inPlace dry] at made
      exact .inr ⟨lines, found, read, understood, made⟩

end Run

namespace Program

variable {σ : Type}

/-- **Every call is a well-formed formatting command.** Whatever the arguments, the input and the
system are, the program calls nothing but the formatter that the options name, on a supported file
whose path is not empty and holds no colon and no line break, with at least one selected line, each
within bounds and in plain decimal. No file is called for twice, and no call is refused because
there is no command in it or an empty one. -/
theorem run_calls_formatting (coloured terminal : Bool) (args : List Text) (input : Source)
    (system : Spawn.System σ) (s : σ) :
    let calls := Event.calls (run coloured terminal args input system s).events
    (∀ call ∈ calls, ∃ o selections file, Options.parse args = .ok o ∧
      Command.IsFormatting call o.binary selections file) ∧
    (calls.map fun call => call.args.getLast?).Nodup ∧
    ∀ call ∈ calls,
      Spawn.refusal? call ≠ some (.refused "TypeError".toList
        "Command invocation requires at least one argument".toList none) ∧
      Spawn.refusal? call ≠ some (.refused "TypeError".toList
        "The argument 'file' cannot be empty. Received ''".toList
        (some "ERR_INVALID_ARG_VALUE".toList)) := by
  intro calls
  cases parsed : Options.parse args with
  | error stop =>
    have noCalls : calls = [] := by
      simp only [calls, run, parsed, stopEvent]
      rfl
    simp [noCalls]
  | ok o =>
    have isCalls : calls = Event.calls (Run.run coloured o (Spawn.runner system) input s).events :=
      calls_run_of_accepted parsed ..
    rcases Run.calls_run_cases coloured o (Spawn.runner system) input s with
      nothing | ⟨lines, found, read, understood, made⟩
    · rw [← isCalls] at nothing
      simp [nothing]
    · rw [← isCalls] at made
      have formatting : ∀ call ∈ calls, ∃ selections file,
          Command.IsFormatting call o.binary selections file := fun call member =>
        Run.isFormatting_of_mem_commands (Options.binary_ne_nil parsed) read understood
          (made.subset member)
      refine ⟨?_, ?_, ?_⟩
      · intro call member
        obtain ⟨selections, file, isFormatting⟩ := formatting call member
        exact ⟨o, selections, file, rfl, isFormatting⟩
      · exact (Run.nodup_files_commands o found).sublist (made.sublist.map _)
      · intro call member
        obtain ⟨selections, file, isFormatting⟩ := formatting call member
        exact isFormatting.refusal?_ne

/-- A file that is found twice is called for once, zeros are not passed on, and the largest number
is; the call for the second file will be refused for the NUL in its path. -/
theorem run_calls_formatting_nul :
    let args : List Text := ["-v", "--binary=./fmt"].map String.toList
    let input : Source :=
      ⟨["a.c:007:x\r\nn.md:1:y\na.c:9007199254740991:z\n", "\x00.h:1:"].map (.text ·.toList), none⟩
    let system : Spawn.System Unit := fun _ _ => (.exited 0 [] [], ())
    let calls := Event.calls (run false false args input system ()).events
    let first : Invocation := { args := ["./fmt", "-i", "--lines=7:7",
      "--lines=9007199254740991:9007199254740991", "a.c"].map String.toList }
    let second : Invocation :=
      { args := ["./fmt", "-i", "--lines=1:1", "\x00.h"].map String.toList }
    calls = [first, second] ∧
      (∃ o selections file, Options.parse args = .ok o ∧
        Command.IsFormatting first o.binary selections file) ∧
      (∃ o selections file, Options.parse args = .ok o ∧
        Command.IsFormatting second o.binary selections file) ∧
      (calls.map fun call => call.args.getLast?).Nodup := by
  intro args input system calls first second
  obtain ⟨formatting, distinct, -⟩ := run_calls_formatting false false args input system ()
  have isCalls : calls = [first, second] := by decide +kernel
  have firstMade : first ∈ calls := by simp [isCalls]
  have secondMade : second ∈ calls := by simp [isCalls]
  exact ⟨isCalls, formatting first firstMade, formatting second secondMade, distinct⟩

end Program
end MatchedLines
