import MatchedLines.Proofs.Grouping
import MatchedLines.Proofs.MatchLineGrammar
import MatchedLines.Proofs.RunPlan

/-! Input that cannot be used has no effect. A stream that fails ends the run before anything is
shown, and a line that reports no match ends it before anything is formatted, wherever the line
stands and whatever the lines before it ask for. -/
namespace MatchedLines

/-- Where some line is malformed, one of them is the first. -/
theorem MatchLine.exists_first_malformed {lines : List Text}
    (malformed : ∃ line ∈ lines, ∀ m, ¬ Spells line m) :
    ∃ before bad after, lines = before ++ bad :: after ∧
      (∀ line ∈ before, ∃ m, Spells line m) ∧ ∀ m, ¬ Spells bad m := by
  rcases all_or_first_exception (fun line => ∃ m, Spells line m) lines with
    allGood | ⟨before, bad, after, split, good, noMatch⟩
  · obtain ⟨line, member, noMatch⟩ := malformed
    obtain ⟨m, spelled⟩ := allGood line member
    exact absurd spelled (noMatch m)
  · exact ⟨before, bad, after, split, good, not_exists.1 noMatch⟩

/-- Lines that all spell a match are understood. -/
theorem MatchLine.exists_mapM_parse {lines : List Text}
    (good : ∀ line ∈ lines, ∃ m, Spells line m) : ∃ found, lines.mapM parse = .ok found := by
  induction lines with
  | nil => exact ⟨[], rfl⟩
  | cons line lines ih =>
    obtain ⟨m, spelled⟩ := good line (by simp)
    obtain ⟨found, understood⟩ := ih fun other member => good other (by simp [member])
    exact ⟨m :: found, by rw [mapM_parse_cons spelled.parse?, understood]; rfl⟩

/-- Behind lines that all spell a match, a line that spells none is the one that is named. -/
theorem MatchLine.mapM_parse_of_first_malformed {before after : List Text} {bad : Text}
    (good : ∀ line ∈ before, ∃ m, Spells line m) (noMatch : ∀ m, ¬ Spells bad m) :
    (before ++ bad :: after).mapM parse = .error (.inputSyntax bad) := by
  refine mapM_parse_of_malformed (fun line member => ?_) (parse?_eq_none_iff.2 noMatch)
  obtain ⟨m, spelled⟩ := good line member
  rw [spelled.parse?]
  exact Option.some_ne_none m

/-- Lines are not understood if one of them is malformed. -/
theorem MatchLine.mapM_parse_ne_ok {lines : List Text}
    (malformed : ∃ line ∈ lines, ∀ m, ¬ Spells line m) (found : List MatchLine) :
    lines.mapM parse ≠ .ok found := by
  obtain ⟨before, bad, after, rfl, good, noMatch⟩ := exists_first_malformed malformed
  rw [mapM_parse_of_first_malformed good noMatch]
  simp

/-- A stream that does not fail has lines. -/
theorem Source.readLines_of_complete {input : Source} (complete : input.failure = none) :
    ∃ lines, input.readLines = .ok lines := by
  rw [readLines, complete]
  exact ⟨_, rfl⟩

/-- An input fails, or holds a malformed line, or is understood as a whole. -/
theorem Source.failed_or_malformed_or_understood (input : Source) :
    (∃ failure, input.failure = some failure) ∨
      (∃ lines, input.readLines = .ok lines ∧ ∃ line ∈ lines, ∀ m, ¬ MatchLine.Spells line m) ∨
      ∃ lines found, input.readLines = .ok lines ∧ lines.mapM MatchLine.parse = .ok found := by
  cases ending : input.failure with
  | some failure => exact .inl ⟨failure, rfl⟩
  | none =>
    obtain ⟨lines, read⟩ := readLines_of_complete ending
    by_cases malformed : ∃ line ∈ lines, ∀ m, ¬ MatchLine.Spells line m
    · exact .inr (.inl ⟨lines, read, malformed⟩)
    · have good : ∀ line ∈ lines, ∃ m, MatchLine.Spells line m := by
        intro line member
        by_contra noMatch
        exact malformed ⟨line, member, not_exists.1 noMatch⟩
      obtain ⟨found, understood⟩ := MatchLine.exists_mapM_parse good
      exact .inr (.inr ⟨lines, found, read, understood⟩)

namespace Run

variable {σ : Type}

/-- A stream that fails is all that the run knows, and nothing happens. -/
theorem run_of_failed (coloured : Bool) (o : Options) (runner : Runner Invocation σ) (s : σ)
    {input : Source} {failure : Failure} (failed : input.failure = some failure) :
    run coloured o runner input s = ⟨[], .error failure, s⟩ := by
  simp only [run, Source.readLines, failed]

/-- The run shows the first malformed line and formats nothing. -/
theorem run_of_malformed (coloured : Bool) (o : Options) (runner : Runner Invocation σ) (s : σ)
    {input : Source} {before after : List Text} {bad : Text}
    (read : input.readLines = .ok (before ++ bad :: after))
    (good : ∀ line ∈ before, ∃ m, MatchLine.Spells line m)
    (noMatch : ∀ m, ¬ MatchLine.Spells bad m) :
    run coloured o runner input s =
      ⟨[.line .stderr (Colour.red.paint coloured
          ("Syntax error in input line: \"".toList ++ bad ++ ['"'])),
        .line .stderr (Colour.yellow.paint coloured
          "Hint: input must be line-numbered search output, e.g. `grep -n`".toList)],
        .ok 1, s⟩ := by
  have refused : Request.parse (before ++ bad :: after) = .error (.inputSyntax bad) := by
    rw [Request.parse, MatchLine.mapM_parse_of_first_malformed good noMatch]
    rfl
  rw [run, read]
  simp only [formatLines, refused, reported, report, List.nil_append]

/-- **Unusable input is refused as a whole.** If the stream fails, its failure is what the run ends
with, and nothing happens before, whatever lines had arrived. If the stream ends and one of its
lines is malformed, nothing is called, nothing goes to the output, and the error stream names the
first such line as it was read and gives the hint, with exit code one. -/
theorem run_of_bad_input (coloured : Bool) (o : Options) (runner : Runner Invocation σ)
    (input : Source) (s : σ) :
    let actual := run coloured o runner input s
    (∀ failure, input.failure = some failure →
      actual.outcome = .error failure ∧ actual.events = [] ∧ actual.state = s) ∧
    (input.failure = none → ∃ lines, input.readLines = .ok lines ∧
      ((∃ line ∈ lines, ∀ m, ¬ MatchLine.Spells line m) →
        ∃ before bad after, lines = before ++ bad :: after ∧
          (∀ line ∈ before, ∃ m, MatchLine.Spells line m) ∧ (∀ m, ¬ MatchLine.Spells bad m) ∧
          actual.outcome = .ok 1 ∧ actual.state = s ∧
          actual.events =
            [.line .stderr (Colour.red.paint coloured
              ("Syntax error in input line: \"".toList ++ bad ++ ['"'])),
            .line .stderr (Colour.yellow.paint coloured
              "Hint: input must be line-numbered search output, e.g. `grep -n`".toList)] ∧
          Event.calls actual.events = [] ∧ Event.writtenTo .stdout actual.events = [])) := by
  intro actual
  constructor
  · intro failure failed
    have read : input.readLines = .error failure := by rw [Source.readLines, failed]
    simp [actual, run, read]
  · intro complete
    obtain ⟨lines, read⟩ := Source.readLines_of_complete complete
    refine ⟨lines, read, fun malformed => ?_⟩
    obtain ⟨before, bad, after, rfl, good, noMatch⟩ := MatchLine.exists_first_malformed malformed
    have shown : actual = _ := run_of_malformed coloured o runner s read good noMatch
    refine ⟨before, bad, after, rfl, good, noMatch, ?_⟩
    rw [shown]
    exact ⟨rfl, rfl, rfl, rfl, rfl⟩

/-- Two lines that report no match stand behind one that does, the first of them with a path that
would be passed over; the same chunks in a stream that fails show nothing at all. -/
theorem run_of_bad_input_behind_good :
    let chunks : List Chunk := ["a.c:1:x\nb.py:", "0:y\nno match\n"].map (.text ·.toList)
    let o : Options := { verbose := true, dryRun := true }
    let failure : Failure := .other "Error".toList "read failed".toList (some "EIO".toList)
    let ended := run false o Runner.scripted ⟨chunks, none⟩ [.ok ()]
    let failed := run false o Runner.scripted ⟨chunks, some failure⟩ [.ok ()]
    ended.outcome = .ok 1 ∧
      ended.events =
        [.line .stderr "Syntax error in input line: \"b.py:0:y\"".toList,
          .line .stderr
            "Hint: input must be line-numbered search output, e.g. `grep -n`".toList] ∧
      failed.outcome = .error failure ∧ failed.events = [] := by
  intro chunks o failure ended failed
  obtain ⟨passedOn, silent, -⟩ :=
    (run_of_bad_input false o Runner.scripted ⟨chunks, some failure⟩ [.ok ()]).1 failure rfl
  obtain ⟨lines, read, refused⟩ :=
    (run_of_bad_input false o Runner.scripted ⟨chunks, none⟩ [.ok ()]).2 rfl
  have isLines : lines = ["a.c:1:x", "b.py:0:y", "no match"].map String.toList :=
    (Except.ok.inj read).symm
  have zero : ∀ m, ¬ MatchLine.Spells "b.py:0:y".toList m :=
    MatchLine.parse?_eq_none_iff.1 (by decide)
  have malformed : ∃ line ∈ lines, ∀ m, ¬ MatchLine.Spells line m :=
    ⟨_, by simp [isLines], zero⟩
  obtain ⟨before, bad, after, split, good, noMatch, exitCode, -, shown, -, -⟩ := refused malformed
  have isSecond : bad = "b.py:0:y".toList := by
    rw [isLines] at split
    rcases before with _ | ⟨first, _ | ⟨second, rest⟩⟩
    · obtain ⟨rfl, -⟩ := List.cons.inj split
      exact absurd (MatchLine.Spells.of_parse? rfl) (noMatch ⟨"a.c".toList, 1⟩)
    · exact (List.cons.inj (List.cons.inj split).2).1.symm
    · obtain ⟨rfl, -⟩ := List.cons.inj (List.cons.inj split).2
      obtain ⟨m, spelled⟩ := good "b.py:0:y".toList (by simp)
      exact absurd spelled (zero m)
  subst isSecond
  exact ⟨exitCode, shown, passedOn, silent⟩

end Run
end MatchedLines
