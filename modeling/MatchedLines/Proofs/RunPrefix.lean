import MatchedLines.Proofs.RunPlan

/-! A run that fails is the beginning of the run that succeeds. Whatever runner is used, what
happens up to and including the first call that fails is what would have happened if every call had
succeeded, and nothing comes after it but the report of the failure. -/
namespace MatchedLines.Run

variable {σ : Type}

/-- A plan in earnest writes nothing to the error stream. -/
theorem writtenTo_stderr_plan {coloured : Bool} {o : Options} (inEarnest : o.dryRun = false)
    (request : Request) :
    Event.writtenTo .stderr (plan coloured o.verbose (formatter coloured o) request) = [] := by
  induction request with
  | nil => rfl
  | cons g rest ih =>
    have later : Event.writtenTo .stderr (rest.flatMap _) = [] := ih
    rw [plan, List.flatMap_cons, Event.writtenTo_append, later, formatter, inEarnest]
    by_cases supported : FileType.isSupported g.path = true <;> cases o.verbose <;>
      simp [supported, Formatter.inPlace, skipNotice, Event.line, Event.writtenTo]

/-- The run whose calls all succeed does all that is planned. -/
theorem run_succeeding {input : Source} {lines : List Text} {found : List MatchLine}
    (read : input.readLines = .ok lines) (understood : lines.mapM MatchLine.parse = .ok found)
    (coloured : Bool) (o : Options) :
    (run coloured o Runner.succeeding input ()).events =
      plan coloured o.verbose (formatter coloured o) (Request.grouped found) := by
  obtain ⟨events, outcome⟩ := Session.perform_of_ok (Runner.outcomes_succeeding
    (Event.calls (plan coloured o.verbose (formatter coloured o) (Request.grouped found))))
  rw [run_eq_perform read understood, reported_of_ok outcome, events]

/-- **A failing run is an exact prefix.** The input is one whose lines were all understood, the run
is in earnest, and `answers` are the runner's outcomes for the calls of the run that succeeds. If
the first failure among them is the `k`-th, the run does what the successful one does through its
`k`-th call, and then shows what belongs to the kind of failure, with the exit code that stands for
it; a failure of no known kind is passed on without a word. If no answer is a failure, the run ends
well and the error stream stays empty. -/
theorem run_of_first_failure (coloured : Bool) {o : Options} (runner : Runner Invocation σ) (s : σ)
    {input : Source} {lines : List Text} {found : List MatchLine}
    (read : input.readLines = .ok lines) (understood : lines.mapM MatchLine.parse = .ok found)
    (inEarnest : o.dryRun = false) :
    let ideal := run coloured o Runner.succeeding input ()
    let actual := run coloured o runner input s
    let answers := runner.outcomes (Event.calls ideal.events) s
    (∀ before failure after, answers = before ++ .error failure :: after →
      (∀ outcome ∈ before, outcome = .ok ()) →
      let reached := Event.through (before.length + 1) ideal.events
      Event.calls actual.events = (Event.calls ideal.events).take (before.length + 1) ∧
      match failure with
      | .environment obstacle command =>
        actual.outcome = .ok 1 ∧
        actual.events = reached ++ [.line .stderr (Colour.red.paint coloured
          ("Error: ".toList ++ (Failure.environment obstacle command).message))]
      | .childProcess _ exitCode _ stderr =>
        actual.outcome = .ok exitCode ∧ actual.events = reached ++ [.write .stderr stderr]
      | .inputSyntax line =>
        actual.outcome = .ok 1 ∧
        actual.events = reached ++
          [.line .stderr (Colour.red.paint coloured
            ("Syntax error in input line: \"".toList ++ line ++ ['"'])),
          .line .stderr (Colour.yellow.paint coloured
            "Hint: input must be line-numbered search output, e.g. `grep -n`".toList)]
      | .other _ _ _ | .bare _ =>
        actual.outcome = .error failure ∧ actual.events = reached) ∧
    ((∀ outcome ∈ answers, outcome = .ok ()) →
      actual.outcome = .ok 0 ∧ actual.events = ideal.events ∧
        Event.writtenTo .stderr actual.events = []) := by
  simp only [run_succeeding read understood, run_eq_perform read understood coloured o runner]
  constructor
  · intro before failure after answers ok
    obtain ⟨events, outcome⟩ := Session.perform_of_error answers ok
    refine ⟨by rw [calls_reported, events, Event.calls_through], ?_⟩
    cases failure <;> simp [reported, report, outcome, events]
  · intro ok
    obtain ⟨events, outcome⟩ := Session.perform_of_ok ok
    rw [reported_of_ok outcome, events]
    exact ⟨rfl, rfl, writtenTo_stderr_plan inEarnest _⟩

/-- The second of three calls fails, behind a file that is passed over. -/
theorem run_of_first_failure_second :
    let input : Source :=
      ⟨["a.c:1:x\nb.py:2:y\n", "c.h:3:z\nc.h:3:z\n", "d.c:4:w"].map (.text ·.toList), none⟩
    let o : Options := { verbose := true }
    let failure : Failure := .childProcess [] 7 [] "c.h: parse error\n".toList
    let ideal := run false o Runner.succeeding input ()
    let actual := run false o Runner.scripted input [.ok (), .error failure]
    let command (path : Text) (lines : List Int) : Event Invocation :=
      .call { args := Command.arguments o.binary path lines }
    Runner.scripted.outcomes (Event.calls ideal.events) [.ok (), .error failure] =
        [.ok (), .error failure, .ok ()] ∧
      actual.outcome = .ok 7 ∧
      actual.events =
        [.line .stdout "Formatting a.c (1 line)".toList, command "a.c".toList [1],
          .line .stdout "Skipping b.py: unsupported file type".toList,
          .line .stdout "Formatting c.h (2 lines)".toList, command "c.h".toList [3, 3],
          .write .stderr "c.h: parse error\n".toList] ∧
      (run false o Runner.scripted input [.ok (), .ok (), .ok ()]).outcome = .ok 0 := by
  intro input o failure ideal actual command
  have read : input.readLines =
      .ok (["a.c:1:x", "b.py:2:y", "c.h:3:z", "c.h:3:z", "d.c:4:w"].map String.toList) := rfl
  have understood : (["a.c:1:x", "b.py:2:y", "c.h:3:z", "c.h:3:z", "d.c:4:w"].map
      String.toList).mapM MatchLine.parse = .ok [⟨"a.c".toList, 1⟩, ⟨"b.py".toList, 2⟩,
        ⟨"c.h".toList, 3⟩, ⟨"c.h".toList, 3⟩, ⟨"d.c".toList, 4⟩] := rfl
  have inEarnest : o.dryRun = false := rfl
  have answers : Runner.scripted.outcomes (Event.calls ideal.events) [.ok (), .error failure] =
      [.ok ()] ++ .error failure :: [.ok ()] := rfl
  obtain ⟨-, outcome, events⟩ := (run_of_first_failure false Runner.scripted
    [.ok (), .error failure] read understood inEarnest).1 _ _ _ answers (by simp)
  obtain ⟨outcomeOfOk, -, -⟩ := (run_of_first_failure false Runner.scripted
    [.ok (), .ok (), .ok ()] read understood inEarnest).2 (by decide)
  exact ⟨answers, outcome, events, outcomeOfOk⟩

end MatchedLines.Run
