import MatchedLines.Proofs.ExitCodes
import MatchedLines.Proofs.RunPrefix

/-! Which failures can be seen. Whatever goes wrong, the program says so on its error stream in
words of its own, with one exception: of a formatter that ran and failed it passes on what the
formatter wrote there, and says nothing if that is nothing. So the user sees every failure but
those of a formatter that fails without a word (`failure_shown_iff`). -/
namespace MatchedLines

/-- What stops the program as a failure is put in words. -/
theorem Options.Stop.message_ne_nil {stop : Options.Stop} (failure : stop.exitCode ≠ 0) :
    stop.message ≠ [] := by
  cases stop with
  | version => exact absurd rfl failure
  | help => exact absurd rfl failure
  | missingBinary => exact List.cons_ne_nil 'e' _
  | unknownOption arg => exact List.cons_ne_nil 'e' _
  | tooManyOperands count => exact List.cons_ne_nil 'e' _
  | emptyBinary => exact List.cons_ne_nil 'E' _

namespace Program

variable {σ : Type} {coloured : Bool} {o : Options} {input : Source} {system : Spawn.System σ}
  {s : σ}

/-- Of a failure something is shown, as a report or as a fatal failure, unless it is silent. -/
theorem shown_of_failure (coloured : Bool) (f : Failure) :
    Event.writtenTo .stderr (Run.reportEvents coloured (.error f) ++
      fatalEvents coloured (Run.result (.error f))) = [] ↔ f.isSilent = true := by
  cases f with
  | childProcess command exitCode stdout stderr =>
    simp [Run.reportEvents, Run.report, Run.result, fatalEvents, Event.writtenTo,
      Failure.isSilent]
  | inputSyntax line =>
    exact iff_of_false (Event.writtenTo_line _ _ _) (by simp [Failure.isSilent])
  | environment obstacle command =>
    exact iff_of_false (Event.writtenTo_line _ _ _) (by simp [Failure.isSilent])
  | other className message code =>
    exact iff_of_false (Event.writtenTo_line _ _ _) (by simp [Failure.isSilent])
  | bare message =>
    exact iff_of_false (Event.writtenTo_line _ _ _) (by simp [Failure.isSilent])

/-- A stream that fails is seen to fail. -/
theorem work_shown_of_failed {failure : Failure} (failed : input.failure = some failure) :
    Event.writtenTo .stderr (work coloured o input system s).events ≠ [] := by
  rw [work_eq coloured o input system s (Run.run_of_failed coloured o _ s failed)]
  exact Event.writtenTo_line _ _ _

/-- A malformed line is seen. -/
theorem work_shown_of_malformed {lines : List Text} (read : input.readLines = .ok lines)
    (malformed : ∃ line ∈ lines, ∀ m, ¬ MatchLine.Spells line m) :
    Event.writtenTo .stderr (work coloured o input system s).events ≠ [] := by
  obtain ⟨before, bad, after, rfl, good, noMatch⟩ := MatchLine.exists_first_malformed malformed
  rw [work_eq coloured o input system s (Run.run_of_malformed coloured o _ s read good noMatch)]
  exact Event.writtenTo_line _ _ _

/-- On input that was understood, the first command that does not succeed decides whether the
program fails and whether anything is shown then. -/
theorem work_shown_of_understood {lines : List Text} {found : List MatchLine}
    (read : input.readLines = .ok lines) (understood : lines.mapM MatchLine.parse = .ok found) :
    let exit := work coloured o input system s
    (exit.code ≠ 0 → Event.writtenTo .stderr exit.events ≠ []) ↔
      ¬ (o.dryRun = false ∧ ∃ bad,
        (Spawn.attempts system (Run.commands o found) s).find? (!·.isSuccess) = some bad ∧
          bad.isSilent = true) := by
  intro exit
  have isExit : exit = _ := work_eq coloured o input system s
    ((Run.run_eq_perform read understood coloured o _ s).trans (Run.reported_eq coloured _))
  rw [isExit]
  cases dry : o.dryRun with
  | true =>
    rcases Run.outcome_perform system
        (Run.plan coloured o.verbose (Run.formatter coloured o) (Request.grouped found)) s with
      ⟨-, ended⟩ | ⟨bad, f, search, -⟩
    · simp [ended, Run.result, codeOf]
    · simp [Run.calls_plan_dryRun dry, Spawn.attempts] at search
  | false =>
    have planned : Event.writtenTo .stderr (Run.plan coloured o.verbose (Run.formatter coloured o)
        (Request.grouped found)) = [] := Run.writtenTo_stderr_plan dry _
    generalize isPlan : Run.plan coloured o.verbose (Run.formatter coloured o)
      (Request.grouped found) = plan at planned ⊢
    have calls : Event.calls plan = Run.commands o found := by
      rw [← isPlan, Run.calls_plan_inPlace dry]
    -- Formatting shows nothing there itself, so what is seen is the report.
    have happened : (Session.perform (Spawn.runner system) plan s).events <+: plan :=
      Session.events_perform_prefix plan s
    obtain ⟨rest, isPrefix⟩ := happened
    rw [← isPrefix, Event.writtenTo_append, List.append_eq_nil_iff] at planned
    rw [List.append_assoc, Event.writtenTo_append, planned.1, List.nil_append]
    rcases Run.outcome_perform system plan s with
      ⟨search, ended⟩ | ⟨bad, f, search, ended, notZero, silent, -⟩
    · rw [calls] at search
      simp [ended, search, Run.result, codeOf]
    · rw [calls] at search
      have failed : codeOf (Run.result (.error f)) ≠ 0 := by
        rw [codeOf_result]
        exact notZero
      have shown := shown_of_failure coloured f
      rw [silent] at shown
      simp [ended, search, failed, shown]

/-- **A failure is shown, unless the formatter failed without a word.** On input that is not typed,
whatever the arguments and the system are, a program that ends with a code other than zero has
written to its error stream, and the only exception is this: all input was understood, the run was
in earnest, and the first command that did not succeed had run and left its own error stream empty,
whether it ended with a status or was killed. -/
theorem failure_shown_iff (coloured : Bool) (args : List Text) (input : Source)
    (system : Spawn.System σ) (s : σ) :
    let exit := run coloured false args input system s
    (exit.code ≠ 0 → Event.writtenTo .stderr exit.events ≠ []) ↔
      ¬ ∃ o lines found bad, Options.parse args = .ok o ∧ o.dryRun = false ∧
        input.readLines = .ok lines ∧ lines.mapM MatchLine.parse = .ok found ∧
        (Spawn.attempts system (Run.commands o found) s).find? (!·.isSuccess) = some bad ∧
        bad.isSilent = true := by
  intro exit
  cases parsed : Options.parse args with
  | error stop =>
    have isExit : exit = ⟨[stopEvent stop], stop.exitCode, s⟩ := by
      simp only [exit, run, parsed]
    rw [isExit]
    refine iff_of_true (fun failure => ?_) (by simp)
    simpa [stopEvent, failure, Event.writtenTo] using Options.Stop.message_ne_nil failure
  | ok o =>
    have isExit : exit = work coloured o input system s := by
      simp only [exit, run, parsed, opening]
      simp
    rw [isExit]
    rcases input.failed_or_malformed_or_understood with
      ⟨failure, failed⟩ | ⟨lines, read, malformed⟩ | ⟨lines, found, read, understood⟩
    · refine iff_of_true (fun _ => work_shown_of_failed failed) ?_
      rintro ⟨-, lines, -, -, -, -, read, -⟩
      simp [Source.readLines, failed] at read
    · refine iff_of_true (fun _ => work_shown_of_malformed read malformed) ?_
      rintro ⟨-, lines', found, -, -, -, read', understood, -⟩
      rw [read] at read'
      cases read'
      exact MatchLine.mapM_parse_ne_ok malformed found understood
    · refine (work_shown_of_understood read understood).trans ?_
      simp [read, understood]

/-- A formatter ends with status three and writes nothing: the program ends with that status and
shows nothing. -/
theorem failure_hidden :
    let args : List Text := ["--binary", "./fmt"].map String.toList
    let input : Source := ⟨[.text "a.c:1:x\n".toList], none⟩
    let system : Spawn.System Unit := fun _ _ => (.exited 3 [] [], ())
    let exit := run false false args input system ()
    exit.code = 3 ∧ Event.writtenTo .stderr exit.events = [] ∧
      ¬ (exit.code ≠ 0 → Event.writtenTo .stderr exit.events ≠ []) := by
  intro args input system exit
  have code : exit.code = 3 := by decide +kernel
  have nothing : Event.writtenTo .stderr exit.events = [] := by decide +kernel
  exact ⟨code, nothing, fun shown => shown (by simp [code]) nothing⟩

end Program
end MatchedLines
