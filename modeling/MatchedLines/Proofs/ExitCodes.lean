import MatchedLines.Program
import MatchedLines.Proofs.InputFailure
import MatchedLines.Proofs.RunCoverage
import MatchedLines.Proofs.Utf8Streams

/-! The exit code of the program says how it fared, and it cannot say so falsely. Options that are
not accepted bring their own code, unusable input is one, and after that the code is that of the
first command which did not end with status zero. One command is settled at a time
(`Outcome.result_cases`), a whole run by induction on what it plans (`outcome_perform`). -/
namespace MatchedLines

/-- The exit code that stands for a failure. Only a command that failed brings its own. -/
def Failure.exitCode : Failure → Int
  | .childProcess _ exitCode _ _ => exitCode
  | .inputSyntax _ | .environment _ _ | .other _ _ _ | .bare _ => 1

/-- Whether all that is shown for the failure is an empty text. -/
def Failure.isSilent : Failure → Bool
  | .childProcess _ _ _ stderr => stderr.isEmpty
  | .inputSyntax _ | .environment _ _ | .other _ _ _ | .bare _ => false

theorem Options.Stop.exitCode_bounds (stop : Options.Stop) :
    0 ≤ stop.exitCode ∧ stop.exitCode ≤ 255 := by
  cases stop <;> simp [exitCode]

namespace Spawn

variable {σ : Type}

namespace Outcome

/-- What a system can answer: a status fits into a byte, and a signal is one that has a name. -/
def IsPossible : Outcome → Prop
  | refused _ _ _ | failed _ => True
  | exited status _ _ => status ≤ 255
  | killed signal _ _ => 1 ≤ signal ∧ signal ≤ 31

/-- Whether the command ran and ended with status zero. -/
def isSuccess : Outcome → Bool
  | exited status _ _ => status = 0
  | refused _ _ _ | failed _ | killed _ _ _ => false

/-- The exit code that tells of the outcome: the command's own status, as shells count it when a
signal ended the command, and one if the command never ran to an end. -/
def exitCode : Outcome → Int
  | refused _ _ _ | failed _ => 1
  | exited status _ _ => status
  | killed signal _ _ => 128 + signal

/-- Whether a command ran and wrote nothing to its error stream. -/
def isSilent : Outcome → Bool
  | exited _ _ stderr | killed _ _ stderr => stderr.isEmpty
  | refused _ _ _ | failed _ => false

theorem exitCode_bounds {outcome : Outcome} (possible : outcome.IsPossible) :
    0 ≤ outcome.exitCode ∧ outcome.exitCode ≤ 255 := by
  cases outcome <;> simp only [IsPossible, exitCode] at possible ⊢ <;> omega

/-- No failure passes for a success. -/
theorem exitCode_eq_zero_iff (outcome : Outcome) :
    outcome.exitCode = 0 ↔ outcome.isSuccess = true := by
  cases outcome with
  | refused => simp [exitCode, isSuccess]
  | failed => simp [exitCode, isSuccess]
  | exited => simp [exitCode, isSuccess]
  | killed signal =>
    have positive : (128 + signal : Int) ≠ 0 := by omega
    simp [exitCode, isSuccess, positive]

theorem isEmpty_decode (bytes : Bytes) : (Utf8.decode bytes).isEmpty = bytes.isEmpty := by
  cases bytes with
  | nil => rfl
  | cons b bytes =>
    rw [List.isEmpty_cons, List.isEmpty_eq_false_iff]
    exact Utf8.decode_ne_nil (by simp)

/-- All that an outcome can mean: the command has a result, or there is a failure that passes for no
success, is as silent as the command was, and has the exit code of the outcome. -/
theorem result_cases (outcome : Outcome) (args : List Text) :
    (outcome.isSuccess = true ∧ ∃ result, outcome.result args = .ok result) ∨
      (outcome.isSuccess = false ∧ ∃ f, outcome.result args = .error f ∧ f.exitCode ≠ 0 ∧
        f.isSilent = outcome.isSilent ∧ (outcome.IsPossible → f.exitCode = outcome.exitCode)) := by
  cases outcome with
  | refused className message code =>
    exact .inr ⟨rfl, _, rfl, by simp [Failure.exitCode], rfl, fun _ => rfl⟩
  | failed errno =>
    refine .inr ⟨rfl, ?_⟩
    simp only [result]
    split
    · exact ⟨_, rfl, by simp [Failure.exitCode], rfl, fun _ => rfl⟩
    · split
      · exact ⟨_, rfl, by simp [Failure.exitCode], rfl, fun _ => rfl⟩
      · exact ⟨_, rfl, by simp [Failure.exitCode], rfl, fun _ => rfl⟩
  | exited status out err =>
    by_cases zero : status = 0
    · exact .inl ⟨by simp [isSuccess, zero], _, if_pos zero⟩
    · exact .inr ⟨by simp [isSuccess, zero], _, if_neg zero, by simpa [Failure.exitCode] using zero,
        isEmpty_decode err, fun _ => rfl⟩
  | killed signal out err =>
    have notZero : signalStatus signal ≠ 0 := by
      rw [signalStatus]
      split <;> omega
    refine .inr ⟨rfl, _, if_neg notZero, by simpa [Failure.exitCode] using notZero,
      isEmpty_decode err, fun possible => ?_⟩
    have named : signalStatus signal = 128 + signal := if_pos (by have := possible.2; omega)
    simp [Failure.exitCode, exitCode, named]

end Outcome

/-- How commands end that are attempted one after another, each on the system that the one before
it left. Whether an earlier one succeeded makes no difference here. -/
def attempts (system : System σ) : List Invocation → σ → List Outcome
  | [], _ => []
  | i :: rest, s => (attempt system i s).1 :: attempts system rest (attempt system i s).2

/-- The exit code after attempts: that of the first which did not succeed, or zero. -/
def exitCode (outcomes : List Outcome) : Int :=
  (outcomes.find? (!·.isSuccess)).elim 0 Outcome.exitCode

/-- What is answered before anything is tried is a refusal. -/
theorem isPossible_of_refusal {i : Invocation} {outcome : Outcome}
    (refusal : refusal? i = some outcome) : outcome.IsPossible := by
  rw [refusal?] at refusal
  split at refusal
  · cases refusal
    trivial
  · split at refusal
    · cases refusal
      trivial
    · split at refusal
      · cases refusal
        trivial
      · split at refusal
        · cases refusal
          trivial
        · split at refusal
          · split at refusal
            · cases refusal
              trivial
            · cases refusal
          · cases refusal

variable {system : System σ}

theorem attempt_isPossible (possible : ∀ i s, (system i s).1.IsPossible) (i : Invocation) (s : σ) :
    (attempt system i s).1.IsPossible := by
  rw [attempt]
  cases refusal : refusal? i with
  | some outcome => exact isPossible_of_refusal refusal
  | none => exact possible i s

theorem isPossible_of_mem_attempts (possible : ∀ i s, (system i s).1.IsPossible)
    {calls : List Invocation} {s : σ} {outcome : Outcome}
    (member : outcome ∈ attempts system calls s) : outcome.IsPossible := by
  induction calls generalizing s with
  | nil => cases member
  | cons i rest ih =>
    rcases List.mem_cons.1 member with rfl | later
    · exact attempt_isPossible possible i s
    · exact ih later

theorem exitCode_bounds_of_attempts (possible : ∀ i s, (system i s).1.IsPossible)
    (calls : List Invocation) (s : σ) :
    0 ≤ exitCode (attempts system calls s) ∧ exitCode (attempts system calls s) ≤ 255 := by
  rw [exitCode]
  cases search : (attempts system calls s).find? (!·.isSuccess) with
  | none => decide
  | some bad =>
    have member : bad ∈ attempts system calls s := List.mem_of_find?_eq_some search
    exact Outcome.exitCode_bounds (isPossible_of_mem_attempts possible member)

/-- The exit code is zero only if nothing failed. -/
theorem exitCode_attempts_eq_zero_iff (outcomes : List Outcome) :
    exitCode outcomes = 0 ↔ ∀ outcome ∈ outcomes, outcome.isSuccess = true := by
  rw [exitCode]
  cases search : outcomes.find? (!·.isSuccess) with
  | none => simpa using List.find?_eq_none.1 search
  | some bad =>
    have failed : bad.isSuccess = false := by simpa using List.find?_some search
    have notZero : bad.exitCode ≠ 0 := by simp [Outcome.exitCode_eq_zero_iff, failed]
    refine iff_of_false notZero fun all => ?_
    rw [all bad (List.mem_of_find?_eq_some search)] at failed
    cases failed

end Spawn

namespace Run

variable {σ : Type}

/-- The exit code that stands for the way in which work ended. -/
def exitCode : Except Failure Unit → Int
  | .ok () => 0
  | .error f => f.exitCode

/-- How planned calls end: well if every attempt succeeds, and with the failure of the first attempt
that does not. What later attempts would come to is not looked at. -/
theorem outcome_perform (system : Spawn.System σ) (events : List (Event Invocation)) (s : σ) :
    let outcome := (Session.perform (Spawn.runner system) events s).outcome
    let first := (Spawn.attempts system (Event.calls events) s).find? (!·.isSuccess)
    (first = none ∧ outcome = .ok ()) ∨
      ∃ bad f, first = some bad ∧ outcome = .error f ∧ f.exitCode ≠ 0 ∧
        f.isSilent = bad.isSilent ∧ (bad.IsPossible → f.exitCode = bad.exitCode) := by
  induction events generalizing s with
  | nil => exact .inl ⟨rfl, rfl⟩
  | cons e rest ih =>
    cases e with
    | write stream text =>
      have later : (Session.perform (Spawn.runner system) (.write stream text :: rest) s).outcome =
          (Session.perform (Spawn.runner system) rest s).outcome := by
        simp [Session.perform, Session.print, Session.andThen]
      simp only [later]
      exact ih s
    | call what =>
      have answer : Spawn.runner system what s =
          (((Spawn.attempt system what s).1.result what.args).map fun _ => (),
            (Spawn.attempt system what s).2) := rfl
      have first : Event.calls (.call what :: rest) = what :: Event.calls rest := rfl
      rw [first, Spawn.attempts]
      rcases (Spawn.attempt system what s).1.result_cases what.args with
        ⟨success, result, ended⟩ | ⟨failed, f, ended, meaning⟩
      · simpa [success, Session.perform, Session.call, Session.andThen, answer, ended, Except.map]
          using ih (Spawn.attempt system what s).2
      · refine .inr ⟨_, f, by simp [failed], ?_, meaning⟩
        simp [Session.perform, Session.call, Session.andThen, answer, ended, Except.map]

/-- The exit code after planned calls is that of the first call that did not succeed. -/
theorem exitCode_perform {system : Spawn.System σ} (possible : ∀ i s, (system i s).1.IsPossible)
    (events : List (Event Invocation)) (s : σ) :
    exitCode (Session.perform (Spawn.runner system) events s).outcome =
      Spawn.exitCode (Spawn.attempts system (Event.calls events) s) := by
  rw [Spawn.exitCode]
  rcases outcome_perform system events s with
    ⟨allGood, ended⟩ | ⟨bad, f, search, ended, -, -, code⟩
  · rw [allGood, ended]
    rfl
  · rw [search, ended]
    exact code (Spawn.isPossible_of_mem_attempts possible (List.mem_of_find?_eq_some search))

end Run

namespace Program

variable {σ : Type}

/-- The exit code that stands for the way in which a run ended. -/
def codeOf : Except Failure Int → Int
  | .ok code => code
  | .error _ => 1

/-- What the program itself adds to what a run showed. -/
def fatalEvents (coloured : Bool) : Except Failure Int → List (Event Invocation)
  | .ok _ => []
  | .error f => [fatal coloured f]

theorem work_eq (coloured : Bool) (o : Options) (input : Source) (system : Spawn.System σ) (s : σ)
    {x : Session Invocation σ Int} (isRun : Run.run coloured o (Spawn.runner system) input s = x) :
    work coloured o input system s =
      ⟨x.events ++ fatalEvents coloured x.outcome, codeOf x.outcome, x.state⟩ := by
  rw [work, isRun]
  cases x.outcome <;> simp [fatalEvents, codeOf]

theorem work_code (coloured : Bool) (o : Options) (input : Source) (system : Spawn.System σ)
    (s : σ) :
    (work coloured o input system s).code =
      codeOf (Run.run coloured o (Spawn.runner system) input s).outcome := by
  rw [work_eq coloured o input system s rfl]

/-- With options that were accepted, the program is a prompt, a run and a last word. -/
theorem run_of_accepted {args : List Text} {o : Options} (accepted : Options.parse args = .ok o)
    (coloured terminal : Bool) (input : Source) (system : Spawn.System σ) (s : σ)
    {x : Session Invocation σ Int} (isRun : Run.run coloured o (Spawn.runner system) input s = x) :
    run coloured terminal args input system s =
      ⟨opening coloured terminal ++ (x.events ++ fatalEvents coloured x.outcome),
        codeOf x.outcome, x.state⟩ := by
  rw [run, accepted]
  simp only [work_eq coloured o input system s isRun]

/-- The program makes the calls of its run; a prompt and a fatal failure are only shown. -/
theorem calls_run_of_accepted {args : List Text} {o : Options}
    (accepted : Options.parse args = .ok o) (coloured terminal : Bool) (input : Source)
    (system : Spawn.System σ) (s : σ) :
    Event.calls (run coloured terminal args input system s).events =
      Event.calls (Run.run coloured o (Spawn.runner system) input s).events := by
  have prompted : Event.calls (opening coloured terminal) = [] := by cases terminal <;> rfl
  have lastWord (outcome : Except Failure Int) :
      Event.calls (fatalEvents coloured outcome) = [] := by
    cases outcome <;> rfl
  rw [run_of_accepted accepted coloured terminal input system s rfl]
  simp only [Event.calls_append, prompted, lastWord, List.nil_append, List.append_nil]

/-- Whether a failure is reported or is fatal makes no difference to the exit code. -/
theorem codeOf_result (outcome : Except Failure Unit) :
    codeOf (Run.result outcome) = Run.exitCode outcome := by
  cases outcome with
  | ok => rfl
  | error f => cases f <;> rfl

variable {system : Spawn.System σ} {coloured : Bool} {o : Options} {input : Source} {s : σ}

theorem work_code_of_failed {failure : Failure} (failed : input.failure = some failure) :
    (work coloured o input system s).code = 1 := by
  rw [work_code, Run.run_of_failed coloured o _ s failed]
  rfl

theorem work_code_of_malformed {lines : List Text} (read : input.readLines = .ok lines)
    (malformed : ∃ line ∈ lines, ∀ m, ¬ MatchLine.Spells line m) :
    (work coloured o input system s).code = 1 := by
  obtain ⟨before, bad, after, rfl, good, noMatch⟩ := MatchLine.exists_first_malformed malformed
  rw [work_code, Run.run_of_malformed coloured o _ s read good noMatch]
  rfl

/-- On input that was understood, the commands alone decide. -/
theorem work_code_of_understood (possible : ∀ i s, (system i s).1.IsPossible) {lines : List Text}
    {found : List MatchLine} (read : input.readLines = .ok lines)
    (understood : lines.mapM MatchLine.parse = .ok found) :
    (work coloured o input system s).code =
      if o.dryRun then 0 else Spawn.exitCode (Spawn.attempts system (Run.commands o found) s) := by
  rw [work_code, Run.run_eq_perform read understood, Run.reported_eq, codeOf_result,
    Run.exitCode_perform possible]
  cases dry : o.dryRun with
  | true =>
    rw [Run.calls_plan_dryRun dry]
    rfl
  | false =>
    rw [Run.calls_plan_inPlace dry]
    rfl

theorem work_code_bounds (possible : ∀ i s, (system i s).1.IsPossible) :
    0 ≤ (work coloured o input system s).code ∧ (work coloured o input system s).code ≤ 255 := by
  rcases input.failed_or_malformed_or_understood with
    ⟨failure, failed⟩ | ⟨lines, read, malformed⟩ | ⟨lines, found, read, understood⟩
  · rw [work_code_of_failed failed]
    decide
  · rw [work_code_of_malformed read malformed]
    decide
  · rw [work_code_of_understood possible read understood]
    split
    · decide
    · exact Spawn.exitCode_bounds_of_attempts possible _ _

theorem work_code_eq_zero_iff (possible : ∀ i s, (system i s).1.IsPossible) :
    (work coloured o input system s).code = 0 ↔ ∃ lines found, input.readLines = .ok lines ∧
      lines.mapM MatchLine.parse = .ok found ∧
      (o.dryRun = false →
        ∀ outcome ∈ Spawn.attempts system (Run.commands o found) s, outcome.isSuccess = true) := by
  constructor
  · intro zero
    rcases input.failed_or_malformed_or_understood with
      ⟨failure, failed⟩ | ⟨lines, read, malformed⟩ | ⟨lines, found, read, understood⟩
    · rw [work_code_of_failed failed] at zero
      cases zero
    · rw [work_code_of_malformed read malformed] at zero
      cases zero
    · refine ⟨lines, found, read, understood, fun inEarnest => ?_⟩
      rw [work_code_of_understood possible read understood, inEarnest,
        if_neg Bool.false_ne_true] at zero
      exact (Spawn.exitCode_attempts_eq_zero_iff _).1 zero
  · rintro ⟨lines, found, read, understood, formatted⟩
    rw [work_code_of_understood possible read understood]
    split
    · rfl
    · rename_i inEarnest
      exact (Spawn.exitCode_attempts_eq_zero_iff _).2 (formatted (by simpa using inEarnest))

/-- **The exit code is faithful.** The program has one exit, and its code fits into a byte. If the
options are not accepted the code is theirs, nothing is run, and no input would change that. With
options, the code is one if the stream fails or a line is malformed, and it is zero after a dry
run. A run in earnest attempts to format the supported files in the order of first appearance, and
the code is that of the first attempt which is no success. So zero means that all was read,
understood and, in earnest, formatted. -/
theorem run_exitCode (coloured terminal : Bool) (args : List Text) (input : Source)
    (possible : ∀ i s, (system i s).1.IsPossible) (s : σ) :
    let exit := run coloured terminal args input system s
    (0 ≤ exit.code ∧ exit.code ≤ 255) ∧
    (∀ stop, Options.parse args = .error stop →
      exit.code = stop.exitCode ∧ Event.calls exit.events = [] ∧ exit.state = s ∧
        ∀ other, run coloured terminal args other system s = exit) ∧
    ∀ o, Options.parse args = .ok o →
      (∀ failure, input.failure = some failure → exit.code = 1) ∧
      (∀ lines, input.readLines = .ok lines →
        (∃ line ∈ lines, ∀ m, ¬ MatchLine.Spells line m) → exit.code = 1) ∧
      (∀ lines found, input.readLines = .ok lines → lines.mapM MatchLine.parse = .ok found →
        exit.code =
          if o.dryRun then 0
          else Spawn.exitCode (Spawn.attempts system (Run.commands o found) s)) ∧
      (exit.code = 0 ↔ ∃ lines found, input.readLines = .ok lines ∧
        lines.mapM MatchLine.parse = .ok found ∧
        (o.dryRun = false →
          ∀ outcome ∈ Spawn.attempts system (Run.commands o found) s,
            outcome.isSuccess = true)) := by
  cases parsed : Options.parse args with
  | error stop =>
    have isExit (other : Source) : run coloured terminal args other system s =
        ⟨[stopEvent stop], stop.exitCode, s⟩ := by
      rw [run, parsed]
    rw [isExit]
    refine ⟨stop.exitCode_bounds, ?_, fun o accepted => by cases accepted⟩
    intro other isStop
    cases isStop
    exact ⟨rfl, rfl, rfl, isExit⟩
  | ok o =>
    have isCode : (run coloured terminal args input system s).code =
        (work coloured o input system s).code := by
      rw [run, parsed]
    simp only [isCode]
    refine ⟨work_code_bounds possible, fun stop refused => (by cases refused), ?_⟩
    intro o' isOptions
    cases isOptions
    exact ⟨fun _ => work_code_of_failed, fun _ => work_code_of_malformed,
      fun _ _ => work_code_of_understood possible, work_code_eq_zero_iff possible⟩

/-- The second formatter is killed, so the third is as if it never were. -/
theorem run_exitCode_killed :
    let args : List Text := ["-v".toList]
    let o : Options := { verbose := true }
    let input : Source :=
      ⟨["a.c:1:x\nn.md:2:y\nb.h:", "3:z\nd.cpp:4:w\na.c:7:v"].map (.text ·.toList), none⟩
    let system : Spawn.System Nat := fun _ made =>
      (match made with
        | 0 => .exited 0 [] []
        | 1 => .killed 9 [] []
        | _ => .exited 3 [] [], made + 1)
    let exit := run false false args input system 0
    (∀ i s, (system i s).1.IsPossible) ∧ Options.parse args = .ok o ∧ exit.code = 137 ∧
      ¬ ∃ lines found, input.readLines = .ok lines ∧ lines.mapM MatchLine.parse = .ok found ∧
        (o.dryRun = false →
          ∀ outcome ∈ Spawn.attempts system (Run.commands o found) 0,
            outcome.isSuccess = true) := by
  intro args o input system exit
  have possible : ∀ i s, (system i s).1.IsPossible := by
    rintro i (_ | _ | _)
    · exact Nat.zero_le _
    · exact ⟨by decide, by decide⟩
    · exact (by decide : 3 ≤ 255)
  have parsed : Options.parse args = .ok o := rfl
  obtain ⟨-, -, accepted⟩ := run_exitCode false false args input possible 0
  obtain ⟨-, -, onCommands, onZero⟩ := accepted o parsed
  have code : exit.code = 137 := onCommands _ _ rfl rfl
  have notZero : exit.code ≠ 0 := by simp [code]
  exact ⟨possible, parsed, code, fun formatted => notZero (onZero.2 formatted)⟩

end Program
end MatchedLines
