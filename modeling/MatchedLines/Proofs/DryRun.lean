import MatchedLines.Proofs.InputFailure
import MatchedLines.Proofs.Notices

/-! A dry run shows what a run in earnest would do. Both carry out plans of one request, and group
by group the plan of the dry run is the other with the call written out and the announcement of
the call left out; so the two cannot drift apart in what they pass over, in order or in words. -/
namespace MatchedLines

namespace Event

variable {ι : Type}

/-- What a dry run prints in place of a step: for a call the command that would run, and nothing
for the notice that a file is about to be formatted. All else stays as it is. -/
def preview (coloured : Bool) : Event Invocation → List (Event Invocation)
  | .call what => [.line .stdout (Command.Quoted.command what.args)]
  | .write stream text =>
    if Notice.formatting.marks coloured (.write stream text : Event Invocation) then []
    else [.write stream text]

/-- Whether a dry run prints a command here; all else that it prints to the output is the notice
that a file is passed over. -/
def printsCommand (coloured : Bool) : Event ι → Bool
  | .write .stdout text => !Notice.skipping.marks coloured (.write .stdout text : Event ι)
  | _ => false

/-- No command for a file that can be formatted is taken for a notice. -/
theorem printsCommand_command (coloured : Bool) (binary : Text) {path : Text} (lines : List Int)
    (supported : FileType.isSupported path = true) :
    printsCommand coloured (.line .stdout
      (Command.Quoted.command (Command.arguments binary path lines)) : Event ι) = true := by
  have other := Notice.skipping_marks_command (ι := ι) coloured binary lines supported
  simpa [printsCommand, line] using other

theorem preview_of_formatting {coloured : Bool} {e : Event Invocation}
    (announces : Notice.formatting.marks coloured e = true) : preview coloured e = [] := by
  cases e with
  | call what => simp [Notice.marks] at announces
  | write stream text => exact if_pos announces

theorem preview_skipNotice (coloured : Bool) (path : Text) :
    preview coloured (Run.skipNotice coloured path) = [Run.skipNotice coloured path] := by
  have other := Notice.formatting_marks_skipNotice (ι := Invocation) coloured path
  exact if_neg (by simpa [Run.skipNotice, line] using other)

/-- A preview is a matter of the output alone. -/
theorem writtenTo_stderr_preview (coloured : Bool) (events : List (Event Invocation)) :
    writtenTo .stderr (events.flatMap (preview coloured)) = writtenTo .stderr events := by
  induction events with
  | nil => rfl
  | cons e rest ih =>
    rw [List.flatMap_cons, writtenTo_append, ih]
    cases e with
    | call what => rfl
    | write stream text =>
      cases stream with
      | stderr => simp [preview, Notice.marks, writtenTo]
      | stdout => simp only [preview]; split <;> simp [writtenTo]

end Event

namespace Run

variable {ι σ τ : Type}

/-- The plan of a dry run is the plan in earnest with every step previewed. -/
theorem plan_dryRun (coloured verbose : Bool) (binary : Text) (request : Request) :
    plan coloured verbose (Formatter.dryRun binary) request =
      (plan coloured verbose (Formatter.inPlace coloured verbose binary) request).flatMap
        (Event.preview coloured) := by
  rw [plan, plan, List.flatMap_assoc]
  congr 1
  funext g
  by_cases supported : FileType.isSupported g.path = true
  · have silent : ((Formatter.inPlace coloured verbose binary).notice g).flatMap
        (Event.preview coloured) = [] :=
      List.flatMap_eq_nil_iff.2 fun e member =>
        Event.preview_of_formatting (Notice.formatting_marks_of_mem member)
    simp only [supported, if_true, List.flatMap_append, silent]
    rfl
  · cases verbose with
    | false => simp [supported]
    | true => simp [supported, Event.preview_skipNotice]

/-- A dry run plans nothing but to print. -/
theorem isWrite_of_mem_plan_dryRun {coloured verbose : Bool} {binary : Text} {request : Request}
    {e : Event ι} (member : e ∈ plan coloured verbose (Formatter.dryRun binary) request) :
    e.isWrite = true := by
  obtain ⟨g, -, planned⟩ := List.mem_flatMap.1 member
  split at planned
  · rw [List.mem_singleton.1 planned]
    rfl
  · split at planned
    · rw [List.mem_singleton.1 planned]
      rfl
    · cases planned

/-- A dry run carries out its plan by printing it. -/
theorem perform_plan_of_dryRun {o : Options} (dry : o.dryRun = true) (coloured : Bool)
    (request : Request) (runner : Runner Invocation σ) (s : σ) :
    Session.perform runner (plan coloured o.verbose (formatter coloured o) request) s =
      Session.print (plan coloured o.verbose (formatter coloured o) request) () s := by
  have isDry : formatter coloured o = Formatter.dryRun o.binary := if_pos dry
  rw [isDry]
  exact Session.perform_of_isWrite (fun e => isWrite_of_mem_plan_dryRun) s

/-- A dry run plans to print one command for each call that is planned in earnest. -/
theorem filter_printsCommand_plan (coloured verbose : Bool) (binary : Text) (request : Request) :
    (plan coloured verbose (Formatter.dryRun binary) request).filter
        (Event.printsCommand coloured) =
      (Event.calls (plan coloured verbose (Formatter.inPlace coloured verbose binary) request)).map
        fun call => (.line .stdout (Command.Quoted.command call.args) : Event Invocation) := by
  have writes (g : Group) : ∀ e ∈ (Formatter.inPlace coloured verbose binary).notice g,
      e.isWrite = true := formatter_notice_isWrite coloured ⟨verbose, binary, false⟩ g
  rw [calls_plan writes]
  induction request with
  | nil => rfl
  | cons g rest ih =>
    have later : (rest.flatMap _).filter (Event.printsCommand coloured) = _ := ih
    rw [plan, List.flatMap_cons, List.filter_append, later]
    by_cases supported : FileType.isSupported g.path = true
    · simp [supported, Formatter.dryRun, Event.printsCommand_command]
    · have passedOver : Event.printsCommand coloured
          (skipNotice coloured g.path : Event Invocation) = false := by
        have known := Notice.skipping_marks_skipNotice (ι := Invocation) coloured g.path
        simpa [Event.printsCommand, skipNotice, Event.line] using known
      cases verbose <;> simp [supported, passedOver]

/-- **A dry run shows exactly what would be done.** It calls nothing, whatever runner it is given.
Beside it stands a run in earnest with the same options on the same input, by a runner that lets
each of its calls succeed: both end alike, and the dry run does what the other does, with a command
printed for every call, the announcement of the call left out and all else in its place. So the
error streams agree, and the printed commands are those that were run, one each and in order. -/
theorem dryRun_previews (coloured : Bool) (o : Options) (input : Source)
    (runner : Runner Invocation σ) (s : σ) :
    let dry := run coloured { o with dryRun := true } runner input s
    Event.calls dry.events = [] ∧ dry.state = s ∧
      ∀ (ideal : Runner Invocation τ) (t : τ),
        let real := run coloured { o with dryRun := false } ideal input t
        (∀ outcome ∈ ideal.outcomes (Event.calls real.events) t, outcome = .ok ()) →
          dry.outcome = real.outcome ∧
          dry.events = real.events.flatMap (Event.preview coloured) ∧
          Event.writtenTo .stderr dry.events = Event.writtenTo .stderr real.events ∧
          dry.events.filter (Event.printsCommand coloured) =
            (Event.calls real.events).map fun call =>
              .line .stdout (Command.Quoted.command call.args) := by
  intro dry
  -- The input alone decides how both runs end, unless it is understood.
  rcases input.failed_or_malformed_or_understood with
    ⟨failure, failed⟩ | ⟨lines, read, malformed⟩ | ⟨lines, found, read, understood⟩
  · have isDry : dry = _ := run_of_failed coloured _ runner s failed
    rw [isDry]
    refine ⟨rfl, rfl, ?_⟩
    intro ideal t real _
    have isReal : real = _ := run_of_failed coloured _ ideal t failed
    rw [isReal]
    exact ⟨rfl, rfl, rfl, rfl⟩
  · obtain ⟨before, bad, after, rfl, good, noMatch⟩ := MatchLine.exists_first_malformed malformed
    have isDry : dry = _ := run_of_malformed coloured _ runner s read good noMatch
    rw [isDry]
    refine ⟨rfl, rfl, ?_⟩
    intro ideal t real _
    have isReal : real = _ := run_of_malformed coloured _ ideal t read good noMatch
    rw [isReal]
    exact ⟨rfl, rfl, rfl, rfl⟩
  · have writes : ∀ e ∈ plan coloured o.verbose (Formatter.dryRun o.binary)
        (Request.grouped found), (e : Event Invocation).isWrite = true :=
      fun e => isWrite_of_mem_plan_dryRun
    have isDry : dry = ⟨plan coloured o.verbose (Formatter.dryRun o.binary)
        (Request.grouped found), .ok 0, s⟩ :=
      (run_eq_perform read understood coloured _ runner s).trans
        (congrArg (reported coloured) (Session.perform_of_isWrite writes s))
    rw [isDry]
    refine ⟨Event.calls_of_isWrite writes, rfl, ?_⟩
    intro ideal t real succeed
    obtain ⟨outcome, events⟩ := run_of_ok read understood succeed
    have isReal : real.events = plan coloured o.verbose
        (Formatter.inPlace coloured o.verbose o.binary) (Request.grouped found) := events
    have previewed := plan_dryRun coloured o.verbose o.binary (Request.grouped found)
    rw [isReal]
    refine ⟨outcome.symm, previewed, ?_, filter_printsCommand_plan ..⟩
    simp only [previewed, Event.writtenTo_stderr_preview]

/-- A binary whose name is the first word of a notice, and a file that is passed over. -/
theorem dryRun_previews_verbose :
    let input : Source :=
      ⟨["a b.c:1:x\nn.md:2:y\n", "c.h:3:z\na b.c:4:w"].map (.text ·.toList), none⟩
    let o : Options := { verbose := true, binary := "Skipping".toList }
    let real := run false { o with dryRun := false } Runner.scripted input [.ok (), .ok ()]
    let dry := run false { o with dryRun := true } Runner.scripted input [.error (.bare [])]
    let command (words : List String) : Event Invocation :=
      .call { args := words.map String.toList }
    (∀ outcome ∈ Runner.scripted.outcomes (Event.calls real.events) [.ok (), .ok ()],
      outcome = .ok ()) ∧
      real.events =
        [.line .stdout "Formatting a b.c (2 lines)".toList,
          command ["Skipping", "-i", "--lines=1:1", "--lines=4:4", "a b.c"],
          .line .stdout "Skipping n.md: unsupported file type".toList,
          .line .stdout "Formatting c.h (1 line)".toList,
          command ["Skipping", "-i", "--lines=3:3", "c.h"]] ∧
      dry.events =
        [.line .stdout "Skipping -i --lines=1:1 --lines=4:4 'a b.c'".toList,
          .line .stdout "Skipping n.md: unsupported file type".toList,
          .line .stdout "Skipping -i --lines=3:3 c.h".toList] ∧
      dry.events = real.events.flatMap (Event.preview false) ∧ dry.outcome = real.outcome := by
  intro input o real dry command
  have succeed : ∀ outcome ∈ Runner.scripted.outcomes (Event.calls real.events) [.ok (), .ok ()],
      outcome = .ok () := by decide
  obtain ⟨-, -, compared⟩ := dryRun_previews false o input Runner.scripted [.error (.bare [])]
  obtain ⟨outcome, events, -, -⟩ := compared Runner.scripted [.ok (), .ok ()] succeed
  exact ⟨succeed, rfl, rfl, events, outcome⟩

end Run
end MatchedLines
