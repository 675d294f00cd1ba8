import Mathlib.Data.List.Basic
import MatchedLines.Proofs.DryRun

/-! What a verbose run says is all that sets it apart. Its notices are the steps that a quiet run
leaves out, and every other step of the two is the same, whatever the runner answers. The notices
account for the work: there is one for each file that is reached, in order, and what is announced
is the call that comes next. -/
namespace MatchedLines

namespace Session

variable {α ι σ : Type}

/-- The items that work gets to, when each of them may lead to a call: all of them, or those up to
the first whose call fails. -/
def reached (runner : Runner ι σ) (call? : α → Option ι) : List α → σ → List α
  | [], _ => []
  | item :: rest, s =>
    match call? item with
    | none => item :: reached runner call? rest s
    | some what =>
      match runner what s with
      | (.ok (), s) => item :: reached runner call? rest s
      | (.error _, _) => [item]

theorem reached_prefix (runner : Runner ι σ) (call? : α → Option ι) (items : List α) (s : σ) :
    reached runner call? items s <+: items := by
  induction items generalizing s with
  | nil => exact List.prefix_refl []
  | cons item rest ih =>
    rw [reached]
    split
    · exact List.cons_prefix_cons.2 ⟨rfl, ih s⟩
    · split
      · exact List.cons_prefix_cons.2 ⟨rfl, ih _⟩
      · exact List.cons_prefix_cons.2 ⟨rfl, List.nil_prefix⟩

/-- If each item only prints before it makes its call, what happens is what was planned for the
items that are reached. -/
theorem events_perform_flatMap (runner : Runner ι σ) {call? : α → Option ι}
    {block : α → List (Event ι)} (shape : ∀ item, ∃ printed : List (Event ι),
      (∀ e ∈ printed, e.isWrite = true) ∧ block item = printed ++ (call? item).toList.map .call)
    (items : List α) (s : σ) :
    (perform runner (items.flatMap block) s).events =
      (reached runner call? items s).flatMap block := by
  induction items generalizing s with
  | nil => rfl
  | cons item rest ih =>
    obtain ⟨printed, writes, isBlock⟩ := shape item
    rw [List.flatMap_cons, isBlock, perform_append, perform_append, perform_of_isWrite writes]
    cases made : call? item with
    | none => simp [reached, made, perform, print, andThen, pure, ih, isBlock]
    | some what =>
      rcases answer : runner what s with ⟨outcome, after⟩
      cases outcome with
      | ok => simp [reached, made, perform, print, andThen, pure, call, answer, ih, isBlock]
      | error f => simp [reached, made, perform, print, andThen, call, answer, isBlock]

end Session

/-! ### Notices among the steps -/

namespace Notice

variable {ι : Type}

/-- Whether a step prints a notice of either kind. -/
def isNotice (coloured : Bool) (e : Event ι) : Bool :=
  skipping.marks coloured e || formatting.marks coloured e

/-- How many lines the words of a call select: those of its words that stand between `-i` and the
file and begin as a selection does. -/
def selected (call : Invocation) : Nat :=
  ((call.args.drop 2).dropLast.filter ("--lines=".toList.isPrefixOf ·)).length

/-- The notice that announces a call, told from the words of the call alone. -/
def announcement (coloured : Bool) (call : Invocation) : Event ι :=
  .line .stdout (Colour.gray.paint coloured
    ("Formatting ".toList ++ call.args.getLast?.getD [] ++ " (".toList
      ++ Decimal.ofNat (selected call)
      ++ (if selected call = 1 then " line)" else " lines)").toList))

/-- A command selects as many lines as it was made of. -/
theorem selected_arguments (binary path : Text) (lines : List Int) :
    selected { args := Command.arguments binary path lines } = lines.length := by
  have all : (lines.map Command.lineOption).filter ("--lines=".toList.isPrefixOf ·) =
      lines.map Command.lineOption := by
    rw [List.filter_eq_self]
    intro option member
    obtain ⟨n, -, rfl⟩ := List.mem_map.1 member
    rw [List.isPrefixOf_iff_prefix]
    exact List.prefix_append _ _
  simp only [selected, Command.arguments, List.drop_succ_cons, List.drop_zero,
    List.dropLast_concat, all, List.length_map]

/-- Formatting in place announces the call that it makes. -/
theorem inPlace_notice (coloured : Bool) (binary : Text) (g : Group) :
    (Formatter.inPlace coloured true binary).notice g =
      [announcement coloured { args := Command.arguments binary g.path g.lines }] := by
  by_cases single : g.lines.length = 1 <;>
    simp [Formatter.inPlace, announcement, Formatter.count, selected_arguments,
      Command.getLast?_arguments, single]

theorem formatting_marks_announcement (coloured : Bool) (call : Invocation) :
    formatting.marks coloured (announcement coloured call : Event ι) = true := by
  obtain ⟨middle, text⟩ : ∃ middle, "Formatting ".toList ++ call.args.getLast?.getD []
      ++ " (".toList ++ Decimal.ofNat (selected call)
      ++ (if selected call = 1 then " line)" else " lines)").toList =
        "Formatting ".toList ++ middle ++ [')'] := by
    by_cases single : selected call = 1
    · exact ⟨call.args.getLast?.getD [] ++ " (".toList ++ Decimal.ofNat (selected call)
        ++ " line".toList, by simp [single]⟩
    · exact ⟨call.args.getLast?.getD [] ++ " (".toList ++ Decimal.ofNat (selected call)
        ++ " lines".toList, by simp [single]⟩
  rw [announcement, text]
  exact formatting.marks_line coloured middle

theorem isNotice_command (coloured : Bool) (binary : Text) {path : Text} (lines : List Int)
    (supported : FileType.isSupported path = true) :
    isNotice coloured (.line .stdout
      (Command.Quoted.command (Command.arguments binary path lines)) : Event ι) = false := by
  rw [isNotice, skipping_marks_command coloured binary lines supported,
    formatting_marks_command, Bool.or_self]

theorem isNotice_skipNotice (coloured : Bool) (path : Text) :
    isNotice coloured (Run.skipNotice coloured path : Event ι) = true := by
  rw [isNotice, skipping_marks_skipNotice, Bool.true_or]

theorem isNotice_announcement (coloured : Bool) (call : Invocation) :
    isNotice coloured (announcement coloured call : Event ι) = true := by
  rw [isNotice, formatting_marks_announcement, Bool.or_true]

theorem isNotice_stderr (coloured : Bool) (text : Text) :
    isNotice coloured (.write .stderr text : Event ι) = false := rfl

theorem isNotice_call (coloured : Bool) (what : ι) :
    isNotice coloured (.call what : Event ι) = false := rfl

/-- Without its notices a run makes the same calls. -/
theorem calls_filter_isNotice (coloured : Bool) (events : List (Event ι)) :
    Event.calls (events.filter (!isNotice coloured ·)) = Event.calls events := by
  rw [Event.calls, Event.calls, List.filterMap_filter]
  apply List.filterMap_congr
  intro e _
  cases e with
  | write stream text => simp [Event.call?]
  | call what => simp [isNotice_call]

/-- Notices go to the output. -/
theorem writtenTo_stderr_filter_isNotice (coloured : Bool) (events : List (Event ι)) :
    Event.writtenTo .stderr (events.filter (!isNotice coloured ·)) =
      Event.writtenTo .stderr events := by
  induction events with
  | nil => rfl
  | cons e rest ih =>
    cases e with
    | call what => simpa [isNotice_call, Event.writtenTo] using ih
    | write stream text =>
      cases stream with
      | stderr => simp [isNotice_stderr, Event.writtenTo, ih]
      | stdout =>
        cases kept : isNotice coloured (.write .stdout text : Event ι) <;>
          simp [kept, Event.writtenTo, ih]

/-- Among these steps, what is announced is the call that comes next. -/
def AnnounceNext (coloured : Bool) (events : List (Event Invocation)) : Prop :=
  ∀ before e after, events = before ++ e :: after → formatting.marks coloured e = true →
    ∃ call later, after = .call call :: later ∧ e = announcement coloured call

variable {coloured : Bool}

theorem announceNext_of_silent {events : List (Event Invocation)}
    (silent : ∀ e ∈ events, formatting.marks coloured e = false) :
    AnnounceNext coloured events := by
  rintro before e after rfl announces
  rw [silent e (by simp)] at announces
  cases announces

theorem announceNext_of_stderr {events : List (Event Invocation)}
    (toStderr : ∀ e ∈ events, ∃ text, e = .write .stderr text) : AnnounceNext coloured events := by
  apply announceNext_of_silent
  intro e member
  obtain ⟨text, rfl⟩ := toStderr e member
  rfl

theorem announceNext_announcement (call : Invocation) :
    AnnounceNext coloured [announcement coloured call, .call call] := by
  rintro before e after split announces
  rcases before with _ | ⟨first, _ | ⟨second, before⟩⟩
  · obtain ⟨rfl, rfl⟩ := List.cons.inj split
    exact ⟨call, [], rfl, rfl⟩
  · obtain ⟨rfl, rfl⟩ := List.cons.inj (List.cons.inj split).2
    cases announces
  · simp at split

theorem AnnounceNext.append {front back : List (Event Invocation)}
    (inFront : AnnounceNext coloured front) (inBack : AnnounceNext coloured back) :
    AnnounceNext coloured (front ++ back) := by
  rintro before e after split announces
  rcases List.append_eq_append_iff.1 split with ⟨rest, rfl, isBack⟩ | ⟨rest, isFront, isAfter⟩
  · exact inBack rest e after isBack announces
  · cases rest with
    | nil => exact inBack [] e after isAfter.symm announces
    | cons first rest =>
      obtain ⟨rfl, rfl⟩ := List.cons.inj isAfter
      obtain ⟨call, later, rfl, isAnnouncement⟩ := inFront before e rest isFront announces
      exact ⟨call, later ++ back, rfl, isAnnouncement⟩

theorem announceNext_flatMap {α : Type} {block : α → List (Event Invocation)}
    (inBlock : ∀ item, AnnounceNext coloured (block item)) (items : List α) :
    AnnounceNext coloured (items.flatMap block) := by
  induction items with
  | nil => exact announceNext_of_silent (by simp)
  | cons item rest ih =>
    rw [List.flatMap_cons]
    exact (inBlock item).append ih

end Notice

/-! ### What a verbose run does for each file -/

namespace Run

variable {σ : Type}

/-- The call that a file leads to, if it leads to one. -/
def command? (o : Options) (found : List MatchLine) (path : Text) : Option Invocation :=
  if FileType.isSupported path && !o.dryRun then some (command o found path) else none

/-- The notice that a verbose run prints for a file, if it prints one. -/
def notice? (coloured : Bool) (o : Options) (found : List MatchLine) (path : Text) :
    Option (Event Invocation) :=
  if FileType.isSupported path then
    if o.dryRun then none else some (Notice.announcement coloured (command o found path))
  else some (skipNotice coloured path)

/-- What a verbose run plans for a file. -/
def treatment (coloured : Bool) (o : Options) (found : List MatchLine) (path : Text) :
    List (Event Invocation) :=
  let call := command o found path
  if FileType.isSupported path then
    if o.dryRun then [.line .stdout (Command.Quoted.command call.args)]
    else [Notice.announcement coloured call, .call call]
  else [skipNotice coloured path]

variable (coloured : Bool) (o : Options) (found : List MatchLine)

/-- A treatment prints and then makes the call of its file. -/
theorem treatment_shape (path : Text) : ∃ printed : List (Event Invocation),
    (∀ e ∈ printed, e.isWrite = true) ∧
      treatment coloured o found path = printed ++ (command? o found path).toList.map .call := by
  by_cases supported : FileType.isSupported path = true
  · cases dry : o.dryRun with
    | true => exact ⟨[.line .stdout (Command.Quoted.command (command o found path).args)],
        by simp [Event.line, Event.isWrite], by simp [treatment, command?, supported, dry]⟩
    | false => exact ⟨[Notice.announcement coloured (command o found path)],
        by simp [Notice.announcement, Event.line, Event.isWrite],
        by simp [treatment, command?, supported, dry]⟩
  · exact ⟨[skipNotice coloured path], by simp [skipNotice, Event.line, Event.isWrite],
      by simp [treatment, command?, supported]⟩

theorem calls_treatment (path : Text) :
    Event.calls (treatment coloured o found path) = (command? o found path).toList := by
  obtain ⟨printed, writes, isTreatment⟩ := treatment_shape coloured o found path
  rw [isTreatment, Event.calls_append, Event.calls_of_isWrite writes]
  cases command? o found path <;> rfl

/-- The notices of a treatment are the notice of its file. -/
theorem filter_isNotice_treatment (path : Text) :
    (treatment coloured o found path).filter (Notice.isNotice coloured) =
      (notice? coloured o found path).toList := by
  by_cases supported : FileType.isSupported path = true
  · cases dry : o.dryRun with
    | true => simp [treatment, notice?, supported, dry, command, Notice.isNotice_command]
    | false =>
      simp [treatment, notice?, supported, dry, Notice.isNotice_announcement,
        Notice.isNotice_call]
  · simp [treatment, notice?, supported, Notice.isNotice_skipNotice]

theorem announceNext_treatment (path : Text) :
    Notice.AnnounceNext coloured (treatment coloured o found path) := by
  by_cases supported : FileType.isSupported path = true
  · cases dry : o.dryRun with
    | true =>
      apply Notice.announceNext_of_silent
      simp [treatment, supported, dry, command, Notice.formatting_marks_command]
    | false =>
      simp only [treatment, supported, dry, if_true, Bool.false_eq_true, if_false]
      exact Notice.announceNext_announcement _
  · apply Notice.announceNext_of_silent
    simp [treatment, supported, Notice.formatting_marks_skipNotice]

/-- A verbose run plans to treat the files that were found. -/
theorem plan_verbose :
    plan coloured true (formatter coloured { o with verbose := true }) (Request.grouped found) =
      (MatchLine.paths found).flatMap (treatment coloured o found) := by
  rw [plan, Request.grouped, List.flatMap_map]
  congr 1
  funext path
  by_cases supported : FileType.isSupported path = true
  · cases dry : o.dryRun with
    | true => simp [supported, dry, treatment, command, formatter, Formatter.dryRun]
    | false =>
      simp [supported, dry, treatment, command, formatter, Notice.inPlace_notice]
  · simp [supported, treatment]

/-- Its notices set a verbose plan apart from a quiet one. -/
theorem plan_quiet (request : Request) :
    plan coloured false (formatter coloured { o with verbose := false }) request =
      (plan coloured true (formatter coloured { o with verbose := true }) request).filter
        (!Notice.isNotice coloured ·) := by
  rw [plan, plan, List.filter_flatMap]
  congr 1
  funext g
  by_cases supported : FileType.isSupported g.path = true
  · cases dry : o.dryRun with
    | true => simp [supported, formatter, Formatter.dryRun, Notice.isNotice_command]
    | false =>
      have silent : (Formatter.inPlace coloured false o.binary).notice g = [] := rfl
      simp [supported, formatter, Notice.inPlace_notice, Notice.isNotice_announcement, silent,
        Notice.isNotice_call]
  · simp [supported, Notice.isNotice_skipNotice]

/-- A quiet run is a verbose run without its notices. -/
theorem run_quiet (input : Source) (runner : Runner Invocation σ) (s : σ) :
    let loud := run coloured { o with verbose := true } runner input s
    run coloured { o with verbose := false } runner input s =
      { loud with events := loud.events.filter (!Notice.isNotice coloured ·) } := by
  intro loud
  rcases input.failed_or_malformed_or_understood with
    ⟨failure, failed⟩ | ⟨lines, read, malformed⟩ | ⟨lines, found, read, understood⟩
  · have isLoud : loud = _ := run_of_failed coloured _ runner s failed
    rw [isLoud, run_of_failed coloured _ runner s failed]
    rfl
  · obtain ⟨before, bad, after, rfl, good, noMatch⟩ := MatchLine.exists_first_malformed malformed
    have isLoud : loud = _ := run_of_malformed coloured _ runner s read good noMatch
    rw [isLoud, run_of_malformed coloured _ runner s read good noMatch]
    rfl
  · have isLoud : loud = _ := run_eq_perform read understood coloured _ runner s
    have kept {e : Event Invocation} (isReport : ∃ text, e = .write .stderr text) :
        (!Notice.isNotice coloured e) = true := by
      obtain ⟨text, rfl⟩ := isReport
      rfl
    rw [isLoud, run_eq_perform read understood coloured _ runner s, plan_quiet,
      ← List.filterMap_eq_filter, Session.perform_filterMap, List.filterMap_eq_filter, reported_eq,
      reported_eq]
    · simp only [List.filter_append]
      rw [List.filter_eq_self.2 fun e member => kept (stderr_of_mem_reportEvents member)]
    · intro what
      rfl
    · intro stream text e isKept
      rw [← (Option.guard_eq_some_iff.1 isKept).1]
      rfl

variable {input : Source} {lines : List Text} {found : List MatchLine}

/-- What a verbose run does, on input that was understood: it treats the files that it reaches, and
at the end it may report. -/
theorem events_run_verbose (read : input.readLines = .ok lines)
    (understood : lines.mapM MatchLine.parse = .ok found) (runner : Runner Invocation σ) (s : σ) :
    ∃ report : List (Event Invocation), (∀ e ∈ report, ∃ text, e = .write .stderr text) ∧
      (run coloured { o with verbose := true } runner input s).events =
        (Session.reached runner (command? o found) (MatchLine.paths found) s).flatMap
          (treatment coloured o found) ++ report := by
  rw [run_eq_perform read understood, reported_eq, plan_verbose,
    Session.events_perform_flatMap runner (treatment_shape coloured o found)]
  exact ⟨_, fun e => stderr_of_mem_reportEvents, rfl⟩

/-- Steps that only write to the error stream are no calls and no notices. -/
theorem calls_notices_of_stderr {events : List (Event Invocation)}
    (toStderr : ∀ e ∈ events, ∃ text, e = .write .stderr text) :
    Event.calls events = [] ∧ events.filter (Notice.isNotice coloured) = [] := by
  constructor
  · apply Event.calls_of_isWrite
    intro e member
    obtain ⟨text, rfl⟩ := toStderr e member
    rfl
  · rw [List.filter_eq_nil_iff]
    intro e member
    obtain ⟨text, rfl⟩ := toStderr e member
    simp [Notice.isNotice_stderr]

/-- On input that is not understood, nothing happens but a report. -/
theorem stderr_of_mem_run (notUnderstood : ∀ lines found, input.readLines = .ok lines →
      lines.mapM MatchLine.parse ≠ .ok found) (runner : Runner Invocation σ) (s : σ) :
    ∀ e ∈ (run coloured o runner input s).events, ∃ text, e = .write .stderr text := by
  rcases input.failed_or_malformed_or_understood with
    ⟨failure, failed⟩ | ⟨lines, read, malformed⟩ | ⟨lines, found, read, understood⟩
  · simp [run_of_failed coloured o runner s failed]
  · obtain ⟨before, bad, after, rfl, good, noMatch⟩ := MatchLine.exists_first_malformed malformed
    simp [run_of_malformed coloured o runner s read good noMatch, Event.line]
  · exact absurd understood (notUnderstood lines found read)

/-- **Verbosity changes nothing but what is said.** A verbose run and a quiet one on the same input,
with the same runner, make the same calls, write the same to the error stream and end alike, and the
steps of the quiet run are those of the other without the notices. The notices of a verbose run are
those of the files that it reaches, one each and in order of first appearance: that a file is passed
over, or, in earnest, that it is about to be formatted. Such an announcement stands right before
its call and is told from the words of that call. Input that is not understood has no notices. -/
theorem verbose_only_announces (coloured : Bool) (o : Options) (runner : Runner Invocation σ)
    (input : Source) (s : σ) :
    let loud := run coloured { o with verbose := true } runner input s
    let quiet := run coloured { o with verbose := false } runner input s
    (loud.outcome = quiet.outcome ∧ loud.state = quiet.state ∧
      Event.calls loud.events = Event.calls quiet.events ∧
      Event.writtenTo .stderr loud.events = Event.writtenTo .stderr quiet.events ∧
      loud.events.filter (!Notice.isNotice coloured ·) = quiet.events) ∧
    (∀ lines found, input.readLines = .ok lines → lines.mapM MatchLine.parse = .ok found →
      let files := Session.reached runner (command? o found) (MatchLine.paths found) s
      files <+: MatchLine.paths found ∧
      Event.calls loud.events = files.filterMap (command? o found) ∧
      loud.events.filter (Notice.isNotice coloured) = files.filterMap (notice? coloured o found)) ∧
    ((∀ lines found, input.readLines = .ok lines → lines.mapM MatchLine.parse ≠ .ok found) →
      loud.events.filter (Notice.isNotice coloured) = []) ∧
    Notice.AnnounceNext coloured loud.events := by
  intro loud quiet
  have isQuiet : quiet = { loud with events := loud.events.filter (!Notice.isNotice coloured ·) } :=
    run_quiet coloured o input runner s
  refine ⟨?_, ?_, ?_, ?_⟩
  · rw [isQuiet]
    exact ⟨rfl, rfl, (Notice.calls_filter_isNotice coloured _).symm,
      (Notice.writtenTo_stderr_filter_isNotice coloured _).symm, rfl⟩
  · intro lines found read understood files
    obtain ⟨report, toStderr, events⟩ := events_run_verbose coloured o read understood runner s
    obtain ⟨noCalls, noNotices⟩ := calls_notices_of_stderr coloured toStderr
    have isLoud : loud.events = files.flatMap (treatment coloured o found) ++ report := events
    refine ⟨Session.reached_prefix .., ?_, ?_⟩
    · rw [isLoud, Event.calls_append, noCalls, List.append_nil, Event.calls, List.filterMap_flatMap,
        List.filterMap_eq_flatMap_toList]
      exact congrArg files.flatMap (funext (calls_treatment coloured o found))
    · rw [isLoud, List.filter_append, noNotices, List.append_nil, List.filter_flatMap,
        List.filterMap_eq_flatMap_toList]
      exact congrArg files.flatMap (funext (filter_isNotice_treatment coloured o found))
  · intro notUnderstood
    exact (calls_notices_of_stderr coloured (stderr_of_mem_run coloured _ notUnderstood runner s)).2
  · by_cases understood : ∃ lines found, input.readLines = .ok lines ∧
      lines.mapM MatchLine.parse = .ok found
    · obtain ⟨lines, found, read, understood⟩ := understood
      obtain ⟨report, toStderr, events⟩ := events_run_verbose coloured o read understood runner s
      have isLoud : loud.events = _ := events
      rw [isLoud]
      refine (Notice.announceNext_flatMap (announceNext_treatment coloured o found) _).append ?_
      exact Notice.announceNext_of_stderr toStderr
    · refine Notice.announceNext_of_stderr (stderr_of_mem_run coloured _ ?_ runner s)
      intro lines found read understoodLines
      exact understood ⟨lines, found, read, understoodLines⟩

/-- The second call fails, so the file behind it is not reached and nothing is said of it. -/
theorem verbose_only_announces_until_failure :
    let input : Source :=
      ⟨["b.py:2:y\na.c:1:x\n", "c.h:3:z\na.c:9:v\nd.md:1:u\n"].map (.text ·.toList), none⟩
    let found : List MatchLine := [⟨"b.py".toList, 2⟩, ⟨"a.c".toList, 1⟩, ⟨"c.h".toList, 3⟩,
      ⟨"a.c".toList, 9⟩, ⟨"d.md".toList, 1⟩]
    let answers : List (Except Failure Unit) :=
      [.ok (), .error (.childProcess [] 7 [] "c.h: parse error\n".toList)]
    let loud := run true { verbose := true } Runner.scripted input answers
    let quiet := run true {} Runner.scripted input answers
    let gray (text : String) : Event Invocation :=
      .line .stdout (Colour.gray.opening ++ text.toList ++ Colour.closing)
    (∃ lines, input.readLines = .ok lines ∧ lines.mapM MatchLine.parse = .ok found) ∧
      loud.events.filter (Notice.isNotice true) =
        [gray "Skipping b.py: unsupported file type", gray "Formatting a.c (2 lines)",
          gray "Formatting c.h (1 line)"] ∧
      Event.calls loud.events =
        [command {} found "a.c".toList, command {} found "c.h".toList] ∧
      quiet.outcome = .ok 7 ∧ loud.outcome = quiet.outcome ∧
      loud.events.filter (!Notice.isNotice true ·) = quiet.events ∧
      Notice.AnnounceNext true loud.events := by
  intro input found answers loud quiet gray
  obtain ⟨⟨outcome, -, -, -, steps⟩, ofFound, -, announced⟩ :=
    verbose_only_announces true {} Runner.scripted input answers
  have read : input.readLines =
    .ok (["b.py:2:y", "a.c:1:x", "c.h:3:z", "a.c:9:v", "d.md:1:u"].map String.toList) := rfl
  have understood : (["b.py:2:y", "a.c:1:x", "c.h:3:z", "a.c:9:v", "d.md:1:u"].map
    String.toList).mapM MatchLine.parse = .ok found := rfl
  obtain ⟨-, calls, notices⟩ := ofFound _ found read understood
  exact ⟨⟨_, read, understood⟩, notices.trans (by decide), calls.trans (by decide), rfl, outcome,
    steps, announced⟩

end Run
end MatchedLines
