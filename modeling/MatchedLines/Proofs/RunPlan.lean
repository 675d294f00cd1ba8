import MatchedLines.Proofs.Grouping
import MatchedLines.Run

/-! A run carries out a plan. The options and the matches alone decide what is printed and which
calls are made if every call succeeds (`Run.plan`), and the runner decides only how far the run
gets: it stops right after the first call that fails (`Session.perform`). -/
namespace MatchedLines

variable {ι σ : Type}

namespace Runner

/-- What the runner answers to calls made one after another, each in the state that the one before
it left. Whether an earlier call failed makes no difference here. -/
def outcomes (runner : Runner ι σ) : List ι → σ → List (Except Failure Unit)
  | [], _ => []
  | what :: rest, s => (runner what s).1 :: runner.outcomes rest (runner what s).2

/-- The runner whose calls all succeed. -/
def succeeding : Runner ι Unit := fun _ _ => (.ok (), ())

theorem outcomes_take (runner : Runner ι σ) (calls : List ι) (k : Nat) (s : σ) :
    runner.outcomes (calls.take k) s = (runner.outcomes calls s).take k := by
  induction calls generalizing k s with
  | nil => simp [outcomes]
  | cons what rest ih =>
    cases k with
    | zero => rfl
    | succ k => simp [outcomes, ih]

theorem outcomes_succeeding (calls : List ι) :
    ∀ outcome ∈ succeeding.outcomes calls (), outcome = .ok () := by
  induction calls with
  | nil => simp [outcomes]
  | cons what rest ih => simpa [outcomes, succeeding] using ih

end Runner

/-- Either everything in a list is as it should be, or there is a first exception. -/
theorem all_or_first_exception {α : Type} (p : α → Prop) (items : List α) :
    (∀ item ∈ items, p item) ∨
      ∃ before bad after, items = before ++ bad :: after ∧ (∀ item ∈ before, p item) ∧ ¬ p bad := by
  induction items with
  | nil => simp
  | cons first rest ih =>
    by_cases good : p first
    · rcases ih with all | ⟨before, bad, after, rfl, goodBefore, exception⟩
      · exact .inl (List.forall_mem_cons.2 ⟨good, all⟩)
      · exact .inr ⟨first :: before, bad, after, rfl, List.forall_mem_cons.2 ⟨good, goodBefore⟩,
          exception⟩
    · exact .inr ⟨[], first, rest, rfl, by simp, good⟩

namespace Event

/-- The events up to and including the `k`-th call, counted from one. -/
def through : Nat → List (Event ι) → List (Event ι)
  | 0, _ => []
  | _, [] => []
  | k + 1, .write stream text :: rest => .write stream text :: through (k + 1) rest
  | k + 1, .call what :: rest => .call what :: through k rest

theorem calls_through (k : Nat) (events : List (Event ι)) :
    calls (through k events) = (calls events).take k := by
  induction events generalizing k with
  | nil => cases k <;> rfl
  | cons e rest ih =>
    cases k with
    | zero => rfl
    | succ k =>
      cases e with
      | write stream text => exact ih (k + 1)
      | call what =>
        change what :: calls (through k rest) = what :: (calls rest).take k
        rw [ih]

end Event

namespace Session

variable {α β γ : Type}

theorem andThen_assoc (x : Session ι σ α) (next : α → σ → Session ι σ β)
    (last : β → σ → Session ι σ γ) :
    (x.andThen next).andThen last = x.andThen fun a s => (next a s).andThen last := by
  obtain ⟨events, outcome, s⟩ := x
  cases outcome with
  | error f => rfl
  | ok a =>
    simp only [andThen]
    cases (next a s).outcome <;> simp

theorem andThen_pure (x : Session ι σ Unit) : (x.andThen fun _ s => pure () s) = x := by
  obtain ⟨events, outcome, s⟩ := x
  cases outcome <;> simp [andThen, pure]

/-- Carries out planned events in order. The first call that fails ends the work. -/
def perform (runner : Runner ι σ) : List (Event ι) → σ → Session ι σ Unit
  | [], s => pure () s
  | .write stream text :: rest, s =>
    (print [.write stream text] () s).andThen fun _ s => perform runner rest s
  | .call what :: rest, s => (call runner what s).andThen fun _ s => perform runner rest s

variable {runner : Runner ι σ}

theorem perform_append (front back : List (Event ι)) (s : σ) :
    perform runner (front ++ back) s =
      (perform runner front s).andThen fun _ s => perform runner back s := by
  induction front generalizing s with
  | nil => rfl
  | cons e front ih => cases e <;> simp [perform, ih, andThen_assoc]

/-- Printing needs no runner. -/
theorem perform_of_isWrite {events : List (Event ι)} (writes : ∀ e ∈ events, e.isWrite = true)
    (s : σ) : perform runner events s = print events () s := by
  induction events with
  | nil => rfl
  | cons e events ih =>
    have rest := ih fun other member => writes other (by simp [member])
    cases e with
    | write stream text => rw [perform]; simp [print, andThen, rest]
    | call what => simpa [Event.isWrite] using writes (.call what) (by simp)

/-- What happens is the beginning of what was planned. -/
theorem events_perform_prefix (events : List (Event ι)) (s : σ) :
    (perform runner events s).events <+: events := by
  induction events generalizing s with
  | nil => exact List.prefix_refl []
  | cons e rest ih =>
    cases e with
    | write stream text =>
      have more : (perform runner (.write stream text :: rest) s).events =
          .write stream text :: (perform runner rest s).events := by
        simp [perform, print, andThen]
      rw [more]
      exact List.cons_prefix_cons.2 ⟨rfl, ih s⟩
    | call what =>
      cases answer : (runner what s).1 with
      | error f => simp [perform, call, andThen, answer]
      | ok =>
        have more : (perform runner (.call what :: rest) s).events =
            .call what :: (perform runner rest (runner what s).2).events := by
          simp [perform, call, andThen, answer]
        rw [more]
        exact List.cons_prefix_cons.2 ⟨rfl, ih _⟩

/-- If every planned call succeeds, all of the plan happens. -/
theorem perform_of_ok {events : List (Event ι)} {s : σ}
    (ok : ∀ outcome ∈ runner.outcomes (Event.calls events) s, outcome = .ok ()) :
    (perform runner events s).events = events ∧ (perform runner events s).outcome = .ok () := by
  induction events generalizing s with
  | nil => exact ⟨rfl, rfl⟩
  | cons e rest ih =>
    cases e with
    | write stream text =>
      obtain ⟨events, outcome⟩ := ih (s := s) ok
      exact ⟨by simp [perform, print, andThen, events], by simpa [perform, print, andThen]⟩
    | call what =>
      have answer : (runner what s).1 = .ok () := ok _ List.mem_cons_self
      obtain ⟨events, outcome⟩ := ih (s := (runner what s).2)
        fun other member => ok other (List.mem_cons_of_mem _ member)
      exact ⟨by simp [perform, call, andThen, answer, events],
        by simpa [perform, call, andThen, answer]⟩

/-- The first planned call that fails is the last thing that happens. -/
theorem perform_of_error {events : List (Event ι)} {s : σ} {f : Failure}
    {before after : List (Except Failure Unit)}
    (answers : runner.outcomes (Event.calls events) s = before ++ .error f :: after)
    (ok : ∀ outcome ∈ before, outcome = .ok ()) :
    (perform runner events s).events = Event.through (before.length + 1) events ∧
      (perform runner events s).outcome = .error f := by
  induction events generalizing before s with
  | nil => simp [Event.calls, Runner.outcomes] at answers
  | cons e rest ih =>
    cases e with
    | write stream text =>
      obtain ⟨events, outcome⟩ := ih (s := s) answers ok
      exact ⟨by simp [perform, print, andThen, events, Event.through],
        by simpa [perform, print, andThen]⟩
    | call what =>
      have unfolded : (runner what s).1 :: runner.outcomes (Event.calls rest) (runner what s).2 =
          before ++ .error f :: after := answers
      cases before with
      | nil =>
        have answer : (runner what s).1 = .error f := (List.cons.inj unfolded).1
        exact ⟨by simp [perform, call, andThen, answer, Event.through],
          by simp [perform, call, andThen, answer]⟩
      | cons first before =>
        obtain ⟨head, tail⟩ := List.cons.inj unfolded
        have answer : (runner what s).1 = .ok () := head.trans (ok first (by simp))
        obtain ⟨events, outcome⟩ := ih (s := (runner what s).2) tail
          fun other member => ok other (by simp [member])
        exact ⟨by simp [perform, call, andThen, answer, events, Event.through],
          by simpa [perform, call, andThen, answer]⟩

/-- To leave writes out of a plan, or to write other texts, changes nothing but these writes. -/
theorem perform_filterMap {h : Event ι → Option (Event ι)}
    (calls : ∀ what, h (.call what) = some (.call what))
    (writes : ∀ stream text e, h (.write stream text) = some e → e.isWrite = true)
    (events : List (Event ι)) (s : σ) :
    perform runner (events.filterMap h) s =
      { perform runner events s with events := (perform runner events s).events.filterMap h } := by
  induction events generalizing s with
  | nil => rfl
  | cons e rest ih =>
    cases e with
    | write stream text =>
      cases kept : h (.write stream text) with
      | none => simp [kept, ih, perform, print, andThen]
      | some e =>
        cases e with
        | write stream' text' => simp [kept, ih, perform, print, andThen]
        | call what => simpa [Event.isWrite] using writes stream text _ kept
    | call what =>
      cases answer : (runner what s).1 <;>
        simp [calls, ih, perform, call, andThen, answer]

/-- If every call that was made succeeded, no planned call was left out. -/
theorem outcomes_ok_of_made {events : List (Event ι)} {s : σ}
    (ok : ∀ outcome ∈ runner.outcomes (Event.calls (perform runner events s).events) s,
      outcome = .ok ()) :
    ∀ outcome ∈ runner.outcomes (Event.calls events) s, outcome = .ok () := by
  rcases all_or_first_exception (· = .ok ()) (runner.outcomes (Event.calls events) s) with
    allOk | ⟨before, bad, after, answers, beforeOk, failed⟩
  · exact allOk
  · cases bad with
    | ok => exact absurd rfl failed
    | error f =>
      obtain ⟨made, -⟩ := perform_of_error answers beforeOk
      rw [made, Event.calls_through, Runner.outcomes_take, answers] at ok
      have succeeded := ok (.error f) (by simp [List.take_append])
      exact absurd succeeded failed

/-- A call that was made and failed is the one that the work ended with. -/
theorem outcome_of_error_mem {events : List (Event ι)} {s : σ} {f : Failure}
    (failed : .error f ∈ runner.outcomes (Event.calls (perform runner events s).events) s) :
    (perform runner events s).outcome = .error f := by
  rcases all_or_first_exception (· = .ok ()) (runner.outcomes (Event.calls events) s) with
    allOk | ⟨before, bad, after, answers, beforeOk, exception⟩
  · rw [(perform_of_ok allOk).1] at failed
    cases allOk _ failed
  · cases bad with
    | ok => exact absurd rfl exception
    | error first =>
      obtain ⟨made, ended⟩ := perform_of_error answers beforeOk
      rw [made, Event.calls_through, Runner.outcomes_take, answers] at failed
      have among : .error f ∈ before ∨ f = first := by
        simpa [List.take_append, List.take_of_length_le] using failed
      rcases among with earlier | rfl
      · cases beforeOk _ earlier
      · exact ended

end Session

namespace Run

/-- The call that formats what was found in a file. -/
def command (o : Options) (found : List MatchLine) (path : Text) : Invocation :=
  { args := Command.arguments o.binary path ((MatchLine.linesOf path found).map Int.ofNat) }

/-- The calls of a run in earnest: one for each supported file, in the order of first appearance. -/
def commands (o : Options) (found : List MatchLine) : List Invocation :=
  ((MatchLine.paths found).filter FileType.isSupported).map (command o found)

/-- What the files of a request cause if every call succeeds. -/
def plan (coloured verbose : Bool) (f : Formatter ι) (request : Request) : List (Event ι) :=
  request.flatMap fun g =>
    if FileType.isSupported g.path then f.notice g ++ (f.call? g).toList.map .call
    else if verbose then [skipNotice coloured g.path] else []

/-- The planned calls are those of the supported files, in the order of the request. -/
theorem calls_plan {f : Formatter ι} (writes : ∀ g, ∀ e ∈ f.notice g, e.isWrite = true)
    (coloured verbose : Bool) (request : Request) :
    Event.calls (plan coloured verbose f request) =
      (request.filter fun g => FileType.isSupported g.path).filterMap f.call? := by
  induction request with
  | nil => rfl
  | cons g rest ih =>
    have later : Event.calls (rest.flatMap _) = _ := ih
    rw [plan, List.flatMap_cons, Event.calls_append, later]
    by_cases supported : FileType.isSupported g.path = true
    · simp only [supported, if_true, Event.calls_append, Event.calls_of_isWrite (writes g),
        List.filter_cons]
      cases made : f.call? g <;> simp [made, Event.calls, Event.call?]
    · cases verbose <;> simp [supported, Event.calls, Event.call?, skipNotice, Event.line]

/-- Treating the files of a request is carrying out its plan. -/
theorem formatRequest_eq_perform {f : Formatter ι}
    (writes : ∀ g, ∀ e ∈ f.notice g, e.isWrite = true) (coloured verbose : Bool)
    (runner : Runner ι σ) (request : Request) (s : σ) :
    formatRequest coloured verbose f runner request s =
      Session.perform runner (plan coloured verbose f request) s := by
  induction request generalizing s with
  | nil => rfl
  | cons g rest ih =>
    have whole : plan coloured verbose f (g :: rest) =
        (if FileType.isSupported g.path then f.notice g ++ (f.call? g).toList.map .call
          else if verbose then [skipNotice coloured g.path] else []) ++
          plan coloured verbose f rest := rfl
    rw [formatRequest, whole, Session.perform_append]
    simp only [ih]
    congr 1
    by_cases supported : FileType.isSupported g.path = true
    · simp only [supported, if_true, Formatter.formatLines, Session.perform_append,
        Session.perform_of_isWrite (writes g)]
      congr 1
      funext _ s
      cases f.call? g with
      | none => rfl
      | some what => exact (Session.andThen_pure (Session.call runner what s)).symm
    · simp only [supported, Bool.false_eq_true, if_false]
      rw [Session.perform_of_isWrite]
      cases verbose <;> simp [skipNotice, Event.line, Event.isWrite]

/-- A formatter announces by writing and makes no call on the side. -/
theorem formatter_notice_isWrite (coloured : Bool) (o : Options) (g : Group) :
    ∀ e ∈ (formatter coloured o).notice g, e.isWrite = true := by
  unfold formatter
  cases o.dryRun with
  | true => simp [Formatter.dryRun, Event.line, Event.isWrite]
  | false => cases o.verbose <;> simp [Formatter.inPlace, Event.line, Event.isWrite]

theorem reported_of_ok {x : Session ι σ Unit} (ok : x.outcome = .ok ()) (coloured : Bool) :
    reported coloured x = ⟨x.events, .ok 0, x.state⟩ := by
  rw [reported, ok]

/-- What is shown at the end of work with this outcome: the report of a failure that has one. -/
def reportEvents (coloured : Bool) : Except Failure Unit → List (Event ι)
  | .ok () => []
  | .error f => ((report coloured f).map Prod.fst).getD []

/-- What a run ends with after work with this outcome. Colours have no part in it. -/
def result : Except Failure Unit → Except Failure Int
  | .ok () => .ok 0
  | .error (.childProcess _ exitCode _ _) => .ok exitCode
  | .error (.inputSyntax _) | .error (.environment _ _) => .ok 1
  | .error f => .error f

theorem reported_eq (coloured : Bool) (x : Session ι σ Unit) :
    reported coloured x =
      ⟨x.events ++ reportEvents coloured x.outcome, result x.outcome, x.state⟩ := by
  obtain ⟨events, outcome, s⟩ := x
  cases outcome with
  | ok => simp [reported, reportEvents, result]
  | error f => cases f <;> simp [reported, reportEvents, result, report]

/-- A report goes to the error stream. -/
theorem stderr_of_mem_reportEvents {coloured : Bool} {outcome : Except Failure Unit} {e : Event ι}
    (member : e ∈ reportEvents coloured outcome) : ∃ text, e = .write .stderr text := by
  cases outcome with
  | ok => simp [reportEvents] at member
  | error f =>
    cases f <;> simp only [reportEvents, report, Option.map_some, Option.map_none,
      Option.getD_some, Option.getD_none, Event.line, List.mem_cons, List.not_mem_nil,
      or_false] at member
    · rcases member with rfl | rfl
      · exact ⟨_, rfl⟩
      · exact ⟨_, rfl⟩
    · exact ⟨_, member⟩
    · exact ⟨_, member⟩

/-- Reporting a failure makes no call. -/
theorem calls_reported (coloured : Bool) (x : Session ι σ Unit) :
    Event.calls (reported coloured x).events = Event.calls x.events := by
  obtain ⟨events, outcome, s⟩ := x
  cases outcome with
  | ok => rfl
  | error f =>
    cases f <;> simp [reported, report, Event.calls, Event.line, Event.call?]

/-- A run on lines that were all understood carries out the plan of their request. -/
theorem run_eq_perform {input : Source} {lines : List Text} {found : List MatchLine}
    (read : input.readLines = .ok lines) (understood : lines.mapM MatchLine.parse = .ok found)
    (coloured : Bool) (o : Options) (runner : Runner Invocation σ) (s : σ) :
    run coloured o runner input s =
      reported coloured (Session.perform runner
        (plan coloured o.verbose (formatter coloured o) (Request.grouped found)) s) := by
  rw [run, read]
  simp only [formatLines, Request.parse_eq_grouped understood]
  rw [formatRequest_eq_perform (formatter_notice_isWrite coloured o)]

/-- Whatever the runner answers, a run makes the first so many of the planned calls and no other. -/
theorem calls_run_prefix {input : Source} {lines : List Text} {found : List MatchLine}
    (read : input.readLines = .ok lines) (understood : lines.mapM MatchLine.parse = .ok found)
    (coloured : Bool) (o : Options) (runner : Runner Invocation σ) (s : σ) :
    Event.calls (run coloured o runner input s).events <+:
      Event.calls (plan coloured o.verbose (formatter coloured o) (Request.grouped found)) := by
  rw [run_eq_perform read understood, calls_reported]
  exact (Session.events_perform_prefix _ s).filterMap Event.call?

/-- A run that saw each of its calls succeed did all that was planned, and ended well. -/
theorem run_of_ok {input : Source} {lines : List Text} {found : List MatchLine}
    (read : input.readLines = .ok lines) (understood : lines.mapM MatchLine.parse = .ok found)
    {coloured : Bool} {o : Options} {runner : Runner Invocation σ} {s : σ}
    (succeed : ∀ outcome ∈
      runner.outcomes (Event.calls (run coloured o runner input s).events) s, outcome = .ok ()) :
    (run coloured o runner input s).outcome = .ok 0 ∧
      (run coloured o runner input s).events =
        plan coloured o.verbose (formatter coloured o) (Request.grouped found) := by
  rw [run_eq_perform read understood] at succeed ⊢
  rw [calls_reported] at succeed
  obtain ⟨events, outcome⟩ := Session.perform_of_ok (Session.outcomes_ok_of_made succeed)
  rw [reported_of_ok outcome]
  exact ⟨rfl, events⟩

end Run
end MatchedLines
