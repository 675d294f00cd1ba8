import MatchedLines.Proofs.DryRun
import MatchedLines.Proofs.FailureReports

/-! Colours are presentation. Wherever the program colours a text, the codes that this adds can be
taken out again and leave what an uncoloured run writes, whatever codes, pieces of codes and line
breaks the text itself holds: a code that the text has begun is never completed by one that is put
beside it (`Colour.strip_paint_append`). What is not for the eye alone, the commands of a dry run
and the words of a formatter that failed, is written without colours at all. -/
namespace MatchedLines

/-! ### Codes in a text -/

namespace Colour

/-- The codes that `strip` takes out. -/
def codes : List Text := [gray.opening, red.opening, yellow.opening, closing]

/-- What can stand in a code behind its first character. -/
def continuing : Text := "[0139m".toList

/-- No code that something in front has begun goes on here. -/
def StartsAnew (t : Text) : Prop := ∀ c ∈ t.head?, c ∉ continuing

theorem mem_codes {code : Text} :
    code ∈ codes ↔ (∃ c : Colour, code = c.opening) ∨ code = closing := by
  simp only [codes, List.mem_cons, List.not_mem_nil, or_false]
  constructor
  · rintro (rfl | rfl | rfl | rfl)
    · exact .inl ⟨gray, rfl⟩
    · exact .inl ⟨red, rfl⟩
    · exact .inl ⟨yellow, rfl⟩
    · exact .inr rfl
  · rintro (⟨_ | _ | _, rfl⟩ | rfl) <;> simp

theorem opening_mem_codes (c : Colour) : c.opening ∈ codes :=
  mem_codes.2 (.inl ⟨c, rfl⟩)

theorem closing_mem_codes : closing ∈ codes :=
  mem_codes.2 (.inr rfl)

theorem code_eq {code : Text} (isCode : code ∈ codes) :
    code = '\x1b' :: code.tail ∧ ∀ c ∈ code.tail, c ∈ continuing := by
  have known : code = '\x1b' :: code.tail ∧ code.tail.all (continuing.contains ·) = true := by
    rcases mem_codes.1 isCode with ⟨d, rfl⟩ | rfl
    · cases d <;> exact ⟨rfl, rfl⟩
    · exact ⟨rfl, rfl⟩
  exact ⟨known.1, fun c member => List.contains_iff_mem.1 (List.all_eq_true.1 known.2 c member)⟩

theorem startsAnew_code {code : Text} (isCode : code ∈ codes) (t : Text) :
    StartsAnew (code ++ t) := by
  rw [(code_eq isCode).1]
  intro c first
  cases first
  decide

theorem strip_code {code : Text} (isCode : code ∈ codes) (t : Text) :
    strip (code ++ t) = strip t := by
  simp only [codes, List.mem_cons, List.not_mem_nil, or_false] at isCode
  rcases isCode with rfl | rfl | rfl | rfl <;> rfl

/-- A character that begins no code stays. -/
theorem strip_cons {x : Char} {t : Text} (noCode : ∀ code ∈ codes, ¬ code <+: x :: t) :
    strip (x :: t) = x :: strip t := by
  refine strip.eq_6 x t ?_ ?_ ?_ ?_
  · rintro u rfl rfl
    exact noCode _ (opening_mem_codes .gray) ⟨u, rfl⟩
  · rintro u rfl rfl
    exact noCode _ (opening_mem_codes .red) ⟨u, rfl⟩
  · rintro u rfl rfl
    exact noCode _ (opening_mem_codes .yellow) ⟨u, rfl⟩
  · rintro u rfl rfl
    exact noCode _ closing_mem_codes ⟨u, rfl⟩

theorem strip_of_ne_escape {x : Char} (notEscape : x ≠ '\x1b') (t : Text) :
    strip (x :: t) = x :: strip t := by
  refine strip_cons fun code isCode isPrefix => notEscape ?_
  rw [(code_eq isCode).1] at isPrefix
  exact (List.cons_prefix_cons.1 isPrefix).1.symm

/-- A text is read from the left in codes and in characters that begin none. -/
theorem strip_induction {motive : Text → Prop} (nil : motive [])
    (code : ∀ code ∈ codes, ∀ t, motive t → motive (code ++ t))
    (other : ∀ x t, (∀ code ∈ codes, ¬ code <+: x :: t) → motive t → motive (x :: t))
    (t : Text) : motive t := by
  induction t using strip.induct with
  | case1 => exact nil
  | case2 t ih => exact code _ (opening_mem_codes .gray) t ih
  | case3 t ih => exact code _ (opening_mem_codes .red) t ih
  | case4 t ih => exact code _ (opening_mem_codes .yellow) t ih
  | case5 t ih => exact code _ closing_mem_codes t ih
  | case6 x t notGray notRed notYellow notClosing ih =>
    refine other x t ?_ ih
    rintro code isCode ⟨u, split⟩
    simp only [codes, List.mem_cons, List.not_mem_nil, or_false] at isCode
    rcases isCode with rfl | rfl | rfl | rfl
    · obtain ⟨rfl, rfl⟩ := List.cons.inj split
      exact notGray u rfl rfl
    · obtain ⟨rfl, rfl⟩ := List.cons.inj split
      exact notRed u rfl rfl
    · obtain ⟨rfl, rfl⟩ := List.cons.inj split
      exact notYellow u rfl rfl
    · obtain ⟨rfl, rfl⟩ := List.cons.inj split
      exact notClosing u rfl rfl

/-- Where `x` begins no code, it begins none with another text behind it in which no code goes on
that did not go on in the first. -/
theorem noCode_of_rest {x : Char} {t t' : Text} (noCode : ∀ code ∈ codes, ¬ code <+: x :: t)
    (goesOn : ∀ tail : Text, (∀ c ∈ tail, c ∈ continuing) → tail <+: t' → tail <+: t) :
    ∀ code ∈ codes, ¬ code <+: x :: t' := by
  intro code isCode isPrefix
  obtain ⟨split, continues⟩ := code_eq isCode
  rw [split] at isPrefix
  obtain ⟨rfl, rest⟩ := List.cons_prefix_cons.1 isPrefix
  refine noCode code isCode ?_
  rw [split]
  exact List.cons_prefix_cons.2 ⟨rfl, goesOn code.tail continues rest⟩

/-- What goes on with a code stays in front of a text that starts anew. -/
theorem prefix_of_prefix_append {tail t back : Text} (continues : ∀ c ∈ tail, c ∈ continuing)
    (anew : StartsAnew back) (isPrefix : tail <+: t ++ back) : tail <+: t := by
  induction tail generalizing t with
  | nil => exact List.nil_prefix
  | cons x tail ih =>
    cases t with
    | nil =>
      obtain ⟨u, rfl⟩ := isPrefix
      exact absurd (continues x (by simp)) (anew x rfl)
    | cons y t =>
      obtain ⟨rfl, rest⟩ := List.cons_prefix_cons.1 isPrefix
      exact List.cons_prefix_cons.2
        ⟨rfl, ih (fun c member => continues c (List.mem_cons_of_mem _ member)) rest⟩

/-- What goes on with a code in a coloured text went on with it before the text was coloured. -/
theorem prefix_of_prefix_fill {c : Colour} {tail t back : Text}
    (continues : ∀ c ∈ tail, c ∈ continuing) (isPrefix : tail <+: c.fill t ++ back) :
    tail <+: t ++ back := by
  induction tail generalizing t with
  | nil => exact List.nil_prefix
  | cons x tail ih =>
    have notEscape : x ≠ '\x1b' := by
      rintro rfl
      exact absurd (continues _ List.mem_cons_self) (by decide)
    cases t using fill.fun_cases with
    | case1 => exact isPrefix
    | case2 t => exact absurd (List.cons_prefix_cons.1 isPrefix).1 notEscape
    | case3 t => exact absurd (List.cons_prefix_cons.1 isPrefix).1 notEscape
    | case4 t => exact absurd (List.cons_prefix_cons.1 isPrefix).1 notEscape
    | case5 y t notClosing notReturn notFeed =>
      rw [fill.eq_5 c y t notClosing notReturn notFeed] at isPrefix
      obtain ⟨rfl, rest⟩ := List.cons_prefix_cons.1 isPrefix
      exact List.cons_prefix_cons.2
        ⟨rfl, ih (fun c member => continues c (List.mem_cons_of_mem _ member)) rest⟩

/-- A text that starts anew is stripped on its own. -/
theorem strip_append {back : Text} (anew : StartsAnew back) (front : Text) :
    strip (front ++ back) = strip front ++ strip back := by
  induction front using strip_induction with
  | nil => rfl
  | code code isCode t ih => rw [List.append_assoc, strip_code isCode, strip_code isCode, ih]
  | other x t noCode ih =>
    -- A code that `x` begins here would have to go on in `back`.
    have noneAcross : ∀ code ∈ codes, ¬ code <+: x :: (t ++ back) :=
      noCode_of_rest noCode fun tail continues => prefix_of_prefix_append continues anew
    rw [List.cons_append, strip_cons noneAcross, strip_cons noCode, ih, List.cons_append]

/-- A line break is coloured around, not over. -/
theorem strip_fill_feed (c : Colour) (t back : Text) :
    strip (c.fill ('\n' :: t) ++ back) = '\n' :: strip (c.fill t ++ back) := by
  have filled : c.fill ('\n' :: t) ++ back =
      closing ++ '\n' :: (c.opening ++ (c.fill t ++ back)) := by
    simp only [fill.eq_4, List.append_assoc, List.cons_append]
  rw [filled, strip_code closing_mem_codes, strip_of_ne_escape (by decide),
    strip_code (opening_mem_codes c)]

/-- The inside of a coloured text is stripped as the text itself is. Colouring puts no code between
the characters of another, and makes none out of characters that were none before. -/
theorem strip_fill_append (c : Colour) {back : Text} (anew : StartsAnew back) (t : Text) :
    strip (c.fill t ++ back) = strip t ++ strip back := by
  induction t using strip_induction with
  | nil => rfl
  | code code isCode t ih =>
    rw [strip_code isCode, ← ih]
    rcases mem_codes.1 isCode with ⟨d, rfl⟩ | rfl
    · have filled : c.fill (d.opening ++ t) = d.opening ++ c.fill t := by
        cases d <;> rfl
      rw [filled, List.append_assoc, strip_code isCode]
    · have filled : c.fill (closing ++ t) = closing ++ c.opening ++ c.fill t := fill.eq_2 c t
      rw [filled, List.append_assoc, List.append_assoc, strip_code isCode,
        strip_code (opening_mem_codes c)]
  | other x t noCode ih =>
    rw [strip_cons noCode, List.cons_append, ← ih]
    by_cases feed : x = '\n'
    · rw [feed, strip_fill_feed]
    · by_cases ending : x = '\r' ∧ ∃ u, t = '\n' :: u
      · -- The code stands in front of both characters of the break, the induction between them.
        obtain ⟨rfl, u, rfl⟩ := ending
        have filled : c.fill ('\r' :: '\n' :: u) ++ back =
            closing ++ '\r' :: '\n' :: (c.opening ++ (c.fill u ++ back)) := by
          simp only [fill.eq_3, List.append_assoc, List.cons_append]
        rw [filled, strip_code closing_mem_codes, strip_of_ne_escape (by decide),
          strip_of_ne_escape (by decide), strip_code (opening_mem_codes c), strip_fill_feed]
      · have plain : c.fill (x :: t) = x :: c.fill t := by
          refine fill.eq_5 c x t ?_ (fun u isReturn isFeed => ending ⟨isReturn, u, isFeed⟩) feed
          rintro u rfl rfl
          exact noCode _ closing_mem_codes ⟨u, rfl⟩
        rw [plain, List.cons_append]
        refine strip_cons (noCode_of_rest noCode fun tail continues isPrefix => ?_)
        exact prefix_of_prefix_append continues anew (prefix_of_prefix_fill continues isPrefix)

/-- A coloured text in front of one that starts anew is stripped as the plain text is. -/
theorem strip_paint_append (coloured : Bool) (c : Colour) {rest : Text} (anew : StartsAnew rest)
    (t : Text) : strip (c.paint coloured t ++ rest) = strip (t ++ rest) := by
  unfold paint
  split
  · have parts : c.opening ++ c.fill t ++ closing ++ rest =
        c.opening ++ (c.fill t ++ (closing ++ rest)) := by
      simp only [List.append_assoc]
    rw [parts, strip_code (opening_mem_codes c),
      strip_fill_append c (startsAnew_code closing_mem_codes rest), strip_code closing_mem_codes,
      strip_append anew]
  · rfl

end Colour

/-! ### Codes in what a run does -/

variable {ι σ : Type}

namespace Event

/-- The step without the codes that switch colours. -/
def strip : Event ι → Event ι
  | .write stream text => .write stream (Colour.strip text)
  | .call what => .call what

theorem strip_line_paint (coloured : Bool) (c : Colour) (stream : Stream) (text : Text) :
    (line stream (c.paint coloured text) : Event ι).strip = (line stream text).strip := by
  have anew : Colour.StartsAnew ['\n'] := by
    intro c first
    cases first
    decide
  exact congrArg (write stream) (Colour.strip_paint_append coloured c anew text)

theorem calls_of_map_strip {shown plain : List (Event ι)}
    (same : shown.map strip = plain.map strip) : calls shown = calls plain := by
  have calls_strip (events : List (Event ι)) : calls (events.map strip) = calls events := by
    rw [calls, calls, List.filterMap_map]
    congr 1
    funext e
    cases e <;> rfl
  rw [← calls_strip shown, same, calls_strip]

end Event

namespace Session

variable {runner : Runner ι σ}

/-- Plans that differ in colours at most are carried out alike. -/
theorem perform_of_map_strip {shown plain : List (Event ι)}
    (same : shown.map Event.strip = plain.map Event.strip) (runner : Runner ι σ) (s : σ) :
    (perform runner shown s).outcome = (perform runner plain s).outcome ∧
      (perform runner shown s).state = (perform runner plain s).state ∧
      (perform runner shown s).events.map Event.strip =
        (perform runner plain s).events.map Event.strip := by
  have stripped (events : List (Event ι)) : perform runner (events.map Event.strip) s =
      { perform runner events s with
        events := (perform runner events s).events.map Event.strip } := by
    rw [← List.filterMap_eq_map]
    refine perform_filterMap ?_ ?_ events s
    · exact fun what => rfl
    · intro stream text e kept
      rw [← Option.some.inj kept]
      rfl
  have alike : perform runner (shown.map Event.strip) s =
      perform runner (plain.map Event.strip) s := by
    rw [same]
  rw [stripped, stripped] at alike
  exact ⟨(congrArg outcome alike :), (congrArg state alike :), (congrArg events alike :)⟩

end Session

namespace Run

variable {coloured : Bool} {o : Options} {input : Source} {s : σ}

/-- Colours change nothing of what a formatter says but themselves. -/
theorem map_strip_notice (coloured : Bool) (o : Options) (g : Group) :
    ((formatter coloured o).notice g).map Event.strip =
      ((formatter false o).notice g).map Event.strip := by
  unfold formatter
  cases o.dryRun with
  | true => rfl
  | false =>
    cases o.verbose with
    | false => rfl
    | true => exact congrArg ([·]) (Event.strip_line_paint coloured ..)

theorem call?_formatter (coloured : Bool) (o : Options) :
    (formatter coloured o).call? = (formatter false o).call? := by
  unfold formatter
  cases o.dryRun <;> rfl

/-- Colours change nothing of a plan but themselves. -/
theorem map_strip_plan (coloured : Bool) (o : Options) (request : Request) :
    (plan coloured o.verbose (formatter coloured o) request).map Event.strip =
      (plan false o.verbose (formatter false o) request).map Event.strip := by
  rw [plan, plan, List.map_flatMap, List.map_flatMap]
  congr 1
  funext g
  by_cases supported : FileType.isSupported g.path = true
  · simp only [supported, if_true, List.map_append, map_strip_notice coloured,
      call?_formatter coloured]
  · simp only [supported, Bool.false_eq_true, if_false]
    cases o.verbose with
    | false => rfl
    | true => exact congrArg ([·]) (Event.strip_line_paint coloured ..)

/-- Colours change nothing of a report but themselves. -/
theorem map_strip_reportEvents (coloured : Bool) (outcome : Except Failure Unit) :
    (reportEvents coloured outcome : List (Event ι)).map Event.strip =
      (reportEvents false outcome).map Event.strip := by
  cases outcome with
  | ok => rfl
  | error f =>
    cases f <;> simp only [reportEvents, report, Option.map_some, Option.map_none,
      Option.getD_some, Option.getD_none, List.map_cons, List.map_nil, Event.strip_line_paint]

/-- A formatter that ran and failed is the last to say something, in its own words. -/
theorem run_of_failed_child {runner : Runner Invocation σ} {command : List Text} {code : Int}
    {out err : Text}
    (failed : .error (.childProcess command code out err) ∈
      runner.outcomes (Event.calls (run coloured o runner input s).events) s) :
    (run coloured o runner input s).outcome = .ok code ∧
      (run coloured o runner input s).events.getLast? = some (.write .stderr err) := by
  rcases input.failed_or_malformed_or_understood with
    ⟨failure, unread⟩ | ⟨lines, read, malformed⟩ | ⟨lines, found, read, understood⟩
  · rw [run_of_failed coloured o runner s unread] at failed
    simp [Event.calls, Runner.outcomes] at failed
  · obtain ⟨before, bad, after, rfl, good, noMatch⟩ := MatchLine.exists_first_malformed malformed
    rw [run_of_malformed coloured o runner s read good noMatch] at failed
    cases failed
  · rw [run_eq_perform read understood] at failed ⊢
    rw [calls_reported] at failed
    have ended := Session.outcome_of_error_mem failed
    rw [reported_eq, ended]
    simp [result, reportEvents, report]

end Run

/-- What colours make of a run with this runner: they change no call, the codes taken out they
change no write, and a command that a dry run prints and the words of a formatter that failed are
written as they are. -/
structure Recoloured (runner : Runner Invocation σ) (s : σ) (dry : Prop)
    (shown plain : List (Event Invocation)) : Prop where
  calls : Event.calls shown = Event.calls plain
  stripped : shown.map Event.strip = plain.map Event.strip
  commands : dry →
    shown.filter (Event.printsCommand true) = plain.filter (Event.printsCommand false)
  passedOn : ∀ command code out err,
    .error (.childProcess command code out err) ∈ runner.outcomes (Event.calls plain) s →
      shown.getLast? = some (.write .stderr err) ∧ plain.getLast? = some (.write .stderr err)

namespace Run

/-- The commands that a dry run plans to print have no colour. -/
theorem filter_printsCommand_plan_of_dryRun (dry : o.dryRun = true) (coloured : Bool)
    (request : Request) :
    (plan coloured o.verbose (formatter coloured o) request).filter
        (Event.printsCommand coloured) =
      (plan false o.verbose (formatter false o) request).filter (Event.printsCommand false) := by
  have calls : Event.calls (plan coloured o.verbose (Formatter.inPlace coloured o.verbose o.binary)
      request) = Event.calls (plan false o.verbose (Formatter.inPlace false o.verbose o.binary)
        request) :=
    Event.calls_of_map_strip (map_strip_plan coloured { o with dryRun := false } request)
  have isDry (coloured : Bool) : formatter coloured o = Formatter.dryRun o.binary := if_pos dry
  rw [isDry, isDry, filter_printsCommand_plan, filter_printsCommand_plan, calls]

/-- Colours change nothing of a run but themselves. -/
theorem run_recoloured (o : Options) (runner : Runner Invocation σ) (input : Source) (s : σ) :
    let shown := run true o runner input s
    let plain := run false o runner input s
    shown.outcome = plain.outcome ∧ shown.state = plain.state ∧
      Recoloured runner s (o.dryRun = true) shown.events plain.events := by
  intro shown plain
  have alike : shown.outcome = plain.outcome ∧ shown.state = plain.state ∧
      shown.events.map Event.strip = plain.events.map Event.strip ∧
      (o.dryRun = true → shown.events.filter (Event.printsCommand true) =
        plain.events.filter (Event.printsCommand false)) := by
    rcases input.failed_or_malformed_or_understood with
      ⟨failure, unread⟩ | ⟨lines, read, malformed⟩ | ⟨lines, found, read, understood⟩
    · have isShown : shown = _ := run_of_failed true o runner s unread
      have isPlain : plain = _ := run_of_failed false o runner s unread
      rw [isShown, isPlain]
      exact ⟨rfl, rfl, rfl, fun _ => rfl⟩
    · obtain ⟨before, bad, after, rfl, good, noMatch⟩ :=
        MatchLine.exists_first_malformed malformed
      have isShown : shown = _ := run_of_malformed true o runner s read good noMatch
      have isPlain : plain = _ := run_of_malformed false o runner s read good noMatch
      rw [isShown, isPlain]
      exact ⟨rfl, rfl, by simp only [List.map_cons, Event.strip_line_paint, List.map_nil],
        fun _ => rfl⟩
    · have isShown : shown = _ := run_eq_perform read understood true o runner s
      have isPlain : plain = _ := run_eq_perform read understood false o runner s
      rw [isShown, isPlain, reported_eq, reported_eq]
      -- One plan is carried out in two colours, and the runner cannot tell.
      have planned := map_strip_plan true o (Request.grouped found)
      obtain ⟨outcome, state, events⟩ := Session.perform_of_map_strip planned runner s
      refine ⟨congrArg result outcome, state, ?_, fun dry => ?_⟩
      · rw [List.map_append, List.map_append, events, outcome, map_strip_reportEvents]
      · rw [perform_plan_of_dryRun dry, perform_plan_of_dryRun dry]
        simpa [Session.print, reportEvents] using
          filter_printsCommand_plan_of_dryRun dry true (Request.grouped found)
  obtain ⟨outcome, state, stripped, commands⟩ := alike
  have calls := Event.calls_of_map_strip stripped
  refine ⟨outcome, state, calls, stripped, commands, fun command code out err failed => ?_⟩
  exact ⟨(run_of_failed_child (calls ▸ failed)).2, (run_of_failed_child failed).2⟩

end Run

namespace Program

theorem map_strip_opening (coloured terminal : Bool) :
    (opening coloured terminal).map Event.strip = (opening false terminal).map Event.strip := by
  cases terminal with
  | false => rfl
  | true => exact congrArg ([·]) (Event.strip_line_paint coloured ..)

theorem map_strip_fatalEvents (coloured : Bool) (outcome : Except Failure Int) :
    (fatalEvents coloured outcome).map Event.strip =
      (fatalEvents false outcome).map Event.strip := by
  cases outcome with
  | ok => rfl
  | error f => exact congrArg ([·]) (Event.strip_line_paint coloured ..)

theorem filter_printsCommand_opening (coloured terminal : Bool) :
    (opening coloured terminal).filter (Event.printsCommand coloured) = [] := by
  cases terminal <;> rfl

theorem filter_printsCommand_fatalEvents (coloured : Bool) (outcome : Except Failure Int) :
    (fatalEvents coloured outcome).filter (Event.printsCommand coloured) = [] := by
  cases outcome <;> rfl

/-- The program has no last word of its own behind it. -/
theorem run_of_failed_child {coloured terminal : Bool} {args : List Text} {o : Options}
    {input : Source} {system : Spawn.System σ} {s : σ} (accepted : Options.parse args = .ok o)
    {command : List Text} {code : Int} {out err : Text}
    (failed : .error (.childProcess command code out err) ∈ (Spawn.runner system).outcomes
      (Event.calls (run coloured terminal args input system s).events) s) :
    (run coloured terminal args input system s).events.getLast? = some (.write .stderr err) := by
  rw [calls_run_of_accepted accepted] at failed
  obtain ⟨outcome, last⟩ := Run.run_of_failed_child failed
  rw [run_of_accepted accepted coloured terminal input system s rfl]
  simp [outcome, fatalEvents, List.getLast?_append, last]

/-- Colours change nothing of the program but themselves. -/
theorem run_recoloured (terminal : Bool) (args : List Text) (input : Source)
    (system : Spawn.System σ) (s : σ) :
    let shown := run true terminal args input system s
    let plain := run false terminal args input system s
    shown.code = plain.code ∧ shown.state = plain.state ∧
      Recoloured (Spawn.runner system) s (∃ o, Options.parse args = .ok o ∧ o.dryRun = true)
        shown.events plain.events := by
  intro shown plain
  cases parsed : Options.parse args with
  | error stop =>
    have isShown : shown = ⟨[stopEvent stop], stop.exitCode, s⟩ := by
      simp only [shown, run, parsed]
    have isPlain : plain = ⟨[stopEvent stop], stop.exitCode, s⟩ := by
      simp only [plain, run, parsed]
    rw [isShown, isPlain]
    refine ⟨rfl, rfl, rfl, rfl, ?_, ?_⟩
    · rintro ⟨o, accepted, -⟩
      cases accepted
    · intro command code out err failed
      cases failed
  | ok o =>
    obtain ⟨outcome, state, same⟩ := Run.run_recoloured o (Spawn.runner system) input s
    have isShown : shown = _ := run_of_accepted parsed true terminal input system s rfl
    have isPlain : plain = _ := run_of_accepted parsed false terminal input system s rfl
    have code : shown.code = plain.code := by
      rw [isShown, isPlain]
      exact congrArg codeOf outcome
    have stripped : shown.events.map Event.strip = plain.events.map Event.strip := by
      rw [isShown, isPlain]
      simp only [List.map_append, same.stripped, outcome, map_strip_opening,
        map_strip_fatalEvents]
    have commands : o.dryRun = true → shown.events.filter (Event.printsCommand true) =
        plain.events.filter (Event.printsCommand false) := by
      intro dry
      rw [isShown, isPlain]
      simp only [List.filter_append, same.commands dry, filter_printsCommand_opening,
        filter_printsCommand_fatalEvents]
    have calls := Event.calls_of_map_strip stripped
    refine ⟨code, ?_, calls, stripped, ?_, fun command code out err failed => ?_⟩
    · rw [isShown, isPlain]
      exact state
    · rintro ⟨o', accepted, dry⟩
      cases accepted
      exact commands dry
    · exact ⟨run_of_failed_child parsed (calls ▸ failed), run_of_failed_child parsed failed⟩

end Program

/-- **Colours are presentation only.** With colours and without, a run makes the same calls, ends
with the same result or failure and leaves its runner in the same state, whatever the options, the
input and the runner are, and so does the program with its exit code, whatever the system does.
When the codes of the colours are taken out, each write of the one is the write of the other in the
same place, even where paths, lines or failures hold such codes, pieces of them or line breaks. The
commands that a dry run prints, and what a formatter that failed wrote to its error stream, are the
same to the letter. -/
theorem colours_are_presentation {τ : Type} (o : Options) (input : Source)
    (runner : Runner Invocation σ) (s : σ) (terminal : Bool) (args : List Text)
    (system : Spawn.System τ) (t : τ) :
    (let shown := Run.run true o runner input s
      let plain := Run.run false o runner input s
      shown.outcome = plain.outcome ∧ shown.state = plain.state ∧
        Recoloured runner s (o.dryRun = true) shown.events plain.events) ∧
    (let shown := Program.run true terminal args input system t
      let plain := Program.run false terminal args input system t
      shown.code = plain.code ∧ shown.state = plain.state ∧
        Recoloured (Spawn.runner system) t (∃ o, Options.parse args = .ok o ∧ o.dryRun = true)
          shown.events plain.events) :=
  ⟨Run.run_recoloured o runner input s, Program.run_recoloured terminal args input system t⟩

/-- A path holds a code with another inside, a binary is named over two lines, and a formatter that
fails writes half a code. -/
theorem colours_are_presentation_codes_inside :
    let path : Text := "\x1b[3\x1b[39m9m.c".toList
    let input : Source := ⟨[.text (path ++ ":1:x".toList)], none⟩
    let o : Options := { verbose := true }
    let failure : Failure := .childProcess ["fmt".toList] 3 [] "\x1b[31".toList
    let shown := Run.run true o Runner.scripted input [.error failure]
    let plain := Run.run false o Runner.scripted input [.error failure]
    let args : List Text := ["--binary".toList, "\x1b[39\r\nm".toList]
    let missing : Spawn.System Unit := fun _ _ => (.failed .noEntry, ())
    let shownAll := Program.run true false args input missing ()
    let plainAll := Program.run false false args input missing ()
    shown.events =
      [.line .stdout "\x1b[90mFormatting \x1b[3\x1b[39m\x1b[90m9m.c (1 line)\x1b[39m".toList,
        .call { args := ["clang-format".toList, "-i".toList, "--lines=1:1".toList, path] },
        .write .stderr "\x1b[31".toList] ∧
      shown.events.map Event.strip = plain.events.map Event.strip ∧
      plain.events.getLast? = some (.write .stderr "\x1b[31".toList) ∧
      shownAll.events =
        [.call { args := ["\x1b[39\r\nm".toList, "-i".toList, "--lines=1:1".toList, path] },
          .line .stderr ("\x1b[31mError: executable missing: " ++
            "\x1b[39\x1b[39m\r\n\x1b[31mm\x1b[39m").toList] ∧
      shownAll.events.map Event.strip = plainAll.events.map Event.strip := by
  intro path input o failure shown plain args missing shownAll plainAll
  obtain ⟨⟨-, -, recoloured⟩, -, -, recolouredAll⟩ :=
    colours_are_presentation o input Runner.scripted [.error failure] false args missing ()
  refine ⟨rfl, recoloured.stripped, ?_, ?_, recolouredAll.stripped⟩
  · have failed : .error failure ∈
        Runner.scripted.outcomes (Event.calls plain.events) [.error failure] := by
      decide
    exact (recoloured.passedOn _ _ _ _ failed).2
  · decide +kernel

end MatchedLines
