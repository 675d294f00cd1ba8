import MatchedLines.Proofs.SearchOutputRoundTrip
import MatchedLines.Proofs.Utf8Fields
import MatchedLines.Proofs.WellFormedCalls

/-! Paths that are any bytes. A path is read as text before files are told apart, so entries go
together when their paths are read alike. Paths that are text are kept apart, and each is named in
its call as it was written (`run_calls_by_text`); a path that is no text shares the name of every
other path that is read as it is, and is not named by its own bytes. -/
namespace MatchedLines.SearchOutput

open Lines Utf8

namespace RawEntry

variable {e : RawEntry}

/-- Whether the entry is well formed, byte by byte. -/
theorem wellFormed_iff (e : RawEntry) :
    (e.path ≠ [] ∧ e.path.all (fun b => b ≠ 0x3A ∧ b ≠ 0x0A ∧ b ≠ 0x0D) = true ∧
      Decimal.isNumeral e.digits = true ∧
      e.matched.all (fun b => b ≠ 0x0A ∧ b ≠ 0x0D) = true) ↔ e.WellFormed := by
  simp only [List.all_eq_true, decide_eq_true_eq]
  constructor
  · rintro ⟨path, plain, numeral, matched⟩
    exact ⟨path, plain, numeral, matched⟩
  · rintro ⟨path, plain, numeral, matched⟩
    exact ⟨path, plain, numeral, matched⟩

instance (e : RawEntry) : Decidable e.WellFormed := decidable_of_iff _ (wellFormed_iff e)

/-- The entry as it is read, if its matched text is read as given. -/
def shown (e : RawEntry) (matched : Text) : Entry := ⟨e.file, e.digits, matched, e.ending⟩

/-- Reading a path makes neither a colon nor a line break, and reading a matched text no break. -/
theorem shown_plain (wellFormed : e.WellFormed) {matched : Text}
    (among : matched ⊆ decode e.matched) : (e.shown matched).Plain := by
  have breaks {bytes : Bytes} (absent : ∀ b ∈ bytes, b ≠ 0x0A ∧ b ≠ 0x0D) {c : Char}
      (member : c ∈ decode bytes) : Text.isBreak c = false := by
    have notFeed : c ≠ '\n' := fun same => not_mem_decode (b := 0x0A) (by decide) (by decide)
      (fun isByte => (absent _ isByte).1 rfl) (same ▸ member)
    have notReturn : c ≠ '\r' := fun same => not_mem_decode (b := 0x0D) (by decide) (by decide)
      (fun isByte => (absent _ isByte).2 rfl) (same ▸ member)
    simp [Text.isBreak, notFeed, notReturn]
  refine ⟨decode_ne_nil wellFormed.path_ne_nil, fun c member => ⟨?_, ?_⟩,
    wellFormed.digits_numeral, fun c member => breaks wellFormed.matched_plain (among member)⟩
  · rintro rfl
    exact not_mem_decode (b := 0x3A) (by decide) (by decide)
      (fun isByte => (wellFormed.path_plain _ isByte).1 rfl) member
  · exact breaks (fun b isByte => (wellFormed.path_plain b isByte).2) member

/-- The colons of a line end its path and its number, so that both are read on their own. -/
theorem take_line (e : RawEntry) (rest : Bytes) :
    (Feed.take {} (e.line ++ rest)).2 =
      e.file ++ ':' :: (e.digits ++ ':' :: (Feed.take {} (e.matched ++ rest)).2) := by
  rw [line, List.append_assoc, List.cons_append, List.append_assoc, List.cons_append,
    Feed.take_field _ _ (by decide), Feed.take_field _ _ (by decide), decode_encode]
  rfl

/-- A line and its end are read on their own. -/
theorem take_ended (e : RawEntry) (rest : Bytes) :
    (Feed.take {} (e.line ++ encode e.ending.text ++ rest)).2 =
      (e.shown (decode e.matched)).line ++ e.ending.text ++ (Feed.take {} rest).2 := by
  have atFeed (field : Bytes) : (Feed.take {} (field ++ 0x0A :: rest)).2 =
      decode field ++ '\n' :: (Feed.take {} rest).2 := by
    rw [Feed.take_field _ _ (by decide)]
    rfl
  have atReturn (rest : Bytes) : (Feed.take {} (e.matched ++ 0x0D :: rest)).2 =
      decode e.matched ++ '\r' :: (Feed.take {} rest).2 := by
    rw [Feed.take_field _ _ (by decide)]
    rfl
  have matched : (Feed.take {} (e.matched ++ (encode e.ending.text ++ rest))).2 =
      decode e.matched ++ (e.ending.text ++ (Feed.take {} rest).2) := by
    cases e.ending with
    | lf => exact atFeed e.matched
    | crlf => exact (atReturn (0x0A :: rest)).trans (congrArg _ (congrArg _ (atFeed [])))
    | cr => exact atReturn rest
  rw [List.append_assoc, take_line, matched, Entry.line]
  simp [shown]

end RawEntry

theorem renderBytes_cons_cons (lastEnded : Bool) (e next : RawEntry) (rest : List RawEntry) :
    renderBytes lastEnded (e :: next :: rest) =
      e.line ++ encode e.ending.text ++ renderBytes lastEnded (next :: rest) := rfl

/-- The output is read as one of plain entries that say what was reported. Only the matched text of
a last line that is not ended may lack the character that its bytes end inside of. -/
theorem exists_render_eq {entries : List RawEntry} (wellFormed : ∀ e ∈ entries, e.WellFormed)
    (lastEnded : Bool) :
    ∃ shown : List Entry,
      (Feed.take {} (renderBytes lastEnded entries)).2 = render lastEnded shown ∧
        (∀ e ∈ shown, e.Plain) ∧ shown.map Entry.found = entries.map RawEntry.found := by
  induction entries with
  | nil => exact ⟨[], rfl, by simp, rfl⟩
  | cons e rest ih =>
    have headWellFormed := wellFormed e (by simp)
    have headPlain := e.shown_plain headWellFormed (List.Subset.refl _)
    obtain ⟨shownRest, text, plain, found⟩ :=
      ih fun other member => wellFormed other (by simp [member])
    cases rest with
    | nil =>
      cases lastEnded with
      | true =>
        refine ⟨[e.shown (decode e.matched)], ?_, by simpa using headPlain, rfl⟩
        have ended := e.take_ended []
        simpa [renderBytes, render, RawEntry.shown, Feed.take] using ended
      | false =>
        have among : (Feed.take {} e.matched).2 ⊆ decode e.matched := by
          rw [Feed.decode_eq_take]
          exact List.subset_append_left _ _
        refine ⟨[e.shown (Feed.take {} e.matched).2], ?_,
          by simpa using e.shown_plain headWellFormed among, rfl⟩
        have unended := e.take_line []
        simpa [renderBytes, render, Entry.line, RawEntry.shown] using unended
    | cons next rest =>
      obtain ⟨nextShown, later, rfl⟩ : ∃ nextShown later, shownRest = nextShown :: later := by
        cases shownRest with
        | nil => cases found
        | cons nextShown later => exact ⟨nextShown, later, rfl⟩
      refine ⟨e.shown (decode e.matched) :: nextShown :: later, ?_, ?_, ?_⟩
      · rw [renderBytes_cons_cons, e.take_ended, text]
        rfl
      · exact List.forall_mem_cons.2 ⟨headPlain, plain⟩
      · rw [List.map_cons, found]
        rfl

/-- The lines that are read are those of plain entries that say what was reported. -/
theorem exists_readLines_eq {entries : List RawEntry} {lastEnded : Bool} {pieces : List Bytes}
    (wellFormed : ∀ e ∈ entries, e.WellFormed) (full : ∀ piece ∈ pieces, piece ≠ [])
    (written : pieces.flatten = renderBytes lastEnded entries) :
    ∃ shown : List Entry,
      Source.readLines ⟨pieces.map .bytes, none⟩ = .ok (shown.map Entry.line) ∧
        (∀ e ∈ shown, e.Plain) ∧ shown.map Entry.found = entries.map RawEntry.found := by
  obtain ⟨shown, text, plain, same⟩ := exists_render_eq wellFormed lastEnded
  refine ⟨shown, ?_, plain, same⟩
  rw [Source.readLines_bytes full, written, text, ofText_render_of_plain plain]

/-- If the output is understood at all, then as what was reported. -/
theorem found_of_renderBytes {entries : List RawEntry} {lastEnded : Bool} {pieces : List Bytes}
    (wellFormed : ∀ e ∈ entries, e.WellFormed) (full : ∀ piece ∈ pieces, piece ≠ [])
    (written : pieces.flatten = renderBytes lastEnded entries) {failure : Option Failure}
    {lines : List Text} {found : List MatchLine}
    (read : Source.readLines ⟨pieces.map .bytes, failure⟩ = .ok lines)
    (understood : lines.mapM MatchLine.parse = .ok found) : found = entries.map RawEntry.found := by
  cases failure with
  | some f => cases read
  | none =>
    obtain ⟨shown, isLines, plain, same⟩ := exists_readLines_eq wellFormed full written
    rw [isLines] at read
    cases read
    rw [← same]
    exact found_of_mapM_parse plain understood

/-- The output is understood if its numbers are within bounds. -/
theorem mapM_parse_renderBytes {entries : List RawEntry} {lastEnded : Bool} {pieces : List Bytes}
    (wellFormed : ∀ e ∈ entries, e.WellFormed) (full : ∀ piece ∈ pieces, piece ≠ [])
    (written : pieces.flatten = renderBytes lastEnded entries)
    (bounded : ∀ e ∈ entries, 1 ≤ e.found.number ∧ e.found.number ≤ MatchLine.maxNumber) :
    ∃ lines, Source.readLines ⟨pieces.map .bytes, none⟩ = .ok lines ∧
      lines.mapM MatchLine.parse = .ok (entries.map RawEntry.found) := by
  obtain ⟨shown, isLines, plain, same⟩ := exists_readLines_eq wellFormed full written
  have allowed : ∀ e ∈ shown, e.WellFormed := by
    intro e member
    have reported : e.found ∈ entries.map RawEntry.found := same ▸ List.mem_map_of_mem member
    obtain ⟨raw, isEntry, sameFound⟩ := List.mem_map.1 reported
    obtain ⟨pos, le⟩ := bounded raw isEntry
    rw [sameFound] at pos le
    have isPlain := plain e member
    exact ⟨isPlain.1, isPlain.2, isPlain.3, pos, le, isPlain.4⟩
  exact ⟨_, isLines, same ▸ mapM_parse_lines allowed⟩

/-! ### Calls -/

/-- The call is for the entries whose paths are read as this file: it selects their lines in order,
the file is the path of those among them whose path is text, and these therefore share one path. -/
structure IsCallFor (binary : Text) (entries : List RawEntry) (call : Invocation) (file : Text) :
    Prop where
  reported : ∃ e ∈ entries, e.file = file
  args : call.args = Command.arguments binary file
    ((entries.filter (·.file = file)).map fun e => (Decimal.value e.digits : Int))
  named : ∀ e ∈ entries, e.file = file → (encode file = e.path ↔ IsText e.path)
  apart : ∀ e ∈ entries, ∀ other ∈ entries, e.file = file → other.file = file →
    IsText e.path → IsText other.path → e.path = other.path

/-- A call is for one file only, the last of its words. -/
theorem IsCallFor.getLast? {binary : Text} {entries : List RawEntry} {call : Invocation}
    {file : Text} (isFor : IsCallFor binary entries call file) :
    call.args.getLast? = some file := by
  rw [isFor.args, Command.getLast?_arguments]

/-- The command for the file of an entry is for all entries of that file. -/
theorem isCallFor_command {entries : List RawEntry} {first : RawEntry} (isEntry : first ∈ entries)
    (o : Options) :
    IsCallFor o.binary entries (Run.command o (entries.map RawEntry.found) first.file)
      first.file := by
  have named : ∀ e ∈ entries, e.file = first.file →
      (encode first.file = e.path ↔ IsText e.path) := by
    rintro e - same
    rw [← same, isText_iff]
    rfl
  refine ⟨⟨first, isEntry, rfl⟩, ?_, named, ?_⟩
  · have lines : MatchLine.linesOf first.file (entries.map RawEntry.found) =
        (entries.filter (·.file = first.file)).map fun e => Decimal.value e.digits := by
      rw [MatchLine.linesOf, List.filter_map, List.map_map]
      rfl
    have numbers := congrArg (List.map Int.ofNat) lines
    rw [List.map_map] at numbers
    exact congrArg (Command.arguments o.binary first.file) numbers
  · intro e isReported other otherReported same otherSame isText otherText
    rw [← (named e isReported same).2 isText, ← (named other otherReported otherSame).2 otherText]

variable {σ : Type}

/-- **Paths that are text are kept apart.** Whatever bytes the paths and the matched texts are and
wherever the stream is cut, every call is for exactly those entries whose paths are read as one
file: it selects their lines in order, two different paths that are text are never among theirs,
and the file is the path of just those of them whose path is text. If the numbers are within bounds
and no call of a run in earnest fails, there is such a call for every entry in a supported file. -/
theorem run_calls_by_text {entries : List RawEntry} {lastEnded : Bool} {pieces : List Bytes}
    (wellFormed : ∀ e ∈ entries, e.WellFormed) (full : ∀ piece ∈ pieces, piece ≠ [])
    (written : pieces.flatten = renderBytes lastEnded entries) (coloured : Bool) (o : Options)
    (runner : Runner Invocation σ) (failure : Option Failure) (s : σ) :
    let calls := Event.calls (Run.run coloured o runner ⟨pieces.map .bytes, failure⟩ s).events
    (∀ call ∈ calls, ∃ file, IsCallFor o.binary entries call file) ∧
      (failure = none → o.dryRun = false →
        (∀ e ∈ entries, 1 ≤ e.found.number ∧ e.found.number ≤ MatchLine.maxNumber) →
        (∀ outcome ∈ runner.outcomes calls s, outcome = .ok ()) →
          ∀ e ∈ entries, FileType.isSupported e.file = true →
            ∃ call ∈ calls, IsCallFor o.binary entries call e.file) := by
  refine ⟨fun call member => ?_, ?_⟩
  · rcases Run.calls_run_cases coloured o runner ⟨pieces.map .bytes, failure⟩ s with
      nothing | ⟨lines, found, read, understood, made⟩
    · rw [nothing] at member
      cases member
    · have isFound := found_of_renderBytes wellFormed full written read understood
      rw [isFound] at made
      obtain ⟨file, isFile, rfl⟩ := List.mem_map.1 (made.subset member)
      obtain ⟨m, isMatch, rfl⟩ := MatchLine.mem_paths.1 (List.mem_filter.1 isFile).1
      obtain ⟨first, isEntry, rfl⟩ := List.mem_map.1 isMatch
      exact ⟨first.file, isCallFor_command isEntry o⟩
  · rintro rfl inEarnest bounded succeed e isEntry supported
    obtain ⟨lines, read, understood⟩ := mapM_parse_renderBytes wellFormed full written bounded
    obtain ⟨files, -, all, isCalls⟩ :=
      Run.exists_calls_eq coloured runner s read understood inEarnest
    rw [all succeed] at isCalls
    refine ⟨_, ?_, isCallFor_command isEntry o⟩
    rw [isCalls]
    have listed : e.file ∈ MatchLine.paths (entries.map RawEntry.found) :=
      MatchLine.mem_paths.2 ⟨e.found, List.mem_map_of_mem isEntry, rfl⟩
    exact List.mem_map_of_mem (List.mem_filter.2 ⟨listed, supported⟩)

/-- Three lines in two files, of which one has a path that is no text; the last is not ended. -/
def rawEntries : List RawEntry :=
  [⟨[0xC3, 0xA9, 0x2E, 0x63], ['3'], [0x78], .crlf⟩, ⟨[0xC3, 0x2E, 0x63], ['5'], [0xFF], .lf⟩,
    ⟨[0xC3, 0xA9, 0x2E, 0x63], "007".toList, [0xC3], .lf⟩]

/-- Their bytes, cut inside of the wide character. -/
def rawPieces : List Bytes :=
  [[0xC3], [0xA9, 0x2E, 0x63, 0x3A, 0x33, 0x3A, 0x78, 0x0D, 0x0A, 0xC3, 0x2E, 0x63, 0x3A, 0x35,
    0x3A, 0xFF, 0x0A, 0xC3, 0xA9, 0x2E, 0x63, 0x3A, 0x30, 0x30, 0x37, 0x3A, 0xC3]]

theorem run_calls_by_text_raw :
    let calls := Event.calls
      (Run.run false {} Runner.scripted ⟨rawPieces.map .bytes, none⟩ []).events
    let call (words : List String) : Invocation := { args := words.map String.toList }
    let first := call ["clang-format", "-i", "--lines=3:3", "--lines=7:7", "é.c"]
    let second := call ["clang-format", "-i", "--lines=5:5", "\ufffd.c"]
    (∀ e ∈ rawEntries, e.WellFormed) ∧ (∀ piece ∈ rawPieces, piece ≠ []) ∧
      rawPieces.flatten = renderBytes false rawEntries ∧ calls = [first, second] ∧
      IsCallFor "clang-format".toList rawEntries first "é.c".toList ∧
      IsCallFor "clang-format".toList rawEntries second "\ufffd.c".toList ∧
      ∀ e ∈ rawEntries, ∃ call ∈ calls, IsCallFor "clang-format".toList rawEntries call e.file := by
  intro calls call first second
  have wellFormed : ∀ e ∈ rawEntries, e.WellFormed := by decide
  have full : ∀ piece ∈ rawPieces, piece ≠ [] := by decide
  have written : rawPieces.flatten = renderBytes false rawEntries := by decide
  have isCalls : calls = [first, second] := by decide +kernel
  obtain ⟨each, all⟩ := run_calls_by_text wellFormed full written false {} Runner.scripted none []
  have bounded : ∀ e ∈ rawEntries, 1 ≤ e.found.number ∧ e.found.number ≤ MatchLine.maxNumber := by
    decide
  have supported : ∀ e ∈ rawEntries, FileType.isSupported e.file = true := by decide
  have succeed : ∀ outcome ∈ Runner.scripted.outcomes calls [], outcome = .ok () := by
    rw [isCalls]
    simp [Runner.outcomes, Runner.scripted]
  have isFor : ∀ made ∈ [first, second], ∃ file,
      IsCallFor "clang-format".toList rawEntries made file := isCalls ▸ each
  obtain ⟨file, firstFor⟩ := isFor first (by simp)
  obtain ⟨other, secondFor⟩ := isFor second (by simp)
  have isFile : some "é.c".toList = some file := firstFor.getLast?
  have isOther : some "\ufffd.c".toList = some other := secondFor.getLast?
  cases isFile
  cases isOther
  exact ⟨wellFormed, full, written, isCalls, firstFor, secondFor, fun e isEntry =>
    all rfl rfl bounded succeed e isEntry (supported e isEntry)⟩

/-- A path that is no text is called for together with the one whose text it is read as. -/
theorem different_paths_share_call :
    let first : RawEntry := ⟨[0xFF, 0x2E, 0x63], ['1'], [0x78], .lf⟩
    let second : RawEntry := ⟨[0xEF, 0xBF, 0xBD, 0x2E, 0x63], ['2'], [0x79], .lf⟩
    let input : Source := ⟨[.bytes (renderBytes true [first, second])], none⟩
    let words : List String := ["clang-format", "-i", "--lines=1:1", "--lines=2:2", "\ufffd.c"]
    first.WellFormed ∧ second.WellFormed ∧ first.path ≠ second.path ∧
      Event.calls (Run.run false {} Runner.scripted input []).events =
        [{ args := words.map String.toList }] ∧
      encode "\ufffd.c".toList ≠ first.path := by
  refine ⟨by decide, by decide, by decide, ?_, by decide⟩
  decide +kernel

end MatchedLines.SearchOutput
