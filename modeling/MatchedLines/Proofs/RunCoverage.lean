import MatchedLines.Proofs.CommandReading
import MatchedLines.Proofs.RunPlan

/-! A run whose calls succeed formats exactly what was found: one call for every supported file, in
the order of first appearance, with the lines of that file. The calls are read by position
(`Command.Reading`), so the statement is about what the formatter is told and not about how its
words were put together. -/
namespace MatchedLines

namespace MatchLine

/-- Taken file by file, the matches in some files are all the matches in those files, each as often
as it was found. -/
theorem flatMap_filter_perm (found : List MatchLine) {files : List Text} (distinct : files.Nodup) :
    (files.flatMap fun path => found.filter (·.path = path)).Perm
      (found.filter (·.path ∈ files)) := by
  induction files with
  | nil => simp
  | cons path files ih =>
    obtain ⟨fresh, distinctRest⟩ := List.nodup_cons.1 distinct
    have parts := List.filter_append_perm (fun m : MatchLine => decide (m.path = path))
      (found.filter (·.path ∈ path :: files))
    have here : (found.filter (·.path ∈ path :: files)).filter (·.path = path) =
        found.filter (·.path = path) := by
      rw [List.filter_filter]
      apply List.filter_congr
      intro m _
      by_cases same : m.path = path <;> simp [same]
    have elsewhere : (found.filter (·.path ∈ path :: files)).filter
        (fun m => !decide (m.path = path)) = found.filter (·.path ∈ files) := by
      rw [List.filter_filter]
      apply List.filter_congr
      intro m _
      by_cases same : m.path = path <;> simp [same, fresh]
    rw [here, elsewhere] at parts
    exact ((ih distinctRest).append_left _).trans parts

end MatchLine

namespace Run

open Command (Reading)

variable {σ : Type}

/-- A run in earnest plans one call for every supported path, with all its lines. -/
theorem calls_plan_inPlace {coloured : Bool} {o : Options} (inEarnest : o.dryRun = false)
    (found : List MatchLine) :
    Event.calls (plan coloured o.verbose (formatter coloured o) (Request.grouped found)) =
      commands o found := by
  rw [calls_plan (formatter_notice_isWrite coloured o), formatter, inEarnest, Request.grouped,
    List.filter_map, List.filterMap_map]
  simp [Formatter.inPlace, commands, command, Function.comp_def]

/-- A dry run calls nothing. -/
theorem calls_plan_dryRun {coloured : Bool} {o : Options} (dry : o.dryRun = true)
    (request : Request) :
    Event.calls (plan coloured o.verbose (formatter coloured o) request) = [] := by
  rw [calls_plan (formatter_notice_isWrite coloured o), formatter, dry]
  simp [Formatter.dryRun]

/-- Whatever the runner answers, a run in earnest calls for the first so many of the supported
files, each with all its lines, and for all of them if no call fails. -/
theorem exists_calls_eq (coloured : Bool) {o : Options} (runner : Runner Invocation σ) (s : σ)
    {input : Source} {lines : List Text} {found : List MatchLine}
    (read : input.readLines = .ok lines) (understood : lines.mapM MatchLine.parse = .ok found)
    (inEarnest : o.dryRun = false) :
    let calls := Event.calls (run coloured o runner input s).events
    ∃ files, files <+: (MatchLine.paths found).filter FileType.isSupported ∧
      ((∀ outcome ∈ runner.outcomes calls s, outcome = .ok ()) →
        files = (MatchLine.paths found).filter FileType.isSupported) ∧
      calls = files.map (command o found) := by
  have made := calls_run_prefix read understood coloured o runner s
  rw [calls_plan_inPlace inEarnest] at made
  obtain ⟨files, isPrefix, isCalls⟩ := List.prefix_map_iff.1 made
  refine ⟨files, isPrefix, fun succeed => ?_, isCalls⟩
  have planned := congrArg Event.calls (run_of_ok read understood succeed).2
  rw [isCalls, calls_plan_inPlace inEarnest] at planned
  have sameLength := congrArg List.length planned
  rw [commands, List.length_map, List.length_map] at sameLength
  exact isPrefix.eq_of_length sameLength

/-- What a run in earnest tells the formatter. -/
def readings (o : Options) (found : List MatchLine) : List Reading :=
  ((MatchLine.paths found).filter FileType.isSupported).map fun path =>
    ⟨o.binary, path, MatchLine.linesOf path found⟩

/-- Over all calls the file and line pairs are those of the matches in supported files. -/
theorem flatMap_readings_perm (o : Options) (found : List MatchLine) :
    ((readings o found).flatMap fun r => r.lines.map fun n => (r.path, n)).Perm
      ((found.filter fun m => FileType.isSupported m.path).map fun m => (m.path, m.number)) := by
  have byFile (path : Text) : (MatchLine.linesOf path found).map (fun n => (path, n)) =
      (found.filter (·.path = path)).map fun m => (m.path, m.number) := by
    rw [MatchLine.linesOf, List.map_map]
    apply List.map_congr_left
    intro m member
    have inFile : m.path = path := by simpa using (List.mem_filter.1 member).2
    simp [inFile]
  have supported : (found.filter fun m => FileType.isSupported m.path) =
      found.filter (·.path ∈ (MatchLine.paths found).filter FileType.isSupported) := by
    apply List.filter_congr
    intro m member
    have listed : m.path ∈ MatchLine.paths found := MatchLine.mem_paths.2 ⟨m, member, rfl⟩
    simp [listed]
  rw [readings, List.flatMap_map, supported]
  simp only [byFile]
  rw [← List.map_flatMap]
  exact (MatchLine.flatMap_filter_perm found ((MatchLine.nodup_paths found).filter _)).map _

/-- **Nothing is lost, doubled, reordered or misdirected.** A run in earnest on lines that were all
understood, with a runner that lets each of its calls succeed, ends well. Read by position, its
calls name the formatter asked for and the supported paths, each once and in the order of first
appearance, and each asks for exactly the lines found in its file. So the file and line pairs over
all calls are those of the matches in supported files, each as often as it was found. -/
theorem run_formats_found {coloured : Bool} {o : Options} {runner : Runner Invocation σ}
    {input : Source} {s : σ} {lines : List Text} {found : List MatchLine}
    (read : input.readLines = .ok lines) (understood : lines.mapM MatchLine.parse = .ok found)
    (inEarnest : o.dryRun = false)
    (succeed : ∀ outcome ∈
      runner.outcomes (Event.calls (run coloured o runner input s).events) s, outcome = .ok ()) :
    (run coloured o runner input s).outcome = .ok 0 ∧
      ∃ readings : List Reading,
        (Event.calls (run coloured o runner input s).events).map
            (fun call => Reading.ofArguments? call.args) = readings.map some ∧
        (∀ r ∈ readings, r.binary = o.binary) ∧
        readings.map Reading.path = (MatchLine.paths found).filter FileType.isSupported ∧
        (readings.map Reading.path).Nodup ∧
        (∀ r ∈ readings, r.lines = MatchLine.linesOf r.path found) ∧
        (readings.flatMap fun r => r.lines.map fun n => (r.path, n)).Perm
          ((found.filter fun m => FileType.isSupported m.path).map
            fun m => (m.path, m.number)) := by
  rw [run_eq_perform read understood] at succeed ⊢
  rw [calls_reported] at succeed ⊢
  obtain ⟨events, outcome⟩ := Session.perform_of_ok (Session.outcomes_ok_of_made succeed)
  rw [events, calls_plan_inPlace inEarnest]
  have files : (readings o found).map Reading.path =
      (MatchLine.paths found).filter FileType.isSupported := by
    simp [readings, Function.comp_def]
  refine ⟨by rw [reported_of_ok outcome], readings o found, ?_, ?_, files, ?_, ?_,
    flatMap_readings_perm o found⟩
  · simp [readings, commands, command, Function.comp_def, Reading.ofArguments?_arguments]
  · intro r member
    obtain ⟨path, -, rfl⟩ := List.mem_map.1 member
    rfl
  · rw [files]
    exact (MatchLine.nodup_paths found).filter _
  · intro r member
    obtain ⟨path, -, rfl⟩ := List.mem_map.1 member
    rfl

/-- Lines of two supported files and one that is not, taken in turns. -/
def interleaved : List Text :=
  ["f.cpp:5:a", "notes.txt:1:b", "f.cpp:5:c", "g.h:2:d", "f.cpp:9:e"].map String.toList

theorem run_formats_found_interleaved :
    let input : Source := ⟨interleaved.map fun line => .text (line ++ ['\n']), none⟩
    let found : List MatchLine := [⟨"f.cpp".toList, 5⟩, ⟨"notes.txt".toList, 1⟩,
      ⟨"f.cpp".toList, 5⟩, ⟨"g.h".toList, 2⟩, ⟨"f.cpp".toList, 9⟩]
    let x := run false {} Runner.scripted input [.ok (), .ok (), .error (.bare [])]
    input.readLines = .ok interleaved ∧ interleaved.mapM MatchLine.parse = .ok found ∧
      (∀ outcome ∈ Runner.scripted.outcomes (Event.calls x.events)
        [.ok (), .ok (), .error (.bare [])], outcome = .ok ()) ∧
      x.outcome = .ok 0 ∧
      ∃ readings : List Reading,
        (Event.calls x.events).map (fun call => Reading.ofArguments? call.args) =
          readings.map some ∧
        readings.map Reading.path = ["f.cpp".toList, "g.h".toList] ∧
        ∀ r ∈ readings, r.lines = MatchLine.linesOf r.path found := by
  intro input found x
  have read : input.readLines = .ok interleaved := rfl
  have understood : interleaved.mapM MatchLine.parse = .ok found := rfl
  have succeed : ∀ outcome ∈ Runner.scripted.outcomes (Event.calls x.events)
      [.ok (), .ok (), .error (.bare [])], outcome = .ok () := by decide
  obtain ⟨outcome, readings, told, -, files, -, lines, -⟩ :=
    run_formats_found read understood rfl succeed
  exact ⟨read, understood, succeed, outcome, readings, told, files, lines⟩

end Run
end MatchedLines
