import Mathlib.Data.List.Induction
import MatchedLines.Request.Grouping

/-! Adding matches one after another groups them: every path that was found has one group, in the
order of first appearance, and the group holds exactly the numbers found in that file. Reading
lines is all or nothing, and the first line that reports no match is the one that is named. -/
namespace MatchedLines

namespace MatchLine

/-- The listed paths are those of the matches. -/
theorem mem_paths {path : Text} {found : List MatchLine} :
    path ∈ paths found ↔ ∃ m ∈ found, m.path = path := by
  induction found with
  | nil => simp [paths]
  | cons m rest ih =>
    by_cases same : path = m.path
    · simp [paths, same]
    · simp [paths, same, ih, Ne.symm same]

/-- No path is listed twice. -/
theorem nodup_paths (found : List MatchLine) : (paths found).Nodup := by
  induction found with
  | nil => exact List.nodup_nil
  | cons m rest ih => exact List.nodup_cons.2 ⟨by simp, ih.filter _⟩

theorem paths_concat (found : List MatchLine) (m : MatchLine) :
    paths (found ++ [m]) =
      if m.path ∈ paths found then paths found else paths found ++ [m.path] := by
  induction found with
  | nil => simp [paths]
  | cons first rest ih =>
    by_cases same : m.path = first.path
    · by_cases listed : first.path ∈ paths rest <;> simp [paths, ih, same, listed]
    · by_cases listed : m.path ∈ paths rest <;> simp [paths, ih, same, listed]

theorem linesOf_concat (path : Text) (found : List MatchLine) (m : MatchLine) :
    linesOf path (found ++ [m]) =
      linesOf path found ++ if path = m.path then [m.number] else [] := by
  by_cases same : path = m.path
  · simp [linesOf, same]
  · simp [linesOf, same, Ne.symm same]

/-- A path that was not found has no lines. -/
theorem linesOf_eq_nil {path : Text} {found : List MatchLine} (absent : path ∉ paths found) :
    linesOf path found = [] := by
  rw [mem_paths] at absent
  simpa [linesOf] using absent

/-- A line that reports a match is read as that match, and the others decide the rest. -/
theorem mapM_parse_cons {line : Text} {m : MatchLine} (reports : parse? line = some m)
    (lines : List Text) : (line :: lines).mapM parse = (lines.mapM parse).map (m :: ·) := by
  rw [List.mapM_cons, parse, reports]
  cases lines.mapM parse <;> rfl

/-- Lines are read as the matches that they report, one each and in order. -/
theorem mapM_parse_of_reports {lines : List Text} {found : List MatchLine}
    (report : lines.map parse? = found.map some) : lines.mapM parse = .ok found := by
  induction lines generalizing found with
  | nil =>
    cases found with
    | nil => rfl
    | cons m found => simp at report
  | cons line lines ih =>
    cases found with
    | nil => simp at report
    | cons m found =>
      simp only [List.map_cons, List.cons.injEq] at report
      rw [mapM_parse_cons report.1, ih report.2]
      rfl

/-- Lines that are all read report the matches that they are read as. -/
theorem reports_of_mapM_parse {lines : List Text} {found : List MatchLine}
    (understood : lines.mapM parse = .ok found) : lines.map parse? = found.map some := by
  induction lines generalizing found with
  | nil =>
    cases understood
    rfl
  | cons line lines ih =>
    cases reports : parse? line with
    | none =>
      rw [List.mapM_cons, parse, reports] at understood
      cases understood
    | some m =>
      rw [mapM_parse_cons reports] at understood
      cases rest : lines.mapM parse with
      | error f =>
        rw [rest] at understood
        cases understood
      | ok more =>
        rw [rest] at understood
        cases understood
        rw [List.map_cons, List.map_cons, reports, ih rest]

/-- The first line that reports no match is named, whatever stands behind it. -/
theorem mapM_parse_of_malformed {before after : List Text} {bad : Text}
    (wellFormed : ∀ line ∈ before, parse? line ≠ none) (malformed : parse? bad = none) :
    (before ++ bad :: after).mapM parse = .error (.inputSyntax bad) := by
  induction before with
  | nil =>
    rw [List.nil_append, List.mapM_cons, parse, malformed]
    rfl
  | cons line before ih =>
    obtain ⟨m, reports⟩ := Option.ne_none_iff_exists'.1 (wellFormed line (by simp))
    rw [List.cons_append, mapM_parse_cons reports,
      ih fun other member => wellFormed other (by simp [member])]
    rfl

end MatchLine

namespace Request

/-- Adding a line to groups of distinct paths extends the group of its path, or opens one behind
all others. -/
theorem add_groups {path : Text} {line : Int} {paths : List Text} {lines : Text → List Int}
    (distinct : paths.Nodup) :
    add path line (paths.map fun p => ⟨p, lines p⟩) =
      if path ∈ paths then paths.map fun p => ⟨p, lines p ++ if p = path then [line] else []⟩
      else (paths.map fun p => ⟨p, lines p⟩) ++ [⟨path, [line]⟩] := by
  induction paths with
  | nil => rfl
  | cons p paths ih =>
    obtain ⟨fresh, distinctRest⟩ := List.nodup_cons.1 distinct
    by_cases same : p = path
    · subst same
      have kept : (paths.map fun q => (⟨q, lines q⟩ : Group)) =
          paths.map fun q => ⟨q, lines q ++ if q = p then [line] else []⟩ := by
        apply List.map_congr_left
        intro q member
        have other : q ≠ p := fun eq => fresh (eq ▸ member)
        simp [other]
      simp [add, kept]
    · have notFirst : path ≠ p := Ne.symm same
      by_cases listed : path ∈ paths <;> simp [add, same, notFirst, ih distinctRest, listed]

/-- Adding the matches one after another gives one group for every path, with all its lines. -/
theorem ofMatches_eq_grouped (found : List MatchLine) : ofMatches found = grouped found := by
  induction found using List.reverseRecOn with
  | nil => rfl
  | append_singleton found m ih =>
    have step : ofMatches (found ++ [m]) = (ofMatches found).add m.path m.number := by
      simp [ofMatches]
    rw [step, ih, grouped, add_groups (MatchLine.nodup_paths found), grouped,
      MatchLine.paths_concat]
    by_cases listed : m.path ∈ MatchLine.paths found
    · rw [if_pos listed, if_pos listed]
      apply List.map_congr_left
      intro path _
      by_cases same : path = m.path <;> simp [MatchLine.linesOf_concat, same]
    · rw [if_neg listed, if_neg listed, List.map_append]
      congr 1
      · apply List.map_congr_left
        intro path member
        have other : path ≠ m.path := fun eq => listed (eq ▸ member)
        simp [MatchLine.linesOf_concat, other]
      · simp [MatchLine.linesOf_concat, MatchLine.linesOf_eq_nil listed]

/-- The files of a request that was read are the paths that were found. -/
theorem paths_grouped (found : List MatchLine) :
    (grouped found).paths = MatchLine.paths found := by
  simp [paths, grouped, Function.comp_def]

/-- The lines asked for in a file are those that were found in it. -/
theorem linesOf_grouped (path : Text) (found : List MatchLine) :
    (grouped found).linesOf path = (MatchLine.linesOf path found).map Int.ofNat := by
  have ofPath : (grouped found).find? (·.path = path) =
      ((MatchLine.paths found).find? (fun other => other = path)).map fun path =>
        ⟨path, (MatchLine.linesOf path found).map Int.ofNat⟩ := List.find?_map ..
  rw [linesOf, ofPath]
  by_cases listed : path ∈ MatchLine.paths found
  · have first : (MatchLine.paths found).find? (fun other => other = path) = some path := by
      cases search : (MatchLine.paths found).find? (fun other => other = path) with
      | none => simpa using List.find?_eq_none.1 search path listed
      | some other => simpa using List.find?_some search
    simp [first]
  · have absent : (MatchLine.paths found).find? (fun other => other = path) = none := by
      rw [List.find?_eq_none]
      intro other member eq
      simp only [decide_eq_true_eq] at eq
      exact listed (eq ▸ member)
    simp [absent, MatchLine.linesOf_eq_nil listed]

/-- Lines that all report matches are read as the request that groups them. -/
theorem parse_eq_grouped {lines : List Text} {found : List MatchLine}
    (read : lines.mapM MatchLine.parse = .ok found) : parse lines = .ok (grouped found) := by
  rw [parse, read, ← ofMatches_eq_grouped]
  rfl

end Request
end MatchedLines
