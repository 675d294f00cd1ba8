import MatchedLines.Proofs.Grouping
import MatchedLines.Proofs.MatchLineGrammar
import MatchedLines.Proofs.Utf8Streams
import MatchedLines.SearchOutput

/-! Search output is read back as it was written. The bytes may be cut into pieces anywhere, each
line may end in its own way, and the matched text may hold colons of its own: what is read is one
group for every path that was written, with the numbers of its lines in order. -/
namespace MatchedLines.SearchOutput

open Lines

namespace Entry

variable {e : Entry}

/-- Whether the entry is well formed, character by character. -/
theorem wellFormed_iff (e : Entry) :
    (e.path ≠ [] ∧ e.path.all (fun c => c ≠ ':' ∧ Text.isBreak c = false) = true ∧
      Decimal.isNumeral e.digits = true ∧ 1 ≤ Decimal.value e.digits ∧
      Decimal.value e.digits ≤ MatchLine.maxNumber ∧
      e.matched.all (fun c => Text.isBreak c = false) = true) ↔ e.WellFormed := by
  simp only [List.all_eq_true, decide_eq_true_eq]
  constructor
  · rintro ⟨path, plain, numeral, pos, le, matched⟩
    exact ⟨path, plain, numeral, pos, le, matched⟩
  · rintro ⟨path, plain, numeral, pos, le, matched⟩
    exact ⟨path, plain, numeral, pos, le, matched⟩

instance (e : Entry) : Decidable e.WellFormed := decidable_of_iff _ (wellFormed_iff e)

/-- The entry is one line and nothing else stands between its colons, whatever its number is. -/
structure Plain (e : Entry) : Prop where
  path_ne_nil : e.path ≠ []
  path_plain : ∀ c ∈ e.path, c ≠ ':' ∧ Text.isBreak c = false
  digits_numeral : Decimal.isNumeral e.digits = true
  matched_plain : ∀ c ∈ e.matched, Text.isBreak c = false

theorem WellFormed.plain (wellFormed : e.WellFormed) : e.Plain :=
  ⟨wellFormed.path_ne_nil, wellFormed.path_plain, wellFormed.digits_numeral,
    wellFormed.matched_plain⟩

/-- A reported line holds no line break. -/
theorem line_plain (plain : e.Plain) : ∀ c ∈ e.line, Text.isBreak c = false := by
  intro c member
  simp only [line, List.mem_append, List.mem_cons] at member
  rcases member with member | rfl | member | rfl | member
  · exact (plain.path_plain c member).2
  · rfl
  · exact (Decimal.plain_of_isNumeral plain.digits_numeral member).2
  · rfl
  · exact plain.matched_plain c member

theorem line_ne_nil (e : Entry) : e.line ≠ [] := by simp [line]

/-- A line that starts with a path does not start with an LF. -/
theorem line_head (plain : e.Plain) (t : Text) : (e.line ++ t).head? ≠ some '\n' := by
  obtain ⟨c, path, isPath⟩ := List.exists_cons_of_ne_nil plain.path_ne_nil
  have notBreak := (plain.path_plain c (by simp [isPath])).2
  simp only [line, isPath, List.cons_append, List.head?_cons, ne_eq, Option.some.injEq]
  rintro rfl
  simp [Text.isBreak] at notBreak

/-- A reported line spells what it reports. -/
theorem spells_line (wellFormed : e.WellFormed) : MatchLine.Spells e.line e.found :=
  ⟨e.digits, e.matched, rfl, wellFormed.path_ne_nil,
    fun member => (wellFormed.path_plain _ member).1 rfl, wellFormed.digits_numeral, rfl,
    wellFormed.number_pos, wellFormed.number_le⟩

/-- A reported line can spell nothing else, and nothing at all if its number is not allowed. -/
theorem found_of_spells (plain : e.Plain) {m : MatchLine} (spelled : MatchLine.Spells e.line m) :
    m = e.found := by
  have parts : MatchLine.Parts e.line e.path e.digits e.matched :=
    ⟨rfl, fun member => (plain.path_plain _ member).1 rfl,
      fun member => (Decimal.plain_of_isNumeral plain.digits_numeral member).1 rfl⟩
  obtain ⟨field, matched, otherParts, -, number⟩ := MatchLine.spells_iff_parts.1 spelled
  obtain ⟨samePath, rfl, -⟩ := otherParts.unique parts
  obtain ⟨-, value, -⟩ := MatchLine.number?_eq_some_iff.1 number
  cases m
  cases samePath
  cases value
  rfl

/-- A line and its end are one line of the text, unless the end is a CR whose LF comes next. -/
theorem ofText_line (isPlain : e.Plain) (rest : Text)
    (apart : e.ending = .cr → rest.head? ≠ some '\n') :
    ofText (e.line ++ e.ending.text ++ rest) = e.line :: ofText rest := by
  rw [ofText, cut_line (line_plain isPlain) e.ending apart, close_join, join_empty]
  rfl

end Entry

theorem render_cons_cons (lastEnded : Bool) (e next : Entry) (rest : List Entry) :
    render lastEnded (e :: next :: rest) =
      e.line ++ e.ending.text ++ render lastEnded (next :: rest) := rfl

/-- Output starts with a path and not with an LF. -/
theorem render_head {e : Entry} (plain : e.Plain) (lastEnded : Bool) (rest : List Entry) :
    (render lastEnded (e :: rest)).head? ≠ some '\n' := by
  cases rest with
  | nil => exact e.line_head plain _
  | cons next rest =>
    rw [render_cons_cons, List.append_assoc]
    exact e.line_head plain _

/-- The lines of the output are those that were reported. -/
theorem ofText_render_of_plain {entries : List Entry} (plain : ∀ e ∈ entries, e.Plain)
    (lastEnded : Bool) : ofText (render lastEnded entries) = entries.map Entry.line := by
  induction entries with
  | nil => rfl
  | cons e rest ih =>
    have headPlain := plain e (by simp)
    have restPlain : ∀ other ∈ rest, other.Plain :=
      fun other member => plain other (by simp [member])
    cases rest with
    | nil =>
      cases lastEnded with
      | true =>
        have := e.ofText_line headPlain [] (by simp)
        simpa [render, ofText, cut, close] using this
      | false =>
        have unended := cut_of_plain (e.line_plain headPlain)
        simp [render, ofText, unended, close, e.line_ne_nil]
    | cons next rest =>
      have apart := render_head (restPlain next (by simp)) lastEnded rest
      rw [render_cons_cons, e.ofText_line headPlain _ fun _ => apart, ih restPlain]
      rfl

theorem ofText_render {entries : List Entry} (wellFormed : ∀ e ∈ entries, e.WellFormed)
    (lastEnded : Bool) : ofText (render lastEnded entries) = entries.map Entry.line :=
  ofText_render_of_plain (fun e member => (wellFormed e member).plain) lastEnded

/-- If the lines of the output are understood at all, then as what they report. -/
theorem found_of_mapM_parse {entries : List Entry} {found : List MatchLine}
    (plain : ∀ e ∈ entries, e.Plain)
    (understood : (entries.map Entry.line).mapM MatchLine.parse = .ok found) :
    found = entries.map Entry.found := by
  have report := MatchLine.reports_of_mapM_parse understood
  have each : ∀ e ∈ entries, MatchLine.parse? e.line = some e.found := by
    intro e member
    have reported : MatchLine.parse? e.line ∈ found.map some := by
      rw [← report]
      exact List.mem_map_of_mem (List.mem_map_of_mem member)
    obtain ⟨m, -, read⟩ := List.mem_map.1 reported
    rw [← read, e.found_of_spells (plain e member) (MatchLine.Spells.of_parse? read.symm)]
  have same : (entries.map Entry.line).map MatchLine.parse? =
      (entries.map Entry.found).map some := by
    rw [List.map_map, List.map_map]
    exact List.map_congr_left each
  exact (List.map_inj_right fun m other equal => Option.some.inj equal).1 (report.symm.trans same)

/-- Every reported line is read as what it reports. -/
theorem mapM_parse_lines {entries : List Entry} (wellFormed : ∀ e ∈ entries, e.WellFormed) :
    (entries.map Entry.line).mapM MatchLine.parse = .ok (entries.map Entry.found) := by
  apply MatchLine.mapM_parse_of_reports
  rw [List.map_map, List.map_map]
  exact List.map_congr_left fun e member => (Entry.spells_line (wellFormed e member)).parse?

/-- **Reading undoes writing.** Whatever the entries and their line ends are and wherever the bytes
are cut, the lines that are read are those that were reported, and they are understood: the request
names each path once, where it first appears, and asks for the numbers of its entries in their
order, repetitions kept. -/
theorem request_of_render {entries : List Entry} {lastEnded : Bool} {pieces : List Bytes}
    (wellFormed : ∀ e ∈ entries, e.WellFormed) (full : ∀ piece ∈ pieces, piece ≠ [])
    (written : pieces.flatten = Utf8.encode (render lastEnded entries)) :
    Source.readLines ⟨pieces.map .bytes, none⟩ = .ok (entries.map Entry.line) ∧
      ∃ request, Request.parse (entries.map Entry.line) = .ok request ∧
        request.paths = MatchLine.paths (entries.map Entry.found) ∧ request.paths.Nodup ∧
        ∀ path, request.linesOf path =
          (entries.filter (·.path = path)).map fun e => (Decimal.value e.digits : Int) := by
  have decoded : (Utf8.Feed.take {} pieces.flatten).2 = render lastEnded entries := by
    rw [written, Utf8.Feed.take_encode]
  refine ⟨?_, _, Request.parse_eq_grouped (mapM_parse_lines wellFormed),
    Request.paths_grouped _, ?_, fun path => ?_⟩
  · rw [Source.readLines_bytes full, decoded, ofText_render wellFormed]
  · rw [Request.paths_grouped]
    exact MatchLine.nodup_paths _
  · rw [Request.linesOf_grouped, MatchLine.linesOf, List.filter_map, List.map_map, List.map_map]
    rfl

/-- Three lines with three ends, the last left out. -/
def mixedEntries : List Entry :=
  [⟨['漢', '.', 'c'], "007".toList, "x:y".toList, .crlf⟩, ⟨"b.h".toList, ['2'], [], .cr⟩,
    ⟨['漢', '.', 'c'], ['7'], ['z'], .lf⟩]

/-- Their bytes, cut inside a CRLF and inside both of the wide characters. -/
def mixedPieces : List Bytes :=
  [[0xE6, 0xBC], [0xA2, 0x2E, 0x63, 0x3A, 0x30, 0x30, 0x37, 0x3A, 0x78, 0x3A, 0x79, 0x0D],
    [0x0A, 0x62, 0x2E, 0x68, 0x3A, 0x32, 0x3A, 0x0D, 0xE6], [0xBC],
    [0xA2, 0x2E, 0x63, 0x3A, 0x37, 0x3A, 0x7A]]

theorem request_of_render_mixed :
    (∀ e ∈ mixedEntries, e.WellFormed) ∧ (∀ piece ∈ mixedPieces, piece ≠ []) ∧
      mixedPieces.flatten = Utf8.encode (render false mixedEntries) ∧
      Source.readLines ⟨mixedPieces.map .bytes, none⟩ = .ok (mixedEntries.map Entry.line) ∧
      ∃ request, Request.parse (mixedEntries.map Entry.line) = .ok request ∧
        request.paths = [['漢', '.', 'c'], "b.h".toList] ∧
        request.linesOf ['漢', '.', 'c'] = [7, 7] ∧ request.linesOf "b.h".toList = [2] := by
  have wellFormed : ∀ e ∈ mixedEntries, e.WellFormed := by decide
  have full : ∀ piece ∈ mixedPieces, piece ≠ [] := by decide
  have written : mixedPieces.flatten = Utf8.encode (render false mixedEntries) := by decide
  obtain ⟨read, request, parsed, paths, -, lines⟩ := request_of_render wellFormed full written
  exact ⟨wellFormed, full, written, read, request, parsed, paths, lines _, lines _⟩

end MatchedLines.SearchOutput
