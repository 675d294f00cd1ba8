import Mathlib.Algebra.GroupWithZero.Nat
import Mathlib.Data.List.Forall2
import MatchedLines.Proofs.Grouping
import MatchedLines.Proofs.MatchLineGrammar

/-! Grouping is stable. `Takes` says what one more match may do to a request, and `Groups` what a
request holds of the matches read so far; a request that is read groups its matches, and reading
on takes in the matches of the further lines one after another (`parse_append_groups`). -/
namespace MatchedLines

/-- The line is read as the match. -/
def MatchLine.Reads (line : Text) (m : MatchLine) : Prop := parse line = .ok m

/-- Lines are read all together exactly when each of them is read. -/
theorem MatchLine.mapM_parse_eq_ok_iff {lines : List Text} {found : List MatchLine} :
    lines.mapM parse = .ok found ↔ List.Forall₂ Reads lines found := by
  have report : lines.map parse? = found.map some ↔ List.Forall₂ Reads lines found := by
    rw [← List.forall₂_eq_eq_eq, List.forall₂_map_left_iff, List.forall₂_map_right_iff]
    exact ⟨fun all => all.imp fun _ _ => parse_eq_ok_iff.2,
      fun all => all.imp fun _ _ => parse_eq_ok_iff.1⟩
  rw [← report]
  exact ⟨reports_of_mapM_parse, mapM_parse_of_reports⟩

/-- Behind lines that are read, a line that is refused is the one that is named. -/
theorem MatchLine.mapM_parse_of_refused {front back : List Text} {found : List MatchLine}
    {bad : Text} (read : List.Forall₂ Reads front found) (refused : ∀ m, ¬ Reads bad m) :
    (front ++ bad :: back).mapM parse = .error (.inputSyntax bad) := by
  have malformed : parse? bad = none := by
    rw [Option.eq_none_iff_forall_not_mem]
    exact fun m isRead => refused m (parse_eq_ok_iff.2 isRead)
  induction read with
  | nil => exact mapM_parse_of_malformed (by simp) malformed
  | cons first _ ih =>
    rw [List.cons_append, mapM_parse_cons (parse_eq_ok_iff.1 first), ih]
    rfl

namespace Request

/-- One more match goes behind the lines of its file, which keeps its place, or opens a last group
for a file that has none. -/
inductive Takes (m : MatchLine) : Request → Request → Prop
  | behind (front : Request) (lines : List Int) (back : Request) (first : m.path ∉ front.paths) :
      Takes m (front ++ ⟨m.path, lines⟩ :: back)
        (front ++ ⟨m.path, lines ++ [(m.number : Int)]⟩ :: back)
  | last (request : Request) (fresh : m.path ∉ request.paths) :
      Takes m request (request ++ [⟨m.path, [(m.number : Int)]⟩])

/-- Matches are taken in one after another. -/
inductive TakesAll : List MatchLine → Request → Request → Prop
  | nil (request : Request) : TakesAll [] request request
  | cons {m : MatchLine} {more : List MatchLine} {request next whole : Request}
      (first : Takes m request next) (rest : TakesAll more next whole) :
      TakesAll (m :: more) request whole

/-- The request has a group for every file in which something was found, in the order of first
appearance, with all that was found in it and nothing else. -/
structure Groups (found : List MatchLine) (request : Request) : Prop where
  paths_eq : request.paths = MatchLine.paths found
  distinct : request.paths.Nodup
  lines_eq : ∀ g ∈ request, g.lines = (MatchLine.linesOf g.path found).map Int.ofNat
  lines_ne_nil : ∀ g ∈ request, g.lines ≠ []
  total : (request.map (·.lines.length)).sum = found.length

variable {request : Request} {found : List MatchLine}

/-- Adding the line of a match takes the match in. -/
theorem takes_add (m : MatchLine) (request : Request) :
    Takes m request (add m.path m.number request) := by
  induction request with
  | nil => exact .last [] (by simp [paths])
  | cons g rest ih =>
    by_cases same : g.path = m.path
    · obtain ⟨path, lines⟩ := g
      cases same
      have added : add m.path (m.number : Int) (⟨m.path, lines⟩ :: rest) =
          ⟨m.path, lines ++ [(m.number : Int)]⟩ :: rest := if_pos rfl
      rw [added]
      exact .behind [] lines rest (by simp [paths])
    · have added : add m.path (m.number : Int) (g :: rest) = g :: add m.path m.number rest :=
        if_neg same
      have other : m.path ≠ g.path := Ne.symm same
      rw [added]
      generalize add m.path m.number rest = next at ih
      cases ih with
      | behind front lines back first =>
        exact .behind (g :: front) lines back (by simpa [paths, other] using first)
      | last _ fresh => exact .last (g :: rest) (by simpa [paths, other] using fresh)

/-- A match that is taken in is one more line. -/
theorem Takes.total {m : MatchLine} {next : Request} (taken : Takes m request next) :
    (next.map (·.lines.length)).sum = (request.map (·.lines.length)).sum + 1 := by
  cases taken with
  | behind front lines back first =>
    simp only [List.map_append, List.map_cons, List.sum_append, List.sum_cons, List.length_append,
      List.length_singleton]
    omega
  | last fresh => simp

theorem TakesAll.total {whole : Request} (taken : TakesAll found request whole) :
    (whole.map (·.lines.length)).sum = (request.map (·.lines.length)).sum + found.length := by
  induction taken with
  | nil => rfl
  | cons first rest ih =>
    rw [ih, first.total, List.length_cons]
    omega

/-- Adding the lines of matches one after another takes the matches in. -/
theorem takesAll_foldl (found : List MatchLine) (request : Request) :
    TakesAll found request
      (found.foldl (fun request m => add m.path m.number request) request) := by
  induction found generalizing request with
  | nil => exact .nil request
  | cons m more ih => exact .cons (takes_add m request) (ih _)

/-- Matches that are added one after another are grouped. -/
theorem groups_ofMatches (found : List MatchLine) : Groups found (ofMatches found) := by
  have total := (takesAll_foldl found []).total
  rw [← ofMatches] at total
  rw [ofMatches_eq_grouped] at total ⊢
  have paths_eq := paths_grouped found
  have lines_eq : ∀ g ∈ grouped found,
      g.lines = (MatchLine.linesOf g.path found).map Int.ofNat := by
    intro g member
    obtain ⟨path, -, rfl⟩ := List.mem_map.1 member
    rfl
  refine ⟨paths_eq, paths_eq ▸ MatchLine.nodup_paths found, lines_eq, ?_, by simpa using total⟩
  intro g member
  have listed : g.path ∈ MatchLine.paths found := paths_eq ▸ List.mem_map_of_mem member
  obtain ⟨m, isFound, path⟩ := MatchLine.mem_paths.1 listed
  rw [lines_eq g member, ne_eq, List.map_eq_nil_iff, MatchLine.linesOf, List.map_eq_nil_iff]
  exact List.ne_nil_of_mem (List.mem_filter.2 ⟨isFound, by simpa using path⟩)

/-- Reading on from where a request had been read. -/
theorem parse_append {front back : List Text} {more : List MatchLine}
    (understood : front.mapM MatchLine.parse = .ok found)
    (goesOn : back.mapM MatchLine.parse = .ok more) :
    parse (front ++ back) =
      .ok (more.foldl (fun request m => add m.path m.number request) (ofMatches found)) := by
  rw [parse, List.mapM_append, understood, goesOn]
  change Except.ok (ofMatches (found ++ more)) = _
  rw [ofMatches, List.foldl_append, ← ofMatches]

/-- **Grouping is stable, and the first line that is refused is named.** Lines that are all read
give a request that groups their matches: each path once, in the order of first appearance, with
the numbers of exactly its own lines in order, as many in all as there are lines. Reading on keeps
that request but for what the further matches add, each behind the lines of its file or as a new
last file, and the whole groups all matches again. A line that is refused behind lines that are
read is the one that is named, whatever follows it. -/
theorem parse_append_groups {front : List Text} (read : List.Forall₂ MatchLine.Reads front found) :
    (∃ request, parse front = .ok request ∧ Groups found request ∧
      ∀ {back more}, List.Forall₂ MatchLine.Reads back more →
        ∃ whole, parse (front ++ back) = .ok whole ∧ TakesAll more request whole ∧
          Groups (found ++ more) whole) ∧
    ∀ {bad}, (∀ m, ¬ MatchLine.Reads bad m) →
      ∀ back, parse (front ++ bad :: back) = .error (.inputSyntax bad) := by
  have understood := MatchLine.mapM_parse_eq_ok_iff.2 read
  constructor
  · refine ⟨ofMatches found, by rw [parse, understood]; rfl, groups_ofMatches found, ?_⟩
    intro back more readBack
    have goesOn := MatchLine.mapM_parse_eq_ok_iff.2 readBack
    refine ⟨_, parse_append understood goesOn, takesAll_foldl more (ofMatches found), ?_⟩
    rw [ofMatches, ← List.foldl_append, ← ofMatches]
    exact groups_ofMatches (found ++ more)
  · intro bad refused back
    rw [parse, MatchLine.mapM_parse_of_refused read refused]
    rfl

/-- Four files in turns: three keep their places when more is found in two of them, and the fourth
comes last. -/
theorem parse_append_groups_in_turns :
    let front := ["b.h:2:x", "a.c:1:x", "b.h:2:y:z", "n.md:9:"].map String.toList
    let back := ["a.c:007:x", "d.c:4:x", "b.h:1:x"].map String.toList
    let bad := "d.c:0:x".toList
    let found : List MatchLine := [⟨"b.h".toList, 2⟩, ⟨"a.c".toList, 1⟩, ⟨"b.h".toList, 2⟩,
      ⟨"n.md".toList, 9⟩]
    let more : List MatchLine := [⟨"a.c".toList, 7⟩, ⟨"d.c".toList, 4⟩, ⟨"b.h".toList, 1⟩]
    let request : Request := [⟨"b.h".toList, [2, 2]⟩, ⟨"a.c".toList, [1]⟩, ⟨"n.md".toList, [9]⟩]
    let whole : Request := [⟨"b.h".toList, [2, 2, 1]⟩, ⟨"a.c".toList, [1, 7]⟩,
      ⟨"n.md".toList, [9]⟩, ⟨"d.c".toList, [4]⟩]
    List.Forall₂ MatchLine.Reads front found ∧ List.Forall₂ MatchLine.Reads back more ∧
      (∀ m, ¬ MatchLine.Reads bad m) ∧
      parse front = .ok request ∧ Groups found request ∧
      parse (front ++ back) = .ok whole ∧ TakesAll more request whole ∧
      Groups (found ++ more) whole ∧ parse (front ++ bad :: back) = .error (.inputSyntax bad) := by
  intro front back bad found more request whole
  have read : List.Forall₂ MatchLine.Reads front found := MatchLine.mapM_parse_eq_ok_iff.1 rfl
  have readBack : List.Forall₂ MatchLine.Reads back more := MatchLine.mapM_parse_eq_ok_iff.1 rfl
  have refused : ∀ m, ¬ MatchLine.Reads bad m := by
    have malformed : MatchLine.parse bad = .error (.inputSyntax bad) := rfl
    intro m isRead
    rw [MatchLine.Reads, malformed] at isRead
    cases isRead
  obtain ⟨⟨request', isRequest, groups, later⟩, stops⟩ := parse_append_groups read
  obtain rfl : request = request' := Except.ok.inj isRequest
  obtain ⟨whole', isWhole, taken, groupsWhole⟩ := later readBack
  obtain rfl : whole = whole' := Except.ok.inj isWhole
  exact ⟨read, readBack, refused, isRequest, groups, isWhole, taken, groupsWhole,
    stops refused back⟩

end Request
end MatchedLines
