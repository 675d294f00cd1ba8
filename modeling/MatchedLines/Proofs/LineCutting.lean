import MatchedLines.Proofs.Utf8Streams

/-! What the lines of a text are, said without reading it: a text is cut into lines with their ends
and the beginning of one more (`Cuts`), which can be done in one way only. A stream has the lines
of that cut, whatever its chunks are (`readLines_of_cuts`). -/
namespace MatchedLines.Lines

theorem isBreak_of_mem_ending {ending : LineEnd} {c : Char} (member : c ∈ ending.text) :
    Text.isBreak c = true := by
  cases ending <;> simp only [LineEnd.text, List.mem_cons, List.not_mem_nil, or_false] at member
  · subst member; rfl
  · rcases member with rfl | rfl <;> rfl
  · subst member; rfl

/-- A line with the end that it has in the text. -/
structure EndedLine where
  line : Text
  ending : LineEnd
  deriving DecidableEq, Repr

def EndedLine.text (e : EndedLine) : Text := e.line ++ e.ending.text

/-- The text of these lines with what follows the last of them. -/
def written (ended : List EndedLine) (last : Text) : Text := ended.flatMap EndedLine.text ++ last

/-- The text is cut at all of its line ends: they stand where they were, no line holds a break, and
a CR with an LF behind it is one end and not two. -/
structure Cuts (t : Text) (ended : List EndedLine) (last : Text) : Prop where
  written_eq : written ended last = t
  line_plain : ∀ e ∈ ended, ∀ c ∈ e.line, Text.isBreak c = false
  last_plain : ∀ c ∈ last, Text.isBreak c = false
  longest : ∀ front line back, ended = front ++ ⟨line, .cr⟩ :: back →
    (written back last).head? ≠ some '\n'

variable {t last : Text} {ended : List EndedLine}

/-- Without breaks there is only the beginning of a line. -/
theorem Cuts.unended (plain : ∀ c ∈ t, Text.isBreak c = false) : Cuts t [] t :=
  ⟨rfl, by simp, plain, by simp⟩

/-- A line and its end can be put in front. -/
theorem Cuts.cons (cuts : Cuts t ended last) (e : EndedLine)
    (plain : ∀ c ∈ e.line, Text.isBreak c = false)
    (apart : e.ending = .cr → t.head? ≠ some '\n') : Cuts (e.text ++ t) (e :: ended) last where
  written_eq := by
    rw [← cuts.written_eq, written, List.flatMap_cons, List.append_assoc]
    rfl
  line_plain := List.forall_mem_cons.2 ⟨plain, cuts.line_plain⟩
  last_plain := cuts.last_plain
  longest := by
    intro front line back isCut
    cases front with
    | nil =>
      obtain ⟨rfl, rfl⟩ := List.cons.inj isCut
      rw [cuts.written_eq]
      exact apart rfl
    | cons first front => exact cuts.longest front line back (List.cons.inj isCut).2

/-- Behind the first line the text is cut likewise. -/
theorem Cuts.tail {e : EndedLine} (cuts : Cuts t (e :: ended) last) :
    t = e.text ++ written ended last ∧ (e.ending = .cr → (written ended last).head? ≠ some '\n') ∧
      Cuts (written ended last) ended last := by
  obtain ⟨line, ending⟩ := e
  refine ⟨?_, ?_, rfl, fun other member => cuts.line_plain other (by simp [member]),
    cuts.last_plain, fun front line' back isCut => ?_⟩
  · rw [← cuts.written_eq, written, List.flatMap_cons, List.append_assoc]
    rfl
  · rintro rfl
    exact cuts.longest [] line ended rfl
  · exact cuts.longest (⟨line, ending⟩ :: front) line' back (by rw [isCut, List.cons_append])

/-- Every text can be cut. -/
theorem exists_cuts (t : Text) : ∃ ended last, Cuts t ended last := by
  induction t using cut_induction with
  | nil => exact ⟨[], [], .unended (by simp)⟩
  | crlf t ih =>
    obtain ⟨ended, last, cuts⟩ := ih
    exact ⟨_, last, cuts.cons ⟨[], .crlf⟩ (by simp) (by simp)⟩
  | single c t breaks alone ih =>
    obtain ⟨ended, last, cuts⟩ := ih
    simp only [Text.isBreak, Bool.or_eq_true, decide_eq_true_eq] at breaks
    rcases breaks with rfl | rfl
    · exact ⟨_, last, cuts.cons ⟨[], .lf⟩ (by simp) (by simp)⟩
    · exact ⟨_, last, cuts.cons ⟨[], .cr⟩ (by simp) fun _ => alone rfl⟩
  | plain c t plain ih =>
    obtain ⟨ended, last, cuts⟩ := ih
    cases ended with
    | nil =>
      obtain rfl : last = t := cuts.written_eq
      exact ⟨[], c :: last, .unended (List.forall_mem_cons.2 ⟨plain, cuts.last_plain⟩)⟩
    | cons e ended =>
      obtain ⟨rfl, apart, later⟩ := cuts.tail
      have begun : ∀ d ∈ c :: e.line, Text.isBreak d = false :=
        List.forall_mem_cons.2 ⟨plain, cuts.line_plain e (by simp)⟩
      exact ⟨_, last, later.cons ⟨c :: e.line, e.ending⟩ begun apart⟩

/-- Reading finds the lines of the cut. -/
theorem Cuts.cut_eq (cuts : Cuts t ended last) : cut t = (ended.map EndedLine.line, last) := by
  induction ended generalizing t with
  | nil =>
    obtain rfl : last = t := cuts.written_eq
    exact cut_of_plain cuts.last_plain
  | cons e ended ih =>
    obtain ⟨rfl, apart, later⟩ := cuts.tail
    rw [EndedLine.text, cut_line (cuts.line_plain e (by simp)) e.ending apart, ih later]
    cases ended <;> rfl

/-- A line end is told from the text behind it: a CR takes the LF with it. -/
theorem ending_unique {ending ending' : LineEnd} {back back' : Text}
    (same : ending.text ++ back = ending'.text ++ back')
    (apart : ending = .cr → back.head? ≠ some '\n')
    (apart' : ending' = .cr → back'.head? ≠ some '\n') : ending = ending' ∧ back = back' := by
  cases ending <;> cases ending' <;> simp only [LineEnd.text, List.cons_append, List.nil_append,
    List.cons.injEq, Char.reduceEq, true_and, false_and] at same
  case lf.lf => exact ⟨rfl, same⟩
  case crlf.crlf => exact ⟨rfl, same⟩
  case crlf.cr => exact absurd (by rw [← same]; rfl) (apart' rfl)
  case cr.crlf => exact absurd (by rw [same]; rfl) (apart rfl)
  case cr.cr => exact ⟨rfl, same⟩

/-- No text can be cut in two ways. -/
theorem Cuts.unique {ended' : List EndedLine} {last' : Text} (cuts : Cuts t ended last)
    (cuts' : Cuts t ended' last') : ended' = ended ∧ last' = last := by
  obtain ⟨sameLines, sameLast⟩ := Prod.mk.inj (cuts'.cut_eq.symm.trans cuts.cut_eq)
  refine ⟨?_, sameLast⟩
  induction ended generalizing t ended' with
  | nil => exact List.map_eq_nil_iff.1 sameLines
  | cons e ended ih =>
    cases ended' with
    | nil => cases sameLines
    | cons e' ended' =>
      obtain ⟨sameLine, sameMore⟩ := List.cons.inj sameLines
      obtain ⟨isText, apart, later⟩ := cuts.tail
      obtain ⟨isText', apart', later'⟩ := cuts'.tail
      have same : e.ending.text ++ written ended last = e'.ending.text ++ written ended' last' := by
        rw [isText, EndedLine.text, EndedLine.text, sameLine, List.append_assoc,
          List.append_assoc] at isText'
        exact List.append_cancel_left isText'
      obtain ⟨sameEnding, sameRest⟩ := ending_unique same apart apart'
      have sameFirst : e' = e := by
        cases e
        cases e'
        cases sameLine
        cases sameEnding
        rfl
      rw [sameFirst, ih later (sameRest ▸ later') sameMore]

/-- The lines with the beginning of one more hold all characters that are no breaks, in order. -/
theorem Cuts.flatten_eq (cuts : Cuts t ended last) :
    (ended.map EndedLine.line).flatten ++ last = t.filter (!Text.isBreak ·) := by
  have kept {line : Text} (plain : ∀ c ∈ line, Text.isBreak c = false) :
      line.filter (!Text.isBreak ·) = line := by
    rw [List.filter_eq_self]
    intro c member
    rw [plain c member]
    rfl
  have dropped (ending : LineEnd) : ending.text.filter (!Text.isBreak ·) = [] := by
    rw [List.filter_eq_nil_iff]
    intro c member
    rw [isBreak_of_mem_ending member]
    exact Bool.false_ne_true
  induction ended generalizing t with
  | nil =>
    obtain rfl : last = t := cuts.written_eq
    exact (kept cuts.last_plain).symm
  | cons e ended ih =>
    obtain ⟨rfl, -, later⟩ := cuts.tail
    rw [EndedLine.text, List.filter_append, List.filter_append, kept (cuts.line_plain e (by simp)),
      dropped, ← ih later, List.append_nil, List.map_cons, List.flatten_cons, List.append_assoc]

/-- To end the last line is not to begin another. -/
theorem Cuts.ofText_append_ending (cuts : Cuts t ended last) (notEmpty : last ≠ [])
    (ending : LineEnd) : ofText (t ++ ending.text) = ofText t := by
  have noReturn : endsInReturn t = false := by
    have shown : endsInReturn t = endsInReturn last := by
      simp [← cuts.written_eq, endsInReturn, written, List.getLast?_append,
        List.getLast?_eq_some_getLast notEmpty]
    rw [shown]
    exact endsInReturn_of_plain cuts.last_plain
  have blankLine : cut ending.text = ([[]], []) := by cases ending <;> rfl
  rw [ofText, ofText, cut_append, noReturn, complete_false, blankLine, cuts.cut_eq]
  simp [join, close, notEmpty]

/-- **The lines of a stream are the pieces of its text.** The text is cut at each CRLF, LF and CR
and nowhere else, from the left and with a CR and its LF taken together, and there is one way only
to do that. Whatever the chunks are, the lines are the pieces that have an end, blank ones among
them, and the last piece if it is not empty. So no line holds a break, the lines in a row are the
text without its breaks, and to end the last line of a text adds no line. -/
theorem readLines_of_cuts {chunks : List Text} (full : ∀ chunk ∈ chunks, chunk ≠ []) :
    ∃ ended last, Cuts chunks.flatten ended last ∧
      (∀ {ended' last'}, Cuts chunks.flatten ended' last' → ended' = ended ∧ last' = last) ∧
      ∃ lines, Source.readLines ⟨chunks.map .text, none⟩ = .ok lines ∧
        lines = ended.map EndedLine.line ++ (if last = [] then [] else [last]) ∧
        (∀ line ∈ lines, ∀ c ∈ line, Text.isBreak c = false) ∧
        lines.flatten = chunks.flatten.filter (!Text.isBreak ·) ∧
        ∀ {more : List Text} (ending : LineEnd), last ≠ [] → (∀ chunk ∈ more, chunk ≠ []) →
          more.flatten = chunks.flatten ++ ending.text →
            Source.readLines ⟨more.map .text, none⟩ = .ok lines := by
  obtain ⟨ended, last, cuts⟩ := exists_cuts chunks.flatten
  have isLines : ofText chunks.flatten =
      ended.map EndedLine.line ++ (if last = [] then [] else [last]) := by
    rw [ofText, cuts.cut_eq, close]
    by_cases empty : last = [] <;> simp [empty]
  refine ⟨ended, last, cuts, cuts.unique, ofText chunks.flatten, Source.readLines_text full,
    isLines, ?_, ?_, ?_⟩
  · intro line member
    rw [isLines] at member
    rcases List.mem_append.1 member with inside | final
    · obtain ⟨e, isEnded, rfl⟩ := List.mem_map.1 inside
      exact cuts.line_plain e isEnded
    · split at final
      · cases final
      · rw [List.mem_singleton.1 final]
        exact cuts.last_plain
  · rw [isLines, List.flatten_append, ← cuts.flatten_eq]
    by_cases empty : last = [] <;> simp [empty]
  · intro more ending notEmpty fullMore isMore
    rw [Source.readLines_text fullMore, isMore, cuts.ofText_append_ending notEmpty]

/-- A CRLF in two chunks, a blank line between two ends that do not belong together, and characters
that end a line elsewhere but not here. -/
theorem readLines_of_cuts_blank :
    let chunks := ["a\r", "\n\u2028b", "\n\r", "c\x0b\x85"].map String.toList
    let more := ["a\r\n\u2028b\n\r", "c\x0b\x85\r\n"].map String.toList
    let ended : List EndedLine := [⟨"a".toList, .crlf⟩, ⟨"\u2028b".toList, .lf⟩, ⟨[], .cr⟩]
    let last := "c\x0b\x85".toList
    let lines := ["a", "\u2028b", "", "c\x0b\x85"].map String.toList
    (∀ chunk ∈ chunks, chunk ≠ []) ∧ (∀ chunk ∈ more, chunk ≠ []) ∧
      more.flatten = chunks.flatten ++ LineEnd.crlf.text ∧ Cuts chunks.flatten ended last ∧
      Source.readLines ⟨chunks.map .text, none⟩ = .ok lines ∧
      Source.readLines ⟨more.map .text, none⟩ = .ok lines := by
  intro chunks more ended last lines
  have full : ∀ chunk ∈ chunks, chunk ≠ [] := by decide
  have fullMore : ∀ chunk ∈ more, chunk ≠ [] := by decide
  have isMore : more.flatten = chunks.flatten ++ LineEnd.crlf.text := rfl
  have plain : Cuts last [] last := .unended (by simp [last, Text.isBreak])
  have isCut : Cuts chunks.flatten ended last :=
    ((plain.cons ⟨[], .cr⟩ (by simp) (by decide)).cons ⟨"\u2028b".toList, .lf⟩
      (by simp [Text.isBreak]) (by decide)).cons ⟨"a".toList, .crlf⟩ (by simp [Text.isBreak])
        (by decide)
  obtain ⟨ended', last', -, unique, lines', read, isLines, -, -, ends⟩ := readLines_of_cuts full
  obtain ⟨rfl, rfl⟩ := unique isCut
  obtain rfl : lines' = lines := isLines
  exact ⟨full, fullMore, isMore, isCut, read, ends .crlf (by decide) fullMore isMore⟩

end MatchedLines.Lines
