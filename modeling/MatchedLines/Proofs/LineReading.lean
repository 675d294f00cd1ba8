import MatchedLines.Text.Lines

/-! A reader that takes a text in pieces finds the lines of the whole text. What it remembers
between two pieces is what `cut` says of the text so far: the line that has begun, and whether a
CR ended it. The one thing that could part a CR from its LF is an empty piece between the two,
and `Intact` says that there is none. -/
namespace MatchedLines.Lines

/-! ### Cutting a text -/

/-- The lines of a first text, and after them those of a second that goes on with its last line. -/
def join : List Text × Text → List Text × Text → List Text × Text
  | (front, begun), ([], last) => (front, begun ++ last)
  | (front, begun), (first :: more, last) => (front ++ (begun ++ first) :: more, last)

@[simp] theorem join_empty (cuts : List Text × Text) : join ([], []) cuts = cuts := by
  obtain ⟨lines, last⟩ := cuts
  cases lines <;> rfl

theorem join_assoc (first second third : List Text × Text) :
    join first (join second third) = join (join first second) third := by
  obtain ⟨lines₁, last₁⟩ := first
  obtain ⟨lines₂, last₂⟩ := second
  obtain ⟨lines₃, last₃⟩ := third
  cases lines₂ <;> cases lines₃ <;> simp [join]

theorem cut_crlf (t : Text) : cut ('\r' :: '\n' :: t) = join ([[]], []) (cut t) := by
  rw [cut]
  obtain ⟨lines, last⟩ := cut t
  cases lines <;> rfl

theorem cut_break {c : Char} {t : Text} (breaks : Text.isBreak c = true)
    (alone : c = '\r' → t.head? ≠ some '\n') : cut (c :: t) = join ([[]], []) (cut t) := by
  rw [cut]
  · simp only [breaks, ↓reduceIte]
    obtain ⟨lines, last⟩ := cut t
    cases lines <;> rfl
  · rintro u rfl rfl
    exact alone rfl rfl

theorem cut_plain {c : Char} {t : Text} (plain : Text.isBreak c = false) :
    cut (c :: t) = join ([], [c]) (cut t) := by
  rw [cut]
  · simp only [plain, Bool.false_eq_true, ↓reduceIte]
    obtain ⟨lines, last⟩ := cut t
    cases lines <;> rfl
  · rintro u rfl rfl
    simp [Text.isBreak] at plain

/-- A text is read from the left by one CRLF, one other break or one plain character at a time. -/
@[elab_as_elim]
theorem cut_induction {motive : Text → Prop} (nil : motive [])
    (crlf : ∀ t, motive t → motive ('\r' :: '\n' :: t))
    (single : ∀ c t, Text.isBreak c = true → (c = '\r' → t.head? ≠ some '\n') → motive t →
      motive (c :: t))
    (plain : ∀ c t, Text.isBreak c = false → motive t → motive (c :: t)) (t : Text) :
    motive t := by
  induction t using cut.induct with
  | case1 => exact nil
  | case2 t ih => exact crlf t ih
  | case3 c t alone breaks ih =>
    refine single c t breaks ?_ ih
    rintro rfl head
    obtain ⟨u, rfl⟩ := List.head?_eq_some_iff.1 head
    exact alone u rfl rfl
  | case4 c t _ notBreak _ _ ih => exact plain c t (by simpa using notBreak) ih
  | case5 c t _ notBreak _ _ _ _ ih => exact plain c t (by simpa using notBreak) ih

/-- A text without line breaks is the beginning of a line. -/
theorem cut_of_plain {t : Text} (plain : ∀ c ∈ t, Text.isBreak c = false) : cut t = ([], t) := by
  induction t with
  | nil => rfl
  | cons c t ih =>
    rw [cut_plain (plain c (by simp)), ih fun d member => plain d (by simp [member])]
    rfl

/-- Where no line ends there is nothing but the beginning of one. -/
theorem plain_of_cut {t : Text} (unfinished : (cut t).1 = []) :
    (cut t).2 = t ∧ ∀ c ∈ t, Text.isBreak c = false := by
  induction t using cut_induction with
  | nil => simp [cut]
  | crlf t ih =>
    rw [cut_crlf] at unfinished
    generalize cut t = cuts at unfinished
    obtain ⟨_ | _, last⟩ := cuts <;> simp [join] at unfinished
  | single c t breaks alone ih =>
    rw [cut_break breaks alone] at unfinished
    generalize cut t = cuts at unfinished
    obtain ⟨_ | _, last⟩ := cuts <;> simp [join] at unfinished
  | plain c t plain ih =>
    rw [cut_plain plain] at unfinished ⊢
    cases found : cut t with
    | mk lines last =>
      cases lines with
      | nil => simpa [join, plain, found] using ih
      | cons first more => simp [found, join] at unfinished

/-- No line and no beginning of a line holds a break. -/
def PlainCuts (cuts : List Text × Text) : Prop :=
  (∀ line ∈ cuts.1, ∀ c ∈ line, Text.isBreak c = false) ∧ ∀ c ∈ cuts.2, Text.isBreak c = false

theorem PlainCuts.join {first second : List Text × Text} (plainFirst : PlainCuts first)
    (plainSecond : PlainCuts second) : PlainCuts (join first second) := by
  obtain ⟨front, begun⟩ := first
  obtain ⟨plainFront, plainBegun⟩ := plainFirst
  obtain ⟨lines, last⟩ := second
  obtain ⟨plainLines, plainLast⟩ := plainSecond
  cases lines with
  | nil => exact ⟨plainFront, List.forall_mem_append.2 ⟨plainBegun, plainLast⟩⟩
  | cons line more =>
    obtain ⟨plainLine, plainMore⟩ := List.forall_mem_cons.1 plainLines
    have completed : ∀ c ∈ begun ++ line, Text.isBreak c = false :=
      List.forall_mem_append.2 ⟨plainBegun, plainLine⟩
    exact ⟨List.forall_mem_append.2 ⟨plainFront, List.forall_mem_cons.2 ⟨completed, plainMore⟩⟩,
      plainLast⟩

theorem plainCuts_cut (t : Text) : PlainCuts (cut t) := by
  have ended : PlainCuts ([[]], []) := by simp [PlainCuts]
  induction t using cut_induction with
  | nil => simp [PlainCuts, cut]
  | crlf t ih =>
    rw [cut_crlf]
    exact ended.join ih
  | single c t breaks alone ih =>
    rw [cut_break breaks alone]
    exact ended.join ih
  | plain c t plain ih =>
    have begun : PlainCuts ([], [c]) := by simpa [PlainCuts] using plain
    rw [cut_plain plain]
    exact begun.join ih

/-! ### Reading on -/

theorem endsInReturn_of_plain {t : Text} (plain : ∀ c ∈ t, Text.isBreak c = false) :
    endsInReturn t = false := by
  simp only [endsInReturn, decide_eq_false_iff_not]
  intro final
  have := plain _ (List.mem_of_getLast? final)
  simp [Text.isBreak] at this

@[simp] theorem complete_false (t : Text) : complete false t = t := by
  cases t with
  | nil => rfl
  | cons c t => by_cases feed : c = '\n' <;> simp [complete, feed]

theorem complete_of_head {afterReturn : Bool} {t : Text}
    (apart : afterReturn = true → t.head? ≠ some '\n') : complete afterReturn t = t := by
  cases afterReturn with
  | false => exact complete_false t
  | true =>
    cases t with
    | nil => rfl
    | cons c t =>
      have notFeed : c ≠ '\n' := by simpa using apart rfl
      simp [complete, notFeed]

theorem endsInReturn_cons {c : Char} {t : Text} (more : t ≠ [] ∨ c ≠ '\r') :
    endsInReturn (c :: t) = endsInReturn t := by
  cases t with
  | nil => simpa [endsInReturn] using more
  | cons d t => simp [endsInReturn]

/-- After a break comes the rest of the text, less the LF that belongs to a CR. -/
theorem cut_break_append {c : Char} (breaks : Text.isBreak c = true) (back : Text) :
    cut (c :: back) = join ([[]], []) (cut (complete (endsInReturn [c]) back)) := by
  by_cases crlf : c = '\r' ∧ back.head? = some '\n'
  · obtain ⟨rfl, head⟩ := crlf
    obtain ⟨u, rfl⟩ := List.head?_eq_some_iff.1 head
    exact cut_crlf u
  · have alone : c = '\r' → back.head? ≠ some '\n' := fun isReturn head => crlf ⟨isReturn, head⟩
    rw [cut_break breaks alone, complete_of_head]
    simpa [endsInReturn] using alone

theorem complete_append {piece : Text} (full : piece ≠ []) (afterReturn : Bool) (back : Text) :
    complete afterReturn (piece ++ back) = complete afterReturn piece ++ back := by
  cases piece with
  | nil => contradiction
  | cons c t => by_cases feed : c = '\n' <;> cases afterReturn <;> simp [complete, feed]

theorem endsInReturn_complete (afterReturn : Bool) (t : Text) :
    endsInReturn (complete afterReturn t) = endsInReturn t := by
  cases t with
  | nil => rfl
  | cons c t =>
    by_cases feed : c = '\n'
    · subst feed
      cases afterReturn with
      | false => rw [complete_false]
      | true => exact (endsInReturn_cons (.inr (by decide))).symm
    · simp [complete, feed]

/-- Two texts have the lines of the first, and then those of the second without the LF of a CRLF
that the first began. -/
theorem cut_append (front back : Text) :
    cut (front ++ back) = join (cut front) (cut (complete (endsInReturn front) back)) := by
  induction front using cut_induction with
  | nil => simp [endsInReturn, cut]
  | crlf t ih =>
    have same : endsInReturn ('\r' :: '\n' :: t) = endsInReturn t := by
      rw [endsInReturn_cons (.inl (by simp)), endsInReturn_cons (.inr (by decide))]
    rw [List.cons_append, List.cons_append, cut_crlf, cut_crlf, ih, join_assoc, same]
  | single c t breaks alone ih =>
    cases t with
    | nil => rw [List.singleton_append, cut_break_append breaks, cut_break breaks (by simp)]; rfl
    | cons d t =>
      have same : endsInReturn (c :: d :: t) = endsInReturn (d :: t) :=
        endsInReturn_cons (.inl (by simp))
      rw [List.cons_append, cut_break breaks (by simpa using alone), cut_break breaks alone, ih,
        join_assoc, same]
  | plain c t plain ih =>
    have notReturn : c ≠ '\r' := by
      rintro rfl
      simp [Text.isBreak] at plain
    rw [List.cons_append, cut_plain plain, cut_plain plain, ih, join_assoc,
      endsInReturn_cons (.inr notReturn)]

/-- A line and its end are one line of the text, unless the end is a CR whose LF comes next. -/
theorem cut_line {line : Text} (plain : ∀ c ∈ line, Text.isBreak c = false)
    (ending : LineEnd) {rest : Text} (apart : ending = .cr → rest.head? ≠ some '\n') :
    cut (line ++ ending.text ++ rest) = join ([line], []) (cut rest) := by
  have ended : cut (ending.text ++ rest) = join ([[]], []) (cut rest) := by
    cases ending with
    | lf => exact cut_break (by decide) (by simp)
    | crlf => exact cut_crlf rest
    | cr => exact cut_break (by decide) fun _ => apart rfl
  rw [List.append_assoc, cut_append, endsInReturn_of_plain plain, complete_false,
    cut_of_plain plain, ended, join_assoc]
  simp [join]

/-! ### Reading in pieces -/

/-- What a reader with `begun` on its current line makes of a text. -/
theorem feed_eq (r : Reader) (piece : Text) :
    r.feed piece =
      ((join ([], r.rest) (cut (complete r.afterReturn piece))).1,
        ⟨endsInReturn (complete r.afterReturn piece),
          (join ([], r.rest) (cut (complete r.afterReturn piece))).2⟩) := by
  rw [Reader.feed]
  generalize complete r.afterReturn piece = t
  cases found : cut t with
  | mk lines last =>
    cases lines with
    | nil =>
      obtain ⟨rfl, plain⟩ : last = t ∧ ∀ c ∈ t, Text.isBreak c = false := by
        simpa [found] using plain_of_cut (t := t)
      simp [join, endsInReturn_of_plain plain]
    | cons first more => simp [join]

/-- No empty piece stands between a CR and its LF. A CR may also have come before the pieces. -/
def Intact : Bool → List Text → Prop
  | _, [] => True
  | afterReturn, piece :: pieces =>
    (piece = [] → afterReturn = true → pieces.flatten.head? ≠ some '\n') ∧
      Intact (endsInReturn piece) pieces

theorem intact_of_ne_nil {pieces : List Text} (full : ∀ piece ∈ pieces, piece ≠ [])
    (afterReturn : Bool) : Intact afterReturn pieces := by
  induction pieces generalizing afterReturn with
  | nil => trivial
  | cons piece pieces ih =>
    exact ⟨fun empty => absurd empty (full piece (by simp)),
      ih (fun other member => full other (by simp [member])) _⟩

/-- Closing a text leaves the lines alone that ended before its last line began. -/
theorem close_join (front : List Text) (begun : Text) (back : List Text × Text) :
    close (join (front, begun) back).1 (join (front, begun) back).2 =
      front ++ close (join ([], begun) back).1 (join ([], begun) back).2 := by
  obtain ⟨lines, last⟩ := back
  cases lines with
  | nil => by_cases empty : (begun ++ last).isEmpty <;> simp [join, close, empty]
  | cons first more => by_cases empty : last.isEmpty <;> simp [join, close, empty]

/-- A reader finds the lines of all that is still to come, read as one text behind the line it has
begun. -/
theorem readAll_eq {r : Reader} {pieces : List Text} (intact : Intact r.afterReturn pieces) :
    r.readAll pieces =
      close (join ([], r.rest) (cut (complete r.afterReturn pieces.flatten))).1
        (join ([], r.rest) (cut (complete r.afterReturn pieces.flatten))).2 := by
  induction pieces generalizing r with
  | nil => simp [Reader.readAll, complete, cut, join]
  | cons piece pieces ih =>
    obtain ⟨apart, later⟩ := intact
    rw [Reader.readAll]
    by_cases empty : piece = []
    · subst empty
      have silent : r.feed [] = ([], ⟨false, r.rest⟩) := by
        simp [Reader.feed, complete, cut]
      simp only [silent, ih (r := ⟨false, r.rest⟩) later, List.flatten_cons, List.nil_append,
        complete_false, complete_of_head (apart rfl)]
    · have whole := cut_append (complete r.afterReturn piece) pieces.flatten
      have intactLater : Intact (endsInReturn (complete r.afterReturn piece)) pieces := by
        rwa [endsInReturn_complete]
      rw [feed_eq, ih intactLater, List.flatten_cons, complete_append empty, whole, join_assoc,
        ← close_join]

/-- No line that a reader finds holds a break, whatever the pieces are. -/
theorem plain_of_mem_readAll {r : Reader} (plainRest : ∀ c ∈ r.rest, Text.isBreak c = false)
    {pieces : List Text} {line : Text} (member : line ∈ r.readAll pieces) :
    ∀ c ∈ line, Text.isBreak c = false := by
  induction pieces generalizing r with
  | nil =>
    simp only [Reader.readAll, close, List.nil_append] at member
    split at member
    · cases member
    · rwa [List.mem_singleton.1 member]
  | cons piece pieces ih =>
    have begun : PlainCuts ([], r.rest) := ⟨by simp, plainRest⟩
    obtain ⟨plainLines, plainLast⟩ := begun.join (plainCuts_cut (complete r.afterReturn piece))
    rw [Reader.readAll, feed_eq] at member
    rcases List.mem_append.1 member with here | later
    · exact plainLines line here
    · exact ih plainLast later

/-- The lines of a text do not depend on the pieces in which it came. -/
theorem ofPieces_eq {pieces : List Text} (intact : Intact false pieces) :
    ofPieces pieces = ofText pieces.flatten := by
  rw [ofPieces, readAll_eq intact]
  simp [ofText]

end MatchedLines.Lines
