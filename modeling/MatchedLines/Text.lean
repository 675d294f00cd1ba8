/-!
Texts and byte strings, and the two cuts that the whole library makes in them: at the first
occurrence of a separator (`Text.cutAt?`, inverted by `cutAt?_eq_some_iff`) and at line breaks
at the end (`Text.stripBreaks`).
-/

namespace MatchedLines

/-- A text is the list of its characters, so that reading it is recursion on a list. -/
abbrev Text := List Char

/-- A byte string, as it arrives from a stream or leaves a command. -/
abbrev Bytes := List UInt8

namespace Text

/-- The parts before and after the first `sep`, or nothing when `sep` does not occur. -/
def cutAt? (sep : Char) : Text → Option (Text × Text)
  | [] => none
  | c :: t =>
    if c = sep then some ([], t)
    else (cutAt? sep t).map fun (front, back) => (c :: front, back)

theorem cutAt?_eq_some_iff {sep : Char} {t front back : Text} :
    cutAt? sep t = some (front, back) ↔ t = front ++ sep :: back ∧ sep ∉ front := by
  induction t generalizing front with
  | nil => simp [cutAt?]
  | cons c t ih =>
    by_cases h : c = sep
    · subst h
      cases front with
      | nil => simp [cutAt?, eq_comm]
      | cons d front =>
        refine iff_of_false (by simp [cutAt?]) ?_
        rintro ⟨whole, apart⟩
        obtain ⟨rfl, -⟩ := List.cons.inj whole
        exact apart List.mem_cons_self
    · cases front with
      | nil => simp [cutAt?, h]
      | cons d front =>
        simp only [cutAt?, h, if_false, Option.map_eq_some_iff, Prod.exists, Prod.mk.injEq,
          List.cons.injEq, List.cons_append, List.mem_cons, not_or]
        constructor
        · rintro ⟨f, b, hcut, ⟨rfl, rfl⟩, rfl⟩
          obtain ⟨rfl, hf⟩ := ih.1 hcut
          exact ⟨⟨rfl, rfl⟩, Ne.symm h, hf⟩
        · rintro ⟨⟨rfl, rfl⟩, -, hf⟩
          exact ⟨front, back, ih.2 ⟨rfl, hf⟩, ⟨rfl, rfl⟩, rfl⟩

/-- A text determines what follows its last separator. -/
theorem eq_of_append_cons {sep : Char} {front back front' back' : Text}
    (same : front ++ sep :: back = front' ++ sep :: back') (final : sep ∉ back)
    (final' : sep ∉ back') : back = back' := by
  have cut : cutAt? sep (front ++ sep :: back).reverse = some (back.reverse, front.reverse) :=
    cutAt?_eq_some_iff.2 ⟨by simp, by simpa using final⟩
  have cut' : cutAt? sep (front' ++ sep :: back').reverse = some (back'.reverse, front'.reverse) :=
    cutAt?_eq_some_iff.2 ⟨by simp, by simpa using final'⟩
  rw [same, cut'] at cut
  simpa using (congrArg Prod.fst (Option.some.inj cut)).symm

/-- The two characters that end a line. -/
def isBreak (c : Char) : Bool := c = '\n' || c = '\r'

/-- The text without the line breaks at its end, however many there are. -/
def stripBreaks (t : Text) : Text := (t.reverse.dropWhile isBreak).reverse

/-- Line breaks are taken from the end of a text, down to a character that is none. -/
theorem stripBreaks_append {c : Char} (kept : isBreak c = false) (front back : Text) :
    stripBreaks (front ++ c :: back) = front ++ c :: stripBreaks back := by
  simp only [stripBreaks, List.reverse_append, List.reverse_cons, List.dropWhile_append,
    List.isEmpty_iff]
  by_cases onlyBreaks : back.reverse.dropWhile isBreak = []
  · simp [onlyBreaks, kept]
  · simp [onlyBreaks]

/-- What is stripped from a text is the rest of it. -/
theorem exists_eq_stripBreaks_append (t : Text) : ∃ ending, t = stripBreaks t ++ ending := by
  refine ⟨(t.reverse.takeWhile isBreak).reverse, ?_⟩
  rw [stripBreaks, ← List.reverse_append, List.takeWhile_append_dropWhile, List.reverse_reverse]

/-- The texts in order with one `sep` between neighbours. -/
def joinWith (sep : Char) (ts : List Text) : Text := [sep].intercalate ts

theorem joinWith_concat (sep : Char) (first : Text) (more : List Text) (last : Text) :
    joinWith sep (first :: more ++ [last]) = joinWith sep (first :: more) ++ sep :: last := by
  induction more generalizing first with
  | nil => simp [joinWith]
  | cons next more ih =>
    have later := ih next
    simp only [joinWith, List.cons_append, List.intercalate_cons_cons] at later ⊢
    rw [later]
    simp

end Text
end MatchedLines
