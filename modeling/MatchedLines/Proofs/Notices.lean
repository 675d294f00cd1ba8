import MatchedLines.Run

/-! Notices are told apart from all else that a run prints by their first and last words alone.
The colour around a notice and inside it leaves these words as they are, and a printed command
never ends as a notice does: its last word is a file that can be formatted. -/
namespace MatchedLines

/-! ### Coloured words -/

namespace Colour

/-- A character that is part of no closing code and of no line break. -/
def isInert (c : Char) : Bool := !"\x1b[39m\r\n".toList.contains c

/-- Where an inert character stands, a text can be coloured in two parts. -/
theorem fill_append {c : Colour} {x : Char} (inert : isInert x = true) (front back : Text) :
    c.fill (front ++ x :: back) = c.fill front ++ c.fill (x :: back) := by
  induction front using fill.induct with
  | case1 => rfl
  | case2 t ih => simp [fill, ih]
  | case3 t ih => simp [fill, ih]
  | case4 t ih => simp [fill, ih]
  | case5 y t notClosing notReturn notFeed ih =>
    -- `x` cannot complete a code or a break that `y` begins.
    have plain : c.fill (y :: (t ++ x :: back)) = y :: c.fill (t ++ x :: back) := by
      simp only [isInert, Bool.not_eq_true', List.contains_eq_mem, decide_eq_false_iff_not,
        String.reduceToList, List.mem_cons, not_or] at inert
      refine fill.eq_5 c y _ ?_ ?_ notFeed
      · rintro u rfl code
        rcases t with _ | ⟨_, _ | ⟨_, _ | ⟨_, _ | ⟨_, t⟩⟩⟩⟩ <;> simp_all
      · rintro u rfl feed
        rcases t with _ | ⟨_, t⟩ <;> simp_all
    rw [List.cons_append, plain, ih, fill.eq_5 c y t notClosing notReturn notFeed, List.cons_append]

end Colour

/-! ### Notices -/

/-- The words with which a kind of notice begins and ends. No colour changes them. -/
structure Notice where
  first : Text
  last : Text
  first_ne_nil : first ≠ []
  fill_first : ∀ t, Colour.gray.fill (first ++ t) = first ++ Colour.gray.fill t
  fill_last : ∀ t, Colour.gray.fill (t ++ last) = Colour.gray.fill t ++ last

namespace Notice

variable {ι : Type}

/-- A file is passed over. -/
def skipping : Notice where
  first := "Skipping ".toList
  last := ": unsupported file type".toList
  first_ne_nil := by decide
  fill_first := by exact fun _ => rfl
  fill_last := by exact fun t => Colour.fill_append (by decide) t " unsupported file type".toList

/-- A file is about to be formatted. -/
def formatting : Notice where
  first := "Formatting ".toList
  last := [')']
  first_ne_nil := by decide
  fill_first := by exact fun _ => rfl
  fill_last := by exact fun t => Colour.fill_append (by decide) t []

/-- What the colour puts before a notice and behind it. -/
def opening (coloured : Bool) : Text := if coloured then Colour.gray.opening else []

@[inherit_doc opening]
def closing (coloured : Bool) : Text := if coloured then Colour.closing else []

/-- Whether a step prints a notice of this kind. -/
def marks (n : Notice) (coloured : Bool) : Event ι → Bool
  | .write .stdout text =>
    (opening coloured ++ n.first).isPrefixOf text &&
      (n.last ++ closing coloured ++ ['\n']).isSuffixOf text
  | _ => false

/-- A notice is known by its words, whatever stands between them. -/
theorem marks_line (n : Notice) (coloured : Bool) (middle : Text) :
    n.marks coloured
      (.line .stdout (Colour.gray.paint coloured (n.first ++ middle ++ n.last)) : Event ι) =
        true := by
  obtain ⟨inner, painted⟩ : ∃ inner, Colour.gray.paint coloured (n.first ++ middle ++ n.last) =
      opening coloured ++ n.first ++ inner ++ n.last ++ closing coloured := by
    cases coloured with
    | false => exact ⟨middle, by simp [Colour.paint, opening, closing]⟩
    | true =>
      refine ⟨Colour.gray.fill middle, ?_⟩
      have filled := n.fill_first (middle ++ n.last)
      rw [n.fill_last] at filled
      simp [Colour.paint, n.first_ne_nil, filled, opening, closing]
  simp only [marks, Event.line, painted, Bool.and_eq_true, List.isPrefixOf_iff_prefix,
    List.isSuffixOf_iff_suffix]
  exact ⟨by simp, opening coloured ++ n.first ++ inner, by simp⟩

theorem skipping_marks_skipNotice (coloured : Bool) (path : Text) :
    skipping.marks coloured (Run.skipNotice coloured path : Event ι) = true :=
  skipping.marks_line coloured path

theorem formatting_marks_skipNotice (coloured : Bool) (path : Text) :
    formatting.marks coloured (Run.skipNotice coloured path : Event ι) = false := by
  cases coloured <;> rfl

/-- All that formatting in place prints itself is that it is about to format. -/
theorem formatting_marks_of_mem {coloured verbose : Bool} {binary : Text} {g : Group}
    {e : Event Invocation} (member : e ∈ (Formatter.inPlace coloured verbose binary).notice g) :
    formatting.marks coloured e = true := by
  cases verbose with
  | false => simp [Formatter.inPlace] at member
  | true =>
    have text : "Formatting ".toList ++ g.path ++ " (".toList ++ Formatter.count g.lines ++ [')'] =
        "Formatting ".toList ++ (g.path ++ (" (".toList ++ Formatter.count g.lines)) ++ [')'] := by
      simp only [List.append_assoc]
    simp only [Formatter.inPlace, if_true, List.mem_singleton] at member
    rw [member, text]
    exact formatting.marks_line coloured _

end Notice

/-! ### Commands are no notices -/

namespace Command.Quoted

/-- A word stands for itself, if it is plain, or it ends with a quote. -/
theorem word_cases (w : Text) :
    (word w = w ∧ ∀ c ∈ w, isPlain c = true) ∨ ∃ front, word w = front ++ ['\''] := by
  rw [word]
  split
  · rename_i plain
    simp only [Bool.and_eq_true, List.all_eq_true] at plain
    exact .inl ⟨rfl, plain.2⟩
  · exact .inr ⟨'\'' :: w.flatMap escape, rfl⟩

/-- A command ends in its file, behind a blank. -/
theorem exists_command_eq (binary path : Text) (lines : List Int) :
    ∃ front, command (arguments binary path lines) = front ++ ' ' :: word path := by
  refine ⟨Text.joinWith ' '
    (word binary :: word "-i".toList :: (lines.map lineOption).map word), ?_⟩
  rw [command, arguments, List.map_cons, List.map_cons, List.map_append]
  exact Text.joinWith_concat ' ' _ (_ :: _) _

end Command.Quoted

/-- Where a printed command ends as a notice does, its file is one that needs no quotes, and what
the notice ends with stands at the end of the command. -/
theorem Notice.plain_of_marks_command {ι : Type} {n : Notice} {final : Char}
    (ends : n.last.getLast? = some final) (unquoted : final ≠ '\'') {coloured : Bool}
    {binary path : Text} {lines : List Int}
    (marked : n.marks coloured (.line .stdout
      (Command.Quoted.command (Command.arguments binary path lines)) : Event ι) = true) :
    (∀ c ∈ path, Command.Quoted.isPlain c = true) ∧
      ∃ front, n.last ++ closing coloured <:+ front ++ ' ' :: path := by
  obtain ⟨front, command⟩ := Command.Quoted.exists_command_eq binary path lines
  simp only [marks, Event.line, command, Bool.and_eq_true, List.isSuffixOf_iff_suffix] at marked
  obtain ⟨before, whole⟩ := marked.2
  have ending : (before ++ (n.last ++ closing coloured)) ++ ['\n'] =
      (front ++ ' ' :: Command.Quoted.word path) ++ ['\n'] := by
    rw [← whole]
    simp
  have same := List.append_cancel_right ending
  rcases Command.Quoted.word_cases path with ⟨itself, plain⟩ | ⟨inner, quoted⟩
  · rw [itself] at same
    exact ⟨plain, front, before, same⟩
  · have quote : (front ++ ' ' :: Command.Quoted.word path).getLast? = some '\'' := by
      rw [quoted, ← List.cons_append, ← List.append_assoc, List.getLast?_concat]
    rw [← same] at quote
    cases coloured with
    | false => simp [closing, List.getLast?_append, ends, unquoted] at quote
    | true => simp [closing, Colour.closing] at quote

/-- A printed command says of no file that it is passed over: the last word of that notice is no
file that can be formatted. -/
theorem Notice.skipping_marks_command {ι : Type} (coloured : Bool) (binary : Text) {path : Text}
    (lines : List Int) (supported : FileType.isSupported path = true) :
    skipping.marks coloured (.line .stdout
      (Command.Quoted.command (Command.arguments binary path lines)) : Event ι) = false := by
  rw [Bool.eq_false_iff]
  intro marked
  have ends : skipping.last.getLast? = some 'e' := by decide
  obtain ⟨plain, front, notice⟩ := plain_of_marks_command ends (by decide) marked
  obtain ⟨before, same⟩ : ": unsupported file type".toList ++ closing coloured <:+
    front ++ ' ' :: path := notice
  have noBlank : ' ' ∉ path := fun blank => absurd (plain ' ' blank) (by decide)
  have lastWord : (before ++ ": unsupported file".toList) ++
      ' ' :: ("type".toList ++ closing coloured) = front ++ ' ' :: path := by
    rw [← same]
    simp
  have isPath : "type".toList ++ closing coloured = path :=
    Text.eq_of_append_cons lastWord (by cases coloured <;> decide) noBlank
  rw [← isPath] at supported
  cases coloured <;> exact absurd supported (by decide)

/-- A printed command does not say either that a file is about to be formatted: its last word holds
a blank or a bracket only between quotes. -/
theorem Notice.formatting_marks_command {ι : Type} (coloured : Bool) (binary path : Text)
    (lines : List Int) :
    formatting.marks coloured (.line .stdout
      (Command.Quoted.command (Command.arguments binary path lines)) : Event ι) = false := by
  rw [Bool.eq_false_iff]
  intro marked
  have ends : formatting.last.getLast? = some ')' := by decide
  obtain ⟨plain, front, bracket⟩ := plain_of_marks_command ends (by decide) marked
  have blank : ' ' :: path <:+ front ++ ' ' :: path := ⟨front, rfl⟩
  rcases List.suffix_or_suffix_of_suffix bracket blank with within | within
  · rcases List.mem_cons.1 (within.subset List.mem_cons_self) with isBlank | inPath
    · exact absurd isBlank (by decide)
    · exact absurd (plain ')' inPath) (by decide)
  · have inClosing : ' ' ∈ ')' :: closing coloured := within.subset List.mem_cons_self
    cases coloured <;> exact absurd inClosing (by decide)
end MatchedLines
