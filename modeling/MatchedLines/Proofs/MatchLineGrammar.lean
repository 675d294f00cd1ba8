import Mathlib.Algebra.Group.Nat.Defs
import Mathlib.Tactic.ByContra
import MatchedLines.MatchLine

/-! Which lines report a match. A line does so when it spells a path, a numeral and a text with one
colon after each of the first two; nothing else is read as a match, and what it spells is what is
read. Every other line is `Malformed` in one of six ways, and no line is both
(`parse_accepts_iff`). -/
namespace MatchedLines

namespace MatchLine

variable {line : Text} {m : MatchLine}

/-- The line spells the match: its path up to the first colon, its number up to the second, and
some text after that. -/
def Spells (line : Text) (m : MatchLine) : Prop :=
  ∃ digits matched, line = m.path ++ ':' :: (digits ++ ':' :: matched) ∧
    m.path ≠ [] ∧ ':' ∉ m.path ∧ Decimal.isNumeral digits = true ∧
    Decimal.value digits = m.number ∧ 1 ≤ m.number ∧ m.number ≤ maxNumber

/-- The number of a numeral field, when it is one of those that are allowed. -/
theorem number?_eq_some_iff {field : Text} {n : Nat} :
    number? field = some n ↔ Decimal.isNumeral field = true ∧ Decimal.value field = n ∧ 1 ≤ n ∧
      n ≤ maxNumber := by
  rw [number?]
  constructor
  · intro read
    split at read
    · rename_i allowed
      obtain ⟨numeral, pos, le⟩ := allowed
      cases read
      exact ⟨numeral, rfl, pos, le⟩
    · contradiction
  · rintro ⟨numeral, rfl, pos, le⟩
    exact if_pos ⟨numeral, pos, le⟩

/-- The match that is read is the one that the line spells. -/
theorem Spells.of_parse? (read : parse? line = some m) : Spells line m := by
  obtain ⟨ending, isLine⟩ := Text.exists_eq_stripBreaks_append line
  rw [parse?] at read
  split at read
  · contradiction
  rename_i path rest atPath
  split at read
  · contradiction
  rename_i field matched atField
  split at read
  · contradiction
  rename_i pathNotEmpty
  obtain ⟨n, number, rfl⟩ := Option.map_eq_some_iff.1 read
  obtain ⟨isStripped, noColon⟩ := Text.cutAt?_eq_some_iff.1 atPath
  obtain ⟨isRest, -⟩ := Text.cutAt?_eq_some_iff.1 atField
  obtain ⟨numeral, value, pos, le⟩ := number?_eq_some_iff.1 number
  refine ⟨field, matched ++ ending, ?_, by simpa using pathNotEmpty, noColon, numeral, value, pos,
    le⟩
  rw [isLine, isStripped, isRest]
  simp

/-- The match that a line spells is read: the first two colons cut the line where it was put
together, and the breaks that are stripped all belong to the text behind them. -/
theorem Spells.parse? (spelled : Spells line m) : MatchLine.parse? line = some m := by
  obtain ⟨digits, matched, rfl, pathNotEmpty, noColon, numeral, value, pos, le⟩ := spelled
  have stripped : Text.stripBreaks (m.path ++ ':' :: (digits ++ ':' :: matched)) =
      m.path ++ ':' :: (digits ++ ':' :: Text.stripBreaks matched) := by
    rw [Text.stripBreaks_append rfl, Text.stripBreaks_append rfl]
  have atPath : Text.cutAt? ':' (m.path ++ ':' :: (digits ++ ':' :: Text.stripBreaks matched)) =
      some (m.path, digits ++ ':' :: Text.stripBreaks matched) :=
    Text.cutAt?_eq_some_iff.2 ⟨rfl, noColon⟩
  have atDigits : Text.cutAt? ':' (digits ++ ':' :: Text.stripBreaks matched) =
      some (digits, Text.stripBreaks matched) :=
    Text.cutAt?_eq_some_iff.2
      ⟨rfl, fun member => (Decimal.plain_of_isNumeral numeral member).1 rfl⟩
  have number : number? digits = some m.number :=
    number?_eq_some_iff.2 ⟨numeral, value, pos, le⟩
  simp [MatchLine.parse?, stripped, atPath, atDigits, number, pathNotEmpty]

/-- A match is read from exactly the lines that spell it. -/
theorem parse?_eq_some_iff : parse? line = some m ↔ Spells line m :=
  ⟨Spells.of_parse?, Spells.parse?⟩

/-- A line is malformed exactly when it spells no match. -/
theorem parse?_eq_none_iff : parse? line = none ↔ ∀ m, ¬ Spells line m := by
  simp [Option.eq_none_iff_forall_not_mem, Option.mem_def, parse?_eq_some_iff]

/-! ### What is wrong with the other lines -/

variable {path field matched : Text}

/-- The first two colons of the line cut it into a path, a number field and the rest. -/
structure Parts (line path field matched : Text) : Prop where
  line_eq : line = path ++ ':' :: (field ++ ':' :: matched)
  path_plain : ':' ∉ path
  field_plain : ':' ∉ field

/-- A line is cut into parts in one way only. -/
theorem Parts.unique {path' field' matched' : Text} (parts : Parts line path field matched)
    (parts' : Parts line path' field' matched') :
    path = path' ∧ field = field' ∧ matched = matched' := by
  have atPath : Text.cutAt? ':' line = some (path, field ++ ':' :: matched) :=
    Text.cutAt?_eq_some_iff.2 ⟨parts.line_eq, parts.path_plain⟩
  have atPath' : Text.cutAt? ':' line = some (path', field' ++ ':' :: matched') :=
    Text.cutAt?_eq_some_iff.2 ⟨parts'.line_eq, parts'.path_plain⟩
  obtain ⟨samePath, sameRest⟩ := Prod.mk.inj (Option.some.inj (atPath.symm.trans atPath'))
  have atField : Text.cutAt? ':' (field ++ ':' :: matched) = some (field, matched) :=
    Text.cutAt?_eq_some_iff.2 ⟨rfl, parts.field_plain⟩
  have atField' : Text.cutAt? ':' (field ++ ':' :: matched) = some (field', matched') :=
    Text.cutAt?_eq_some_iff.2 ⟨sameRest, parts'.field_plain⟩
  obtain ⟨sameField, sameMatched⟩ := Prod.mk.inj (Option.some.inj (atField.symm.trans atField'))
  exact ⟨samePath, sameField, sameMatched⟩

/-- Two colons are enough for a line to have parts. -/
theorem exists_parts (colons : 2 ≤ line.count ':') :
    ∃ path field matched, Parts line path field matched := by
  have first : ':' ∈ line := List.count_pos_iff.1 (by omega)
  obtain ⟨path, rest, rfl, pathPlain⟩ := List.eq_append_cons_of_mem first
  have noColon : path.count ':' = 0 := List.count_eq_zero.2 pathPlain
  have second : ':' ∈ rest := by
    apply List.count_pos_iff.1
    rw [List.count_append, List.count_cons_self, noColon] at colons
    omega
  obtain ⟨field, matched, rfl, fieldPlain⟩ := List.eq_append_cons_of_mem second
  exact ⟨path, field, matched, rfl, pathPlain, fieldPlain⟩

theorem Parts.two_le_count (parts : Parts line path field matched) : 2 ≤ line.count ':' := by
  rw [parts.line_eq, List.count_append, List.count_cons_self, List.count_append,
    List.count_cons_self]
  omega

/-- What a line spells is decided by its parts. -/
theorem spells_iff_parts :
    Spells line m ↔
      ∃ field matched, Parts line m.path field matched ∧ m.path ≠ [] ∧
        number? field = some m.number := by
  constructor
  · rintro ⟨digits, matched, isLine, notEmpty, pathPlain, numeral, value, pos, le⟩
    have digitsPlain : ':' ∉ digits := fun member =>
      (Decimal.plain_of_isNumeral numeral member).1 rfl
    exact ⟨digits, matched, ⟨isLine, pathPlain, digitsPlain⟩, notEmpty,
      number?_eq_some_iff.2 ⟨numeral, value, pos, le⟩⟩
  · rintro ⟨field, matched, parts, notEmpty, number⟩
    exact ⟨field, matched, parts.line_eq, notEmpty, parts.path_plain, number?_eq_some_iff.1 number⟩

/-- The largest number is one below the fifty-third power of two. -/
theorem maxNumber_lt_iff {n : Nat} : maxNumber < n ↔ 2 ^ 53 ≤ n := by
  rw [maxNumber]
  omega

/-- What can be wrong with a number field: it is no numeral, or its value is out of bounds. -/
theorem number?_eq_none_iff :
    number? field = none ↔ field = [] ∨ (∃ c ∈ field, c.isDigit = false) ∨
      Decimal.value field = 0 ∨ 2 ^ 53 ≤ Decimal.value field := by
  have notNumeral : Decimal.isNumeral field = false ↔
      field = [] ∨ ∃ c ∈ field, c.isDigit = false := by
    by_cases empty : field = []
    · simp [Decimal.isNumeral, empty]
    · simp [Decimal.isNumeral, empty]
  have outOfBounds : number? field = none ↔ Decimal.isNumeral field = false ∨
      Decimal.value field = 0 ∨ maxNumber < Decimal.value field := by
    rw [number?, ite_eq_right_iff]
    cases Decimal.isNumeral field with
    | false => simp
    | true => simp; omega
  rw [outOfBounds, notNumeral, maxNumber_lt_iff, or_assoc]

/-- All that can be wrong with a line. -/
inductive Malformed (line : Text) : Prop where
  | fewColons (few : line.count ':' < 2)
  | noPath (field matched : Text) (parts : Parts line [] field matched)
  | noDigits (path matched : Text) (parts : Parts line path [] matched)
  | strayCharacter (path field matched : Text) (parts : Parts line path field matched)
      (c : Char) (stray : c ∈ field ∧ c.isDigit = false)
  | zero (path field matched : Text) (parts : Parts line path field matched)
      (zero : Decimal.value field = 0)
  | tooLarge (path field matched : Text) (parts : Parts line path field matched)
      (large : 2 ^ 53 ≤ Decimal.value field)

/-- A line that has parts is malformed when its path is empty or its field is no line number. -/
theorem Parts.malformed_iff (parts : Parts line path field matched) :
    Malformed line ↔ path = [] ∨ number? field = none := by
  rw [number?_eq_none_iff]
  constructor
  · intro malformed
    cases malformed with
    | fewColons few => exact absurd parts.two_le_count (by omega)
    | noPath _ _ other => exact .inl (parts.unique other).1
    | noDigits _ _ other => exact .inr (.inl (parts.unique other).2.1)
    | strayCharacter _ _ _ other c stray =>
      exact .inr (.inr (.inl ⟨c, (parts.unique other).2.1 ▸ stray⟩))
    | zero _ _ _ other zero =>
      exact .inr (.inr (.inr (.inl ((parts.unique other).2.1 ▸ zero))))
    | tooLarge _ _ _ other large =>
      exact .inr (.inr (.inr (.inr ((parts.unique other).2.1 ▸ large))))
  · rintro (rfl | rfl | ⟨c, stray⟩ | zero | large)
    · exact .noPath _ _ parts
    · exact .noDigits _ _ parts
    · exact .strayCharacter _ _ _ parts c stray
    · exact .zero _ _ _ parts zero
    · exact .tooLarge _ _ _ parts large

/-- A line that spells no match is malformed, and no other line is. -/
theorem parse?_eq_none_iff_malformed : parse? line = none ↔ Malformed line := by
  rw [parse?_eq_none_iff]
  by_cases colons : 2 ≤ line.count ':'
  · obtain ⟨path, field, matched, parts⟩ := exists_parts colons
    rw [parts.malformed_iff]
    constructor
    · intro noMatch
      by_contra wellFormed
      obtain ⟨notEmpty, isNumber⟩ := not_or.1 wellFormed
      obtain ⟨number, read⟩ := Option.ne_none_iff_exists'.1 isNumber
      exact noMatch ⟨path, number⟩ (spells_iff_parts.2 ⟨field, matched, parts, notEmpty, read⟩)
    · intro wrong m spelled
      obtain ⟨field', matched', parts', notEmpty, read⟩ := spells_iff_parts.1 spelled
      obtain ⟨rfl, rfl, -⟩ := parts.unique parts'
      rcases wrong with empty | noNumber
      · exact notEmpty empty
      · rw [noNumber] at read
        cases read
  · refine iff_of_true (fun m spelled => ?_) (.fewColons (by omega))
    obtain ⟨field, matched, parts, -⟩ := spells_iff_parts.1 spelled
    exact colons parts.two_le_count

/-! ### Line breaks at the end -/

/-- Breaks that are put behind a line are stripped with those that it ends in itself. -/
theorem parse?_append_breaks {breaks : Text} (all : ∀ c ∈ breaks, Text.isBreak c = true)
    (line : Text) : parse? (line ++ breaks) = parse? line := by
  have stripped : Text.stripBreaks (line ++ breaks) = Text.stripBreaks line := by
    have reversed : ∀ c ∈ breaks.reverse, Text.isBreak c = true := by simpa using all
    rw [Text.stripBreaks, List.reverse_append, List.dropWhile_append_of_pos reversed]
    rfl
  rw [parse?, stripped, ← parse?]

theorem parse_eq_ok_iff : parse line = .ok m ↔ parse? line = some m := by
  rw [parse]
  cases parse? line <;> simp

theorem parse_eq_error_iff : parse line = .error (.inputSyntax line) ↔ parse? line = none := by
  rw [parse]
  cases parse? line <;> simp

/-- **A line is read exactly when it spells a match.** The match that is read is the one that the
line spells, with the exact value of its digits. There is one way only to cut a line at its first
two colons, and breaks at the end of a line make no difference to what is read. A line is refused
exactly when it is malformed, and is then named as it was given, breaks included. -/
theorem parse_accepts_iff (line : Text) :
    (∀ m, parse line = .ok m ↔ Spells line m) ∧
    (∀ {path field matched path' field' matched'}, Parts line path field matched →
      Parts line path' field' matched' →
        path = path' ∧ field = field' ∧ matched = matched') ∧
    (∀ breaks, (∀ c ∈ breaks, Text.isBreak c = true) →
      ∀ m, parse (line ++ breaks) = .ok m ↔ parse line = .ok m) ∧
    (parse line = .error (.inputSyntax line) ↔ Malformed line) ∧
    ((∃ m, parse line = .ok m) ∨ parse line = .error (.inputSyntax line)) := by
  refine ⟨fun m => ?_, Parts.unique, fun breaks all m => ?_, ?_, ?_⟩
  · rw [parse_eq_ok_iff, parse?_eq_some_iff]
  · rw [parse_eq_ok_iff, parse_eq_ok_iff, parse?_append_breaks all]
  · rw [parse_eq_error_iff, parse?_eq_none_iff_malformed]
  · rw [parse_eq_error_iff]
    simp only [parse_eq_ok_iff]
    cases parse? line with
    | none => exact .inr rfl
    | some m => exact .inl ⟨m, rfl⟩

/-- A break inside the path is part of it, zeros count for nothing, and the matched text may hold
colons; a break inside the number makes the line malformed. -/
theorem parse_accepts_iff_breaks :
    let line := "a\n.c:007:x:y\r\n".toList
    let broken := "a.c:7\n:x\n".toList
    parse line = .ok ⟨"a\n.c".toList, 7⟩ ∧ parse (line ++ ['\n', '\r']) = .ok ⟨"a\n.c".toList, 7⟩ ∧
      parse broken = .error (.inputSyntax broken) := by
  intro line broken
  obtain ⟨accepts, -, breaks, -⟩ := parse_accepts_iff line
  obtain ⟨-, -, -, refuses, -⟩ := parse_accepts_iff broken
  have spelled : Spells line ⟨"a\n.c".toList, 7⟩ :=
    ⟨"007".toList, "x:y\r\n".toList, rfl, by decide⟩
  have parts : Parts broken "a.c".toList "7\n".toList "x\n".toList := ⟨rfl, by decide, by decide⟩
  have read := (accepts _).2 spelled
  exact ⟨read, (breaks _ (by simp [Text.isBreak]) _).2 read,
    refuses.2 (.strayCharacter _ _ _ parts '\n' (by decide))⟩

end MatchLine
end MatchedLines
