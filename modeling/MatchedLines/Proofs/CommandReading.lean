import MatchedLines.Command.Reading

/-! Read by position, a formatting command says exactly what it was made of: the formatter, the
file, and the chosen lines in order and with repetitions. -/
namespace MatchedLines.Command.Reading

/-- A range from a line to itself selects that line. -/
theorem lineOption?_lineOption (n : Nat) : lineOption? (lineOption n) = some n := by
  have marked : "--lines=".toList.isPrefixOf (lineOption n) = true := by
    rw [List.isPrefixOf_iff_prefix]
    exact List.prefix_append _ _
  have range : (lineOption n).drop "--lines=".length = Decimal.ofNat n ++ ':' :: Decimal.ofNat n :=
    List.drop_left
  have halves : Text.cutAt? ':' (Decimal.ofNat n ++ ':' :: Decimal.ofNat n) =
      some (Decimal.ofNat n, Decimal.ofNat n) :=
    Text.cutAt?_eq_some_iff.2 ⟨rfl, fun member =>
      (Decimal.plain_of_isNumeral (Decimal.isNumeral_ofNat n) member).1 rfl⟩
  rw [lineOption?, if_pos marked, range, halves]
  simp [Decimal.value_ofNat]

theorem mapM_lineOption? (lines : List Nat) :
    ((lines.map Int.ofNat).map lineOption).mapM lineOption? = some lines := by
  induction lines with
  | nil => rfl
  | cons n lines ih =>
    rw [List.map_cons, List.map_cons, List.mapM_cons, ih]
    simp [lineOption?_lineOption]

/-- Reading the words of a command gives back what it was made of. -/
theorem ofArguments?_arguments (binary path : Text) (lines : List Nat) :
    ofArguments? (arguments binary path (lines.map Int.ofNat)) = some ⟨binary, path, lines⟩ := by
  simp only [arguments, ofArguments?, if_true, List.getLast?_concat, List.dropLast_concat,
    mapM_lineOption?]

end MatchedLines.Command.Reading
