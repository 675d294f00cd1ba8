import MatchedLines.Text
/-!
Whole numbers in plain decimal: digits only, no leading zero, a minus sign where one is needed.
Reading is exact however many digits there are, so a bound can be checked after it.
-/

namespace MatchedLines.Decimal

/-- The shortest decimal spelling of `n`. -/
def ofNat (n : Nat) : Text := Nat.toDigits 10 n

/-- Plain decimal, with a minus sign before a negative number. -/
def ofInt : Int → Text
  | .ofNat n => ofNat n
  | .negSucc n => '-' :: ofNat (n + 1)

/-- The number that a string of digits spells; leading zeros count for nothing. -/
def value (digits : Text) : Nat := Nat.ofDigitChars 10 digits 0

/-- A decimal numeral: at least one character, all of them ASCII digits. -/
def isNumeral (t : Text) : Bool := !t.isEmpty && t.all Char.isDigit

theorem value_ofNat (n : Nat) : value (ofNat n) = n := Nat.ofDigitChars_ten_toDigits

theorem isNumeral_ofNat (n : Nat) : isNumeral (ofNat n) = true := by
  have hpos : 0 < (Nat.toDigits 10 n).length := Nat.length_toDigits_pos
  simp only [isNumeral, ofNat, Bool.and_eq_true, Bool.not_eq_true', List.isEmpty_eq_false_iff,
    List.all_eq_true]
  exact ⟨List.ne_nil_of_length_pos hpos,
    fun c hc => Nat.isDigit_of_mem_toDigits (by decide) (by decide) hc⟩

/-- The shortest spelling of a number has no leading zero. -/
theorem head_ofNat {n : Nat} (positive : 0 < n) : (ofNat n).head? ≠ some '0' := by
  induction n using Nat.strongRecOn with
  | ind n ih =>
    by_cases single : n < 10
    · have digit : ofNat n = [Nat.digitChar n] := Nat.toDigits_of_lt_base single
      intro zero
      have isZero : Nat.digitChar n = '0' := by simpa [digit] using zero
      have code := Nat.toNat_digitChar_of_lt_ten single
      rw [isZero, show '0'.toNat = 48 from rfl] at code
      omega
    · have split : ofNat n = ofNat (n / 10) ++ [Nat.digitChar (n % 10)] :=
        Nat.toDigits_of_base_le (by decide) (by omega)
      have notEmpty : ofNat (n / 10) ≠ [] := by
        simpa [isNumeral] using (Bool.and_eq_true_iff.1 (isNumeral_ofNat (n / 10))).1
      obtain ⟨first, rest, isCons⟩ := List.exists_cons_of_ne_nil notEmpty
      have sameHead : (ofNat n).head? = (ofNat (n / 10)).head? := by
        rw [split, isCons]
        rfl
      rw [sameHead]
      exact ih (n / 10) (by omega) (by omega)

/-- A numeral holds no colon and no line break. -/
theorem plain_of_isNumeral {t : Text} (numeral : isNumeral t = true) {c : Char} (member : c ∈ t) :
    c ≠ ':' ∧ Text.isBreak c = false := by
  simp only [isNumeral, Bool.and_eq_true, List.all_eq_true] at numeral
  have digit := numeral.2 c member
  constructor
  · rintro rfl
    simp [Char.isDigit] at digit
  · cases breaks : Text.isBreak c with
    | false => rfl
    | true =>
      simp only [Text.isBreak, Bool.or_eq_true, decide_eq_true_eq] at breaks
      rcases breaks with rfl | rfl <;> simp [Char.isDigit] at digit

end MatchedLines.Decimal
