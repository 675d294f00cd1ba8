import Mathlib.Data.List.DropRight
import MatchedLines.FileType

/-! The extension of a path is a matter of how the path ends, and no directory in it counts. So a
file is supported exactly when its path ends in a dot and one of the supported extensions, in
whatever case of ASCII letters (`ending_decides`). Letters outside ASCII never make one, although
the lower case of two of them holds a letter of ASCII. -/
namespace MatchedLines.FileType

variable {path name ext t : Text} {separates : Char → Bool}

/-! ### The last piece of a text -/

/-- The piece is the whole text or stands behind a character that separates, and holds none. -/
def IsLastPiece (separates : Char → Bool) (t piece : Text) : Prop :=
  (∀ c ∈ piece, separates c = false) ∧
    (t = piece ∨ ∃ front c, separates c = true ∧ t = front ++ c :: piece)

/-- Reading from the end up to a character that separates finds the last piece, and there is only
one. -/
theorem rtakeWhile_eq_iff {piece : Text} :
    t.rtakeWhile (!separates ·) = piece ↔ IsLastPiece separates t piece := by
  constructor
  · rintro rfl
    refine ⟨fun c member => by simpa using List.mem_rtakeWhile_imp member, ?_⟩
    have whole := List.rdropWhile_append_rtakeWhile (p := (!separates ·)) (l := t)
    by_cases all : t.rdropWhile (!separates ·) = []
    · rw [all, List.nil_append] at whole
      exact .inl whole.symm
    · have stops := List.rdropWhile_last_not (!separates ·) t all
      refine .inr ⟨(t.rdropWhile (!separates ·)).dropLast, _, by simpa using stops, ?_⟩
      rw [← List.singleton_append, ← List.append_assoc, List.dropLast_append_getLast, whole]
  · rintro ⟨plain, rfl | ⟨front, c, separator, rfl⟩⟩
    · exact List.rtakeWhile_eq_self_iff.2 fun c member => by simp [plain c member]
    · have reversed : ∀ d ∈ piece.reverse, (!separates d) = true := by simpa using plain
      rw [List.rtakeWhile, List.reverse_append, List.reverse_cons, List.append_assoc,
        List.takeWhile_append_of_pos reversed]
      simp [separator]

/-- A text without separating characters goes on with the last piece. -/
theorem IsLastPiece.append {piece back : Text} (last : IsLastPiece separates t piece)
    (plain : ∀ c ∈ back, separates c = false) :
    IsLastPiece separates (t ++ back) (piece ++ back) := by
  obtain ⟨plainPiece, rfl | ⟨front, c, separator, rfl⟩⟩ := last
  · exact ⟨List.forall_mem_append.2 ⟨plainPiece, plain⟩, .inl rfl⟩
  · exact ⟨List.forall_mem_append.2 ⟨plainPiece, plain⟩, .inr ⟨front, c, separator, by simp⟩⟩

/-- What stands in front of a separating character is not part of the last piece. -/
theorem IsLastPiece.behind {piece : Text} (last : IsLastPiece separates t piece) (front : Text)
    {c : Char} (separator : separates c = true) :
    IsLastPiece separates (front ++ c :: t) piece := by
  obtain ⟨plain, rfl | ⟨inside, d, separator', rfl⟩⟩ := last
  · exact ⟨plain, .inr ⟨front, c, separator, rfl⟩⟩
  · exact ⟨plain, .inr ⟨front ++ c :: inside, d, separator', by simp⟩⟩

theorem IsLastPiece.suffix {piece : Text} (last : IsLastPiece separates t piece) : piece <:+ t := by
  obtain ⟨-, rfl | ⟨front, c, -, rfl⟩⟩ := last
  · exact List.suffix_refl t
  · exact (List.suffix_cons c piece).trans (List.suffix_append front _)

/-! ### The extension -/

theorem fileName_eq_iff : fileName path = name ↔ IsLastPiece isSeparator path name :=
  rtakeWhile_eq_iff

/-- The file name is the same in every directory. -/
theorem fileName_append_cons (directory path : Text) {c : Char} (separator : isSeparator c = true) :
    fileName (directory ++ c :: path) = fileName path :=
  fileName_eq_iff.2 ((fileName_eq_iff.1 rfl).behind directory separator)

/-- In a name with dots the extension is the last piece. -/
theorem extension_eq_iff_of_dotted (dotted : '.' ∈ fileName path) :
    extension path = ext ↔ IsLastPiece (· = '.') (fileName path) ext := by
  have isPiece : extension path = (fileName path).rtakeWhile fun c => !decide (c = '.') := by
    rw [extension, if_pos dotted, List.rtakeWhile]
    simp only [ne_eq, decide_not]
  rw [isPiece]
  exact rtakeWhile_eq_iff

/-- The extension is what the path ends in behind a dot, as long as no dot and no separator is in
it. -/
theorem extension_eq_iff_suffix (notEmpty : ext ≠ []) :
    extension path = ext ↔
      (∀ c ∈ ext, c ≠ '.' ∧ isSeparator c = false) ∧ '.' :: ext <:+ path := by
  have isName : IsLastPiece isSeparator path (fileName path) := fileName_eq_iff.1 rfl
  constructor
  · intro isExtension
    have dotted : '.' ∈ fileName path := by
      by_contra noDot
      exact notEmpty (isExtension.symm.trans (if_neg noDot))
    obtain ⟨noDot, whole | ⟨front, dot, isDot, inName⟩⟩ :=
      (extension_eq_iff_of_dotted dotted).1 isExtension
    · rw [whole] at dotted
      simpa using noDot '.' dotted
    · obtain rfl : dot = '.' := by simpa using isDot
      have atEnd : '.' :: ext <:+ fileName path := ⟨front, inName.symm⟩
      refine ⟨fun c member => ⟨by simpa using noDot c member, isName.1 c ?_⟩,
        atEnd.trans isName.suffix⟩
      exact atEnd.subset (List.mem_cons_of_mem _ member)
  · rintro ⟨plain, front, rfl⟩
    have noSeparator : ∀ c ∈ '.' :: ext, isSeparator c = false :=
      List.forall_mem_cons.2 ⟨rfl, fun c member => (plain c member).2⟩
    have isName : fileName (front ++ '.' :: ext) = fileName front ++ '.' :: ext :=
      fileName_eq_iff.2 ((fileName_eq_iff.1 rfl).append noSeparator)
    rw [extension_eq_iff_of_dotted (by simp [isName]), isName]
    exact ⟨fun c member => by simpa using (plain c member).1, .inr ⟨fileName front, '.', rfl, rfl⟩⟩

/-- There is no extension when the file name has no dot, or none but an empty text behind it. -/
theorem extension_eq_nil_iff (isName : IsLastPiece isSeparator path name) :
    extension path = [] ↔ '.' ∉ name ∨ name.getLast? = some '.' := by
  obtain rfl := fileName_eq_iff.2 isName
  by_cases dotted : '.' ∈ fileName path
  · rw [extension_eq_iff_of_dotted dotted, List.getLast?_eq_some_iff]
    constructor
    · rintro ⟨-, empty | ⟨front, dot, isDot, whole⟩⟩
      · rw [empty] at dotted
        cases dotted
      · obtain rfl : dot = '.' := by simpa using isDot
        exact .inr ⟨front, whole⟩
    · rintro (noDot | ⟨front, whole⟩)
      · exact absurd dotted noDot
      · exact ⟨by simp, .inr ⟨front, '.', rfl, whole⟩⟩
  · exact iff_of_true (if_neg dotted) (.inl dotted)

/-! ### Lower case -/

/-- The lower case of a character, as far as ASCII is concerned. A character of ASCII has its own,
and the kelvin sign has a letter of ASCII. Any other has something outside ASCII in it: the dotted
capital I has a combining dot behind its `i`. -/
inductive Lowers : Char → Text → Prop
  | ascii (c : Char) (inside : c.toNat < 128) : Lowers c [c.toLower]
  | kelvin : Lowers '\u212a' ['k']
  | beyond (c : Char) (image : Text) (outside : 128 ≤ c.toNat) (d : Char) (member : d ∈ image)
      (stays : 128 ≤ d.toNat) : Lowers c image

/-- Texts are put into lower case character by character. What becomes of one outside ASCII may
depend on those around it. -/
inductive LowersAll : Text → Text → Prop
  | nil : LowersAll [] []
  | cons {c : Char} {image t lower : Text} (first : Lowers c image) (rest : LowersAll t lower) :
      LowersAll (c :: t) (image ++ lower)

theorem toLower_of_outside {c : Char} (outside : 128 ≤ c.toNat) : c.toLower = c := by
  have notUpper : ¬ (c.val ≥ 'A'.val ∧ c.val ≤ 'Z'.val) := by
    rintro ⟨-, below⟩
    have := UInt32.le_iff_toNat_le.1 below
    have isZ : 'Z'.val.toNat = 90 := rfl
    have isNat : c.val.toNat = c.toNat := rfl
    omega
  exact dif_neg notUpper

theorem lowersAll_lowercase (t : Text) : LowersAll t (lowercase t) := by
  induction t with
  | nil => exact .nil
  | cons c t ih =>
    refine .cons ?_ ih
    rw [lowerChar]
    split
    · rename_i isKelvin
      subst isKelvin
      exact .kelvin
    · split
      · rename_i isDotted
        subst isDotted
        exact .beyond _ _ (by decide) '\u0307' (by decide) (by decide)
      · by_cases inside : c.toNat < 128
        · exact .ascii c inside
        · have outside : 128 ≤ c.toNat := Nat.not_lt.1 inside
          rw [toLower_of_outside outside]
          exact .beyond c [c] outside c (by simp) outside

/-- Inside ASCII there is one lower case only. -/
theorem LowersAll.eq_map {lower : Text} (lowers : LowersAll t lower)
    (inside : ∀ c ∈ t, c.toNat < 128) : lower = t.map Char.toLower := by
  induction lowers with
  | nil => rfl
  | cons first rest ih =>
    obtain ⟨insideFirst, insideRest⟩ := List.forall_mem_cons.1 inside
    rw [ih insideRest]
    cases first with
    | ascii c _ => rfl
    | kelvin => exact absurd insideFirst (by decide)
    | beyond c image outside => omega

/-- A character outside ASCII leaves its trace in the lower case of a text. -/
theorem LowersAll.exists_foreign {lower : Text} (lowers : LowersAll t lower)
    {c : Char} (member : c ∈ t) (outside : 128 ≤ c.toNat) :
    ∃ d ∈ lower, 128 ≤ d.toNat ∨ d = 'k' := by
  induction lowers with
  | nil => cases member
  | cons first rest ih =>
    rcases List.mem_cons.1 member with rfl | later
    · cases first with
      | ascii _ inside => omega
      | kelvin => exact ⟨'k', by simp, .inr rfl⟩
      | beyond _ image _ d inImage stays => exact ⟨d, by simp [inImage], .inl stays⟩
    · obtain ⟨d, inLower, foreign⟩ := ih later
      exact ⟨d, by simp [inLower], foreign⟩

/-! ### Supported files -/

/-- The supported extensions are spelled in ASCII, without the letter `k` and without anything that
separates the parts of a path. -/
theorem plain_of_mem_supported : ∀ word ∈ supportedExtensions, ∀ c ∈ word,
    c.toNat < 128 ∧ c ≠ 'k' ∧ c ≠ '.' ∧ isSeparator c = false := by
  have all : (supportedExtensions.all fun word => word.all fun c =>
      c.toNat < 128 ∧ c ≠ 'k' ∧ c ≠ '.' ∧ isSeparator c = false) = true := by decide
  simpa only [List.all_eq_true, decide_eq_true_eq] using all

/-- Whatever full lower case is, only ASCII decides which extensions are supported. -/
theorem LowersAll.mem_supported_iff {lower : Text} (lowers : LowersAll t lower) :
    lower ∈ supportedExtensions ↔ t.map Char.toLower ∈ supportedExtensions := by
  by_cases inside : ∀ c ∈ t, c.toNat < 128
  · rw [lowers.eq_map inside]
  · obtain ⟨c, member, outside⟩ : ∃ c ∈ t, 128 ≤ c.toNat := by simpa using inside
    refine iff_of_false (fun listed => ?_) (fun listed => ?_)
    · obtain ⟨d, inLower, foreign⟩ := lowers.exists_foreign member outside
      obtain ⟨ascii, notK, -⟩ := plain_of_mem_supported _ listed d inLower
      rcases foreign with stays | isK
      · omega
      · exact notK isK
    · have inWord : c ∈ t.map Char.toLower :=
        List.mem_map.2 ⟨c, member, toLower_of_outside outside⟩
      obtain ⟨ascii, -⟩ := plain_of_mem_supported _ listed c inWord
      omega

theorem isSupported_iff :
    isSupported path = true ↔ (extension path).map Char.toLower ∈ supportedExtensions := by
  rw [isSupported, List.contains_iff_mem]
  exact (lowersAll_lowercase _).mem_supported_iff

/-- The empty extension is none of those that are known. -/
theorem extension_ne_nil_of_isSupported (supported : isSupported path = true) :
    extension path ≠ [] := by
  intro noExtension
  rw [isSupported, noExtension] at supported
  exact absurd supported (by decide)

/-- A file is supported for its extension, so there is a dot in its path. -/
theorem dot_mem_of_isSupported (supported : isSupported path = true) : '.' ∈ path := by
  obtain ⟨-, atEnd⟩ := (extension_eq_iff_suffix (extension_ne_nil_of_isSupported supported)).1 rfl
  exact atEnd.subset List.mem_cons_self

/-- A supported extension is one of the path wherever the path ends in it. -/
theorem extension_of_supported {front : Text}
    (listed : ext.map Char.toLower ∈ supportedExtensions) :
    extension (front ++ '.' :: ext) = ext := by
  have notEmpty : ext ≠ [] := by
    rintro rfl
    exact absurd listed (by decide)
  refine (extension_eq_iff_suffix notEmpty).2 ⟨fun c member => ?_, front, rfl⟩
  obtain ⟨-, -, noDot, noSeparator⟩ :=
    plain_of_mem_supported _ listed c.toLower (List.mem_map_of_mem member)
  constructor
  · rintro rfl
    exact noDot rfl
  · by_contra separator
    simp only [isSeparator, Bool.or_eq_true, decide_eq_true_eq, Bool.not_eq_false] at separator
    rcases separator with rfl | rfl <;> exact absurd noSeparator (by decide)

/-- **How a path ends decides what its extension is, and whether its file is supported.** It has an
extension when it ends in a dot and that extension, with no dot and no separator in it; it has none
when the name behind the last separator has no dot or ends in one. Its file is supported exactly
when it ends in a dot and a word whose lower case in ASCII is one of those that are known. So the
directory makes no difference, dots or not; and neither does it make one how the lower case of
other characters goes on, because an extension with a character outside ASCII is none of these. -/
theorem ending_decides (path : Text) :
    (∀ {ext}, ext ≠ [] → (extension path = ext ↔
      (∀ c ∈ ext, c ≠ '.' ∧ isSeparator c = false) ∧ '.' :: ext <:+ path)) ∧
    (∃ name, IsLastPiece isSeparator path name) ∧
    (∀ {name}, IsLastPiece isSeparator path name →
      (extension path = [] ↔ '.' ∉ name ∨ name.getLast? = some '.')) ∧
    (isSupported path = true ↔
      ∃ front ext, path = front ++ '.' :: ext ∧ ext.map Char.toLower ∈ supportedExtensions) ∧
    (∀ (directory : Text) {c}, isSeparator c = true →
      extension (directory ++ c :: path) = extension path ∧
        isSupported (directory ++ c :: path) = isSupported path) ∧
    (∀ {lower}, LowersAll (extension path) lower →
      supportedExtensions.contains lower = isSupported path) ∧
    ∀ {c}, c ∈ extension path → 128 ≤ c.toNat → isSupported path = false := by
  refine ⟨extension_eq_iff_suffix, ⟨_, fileName_eq_iff.1 rfl⟩, extension_eq_nil_iff, ?_, ?_, ?_, ?_⟩
  · constructor
    · intro supported
      obtain ⟨-, front, whole⟩ :=
        (extension_eq_iff_suffix (extension_ne_nil_of_isSupported supported)).1 rfl
      exact ⟨front, extension path, whole.symm, isSupported_iff.1 supported⟩
    · rintro ⟨front, ext, rfl, listed⟩
      rwa [isSupported_iff, extension_of_supported listed]
  · intro directory c separator
    have sameExtension : extension (directory ++ c :: path) = extension path := by
      rw [extension, extension, fileName_append_cons directory path separator]
    exact ⟨sameExtension, by rw [isSupported, isSupported, sameExtension]⟩
  · intro lower lowers
    rw [Bool.eq_iff_iff, List.contains_iff_mem, lowers.mem_supported_iff, isSupported_iff]
  · intro c member outside
    rw [Bool.eq_false_iff, ne_eq, isSupported_iff]
    intro listed
    have inWord : c ∈ (extension path).map Char.toLower :=
      List.mem_map.2 ⟨c, member, toLower_of_outside outside⟩
    obtain ⟨ascii, -⟩ := plain_of_mem_supported _ listed c inWord
    omega

/-- Upper case behind two kinds of separators, and a dotted capital I whose lower case begins like
that of a supported extension. -/
theorem ending_decides_dotted :
    let upper := "a.md\\x.h/y.C++".toList
    let dotted := "a.c/.y.\u0130nc".toList
    extension upper = "C++".toList ∧ isSupported upper = true ∧
      IsLastPiece isSeparator dotted ".y.\u0130nc".toList ∧ extension dotted ≠ [] ∧
      extension ("b.c\\".toList ++ dotted) = "\u0130nc".toList ∧
      LowersAll (extension dotted) "i\u0307nc".toList ∧
      supportedExtensions.contains "i\u0307nc".toList = isSupported dotted ∧
      isSupported dotted = false := by
  intro upper dotted
  obtain ⟨hasExtension, -, -, supported, -⟩ := ending_decides upper
  obtain ⟨-, -, hasNone, -, anywhere, fullLower, refused⟩ := ending_decides dotted
  have isName : IsLastPiece isSeparator dotted ".y.\u0130nc".toList :=
    ⟨by simp [isSeparator], .inr ⟨"a.c".toList, '/', rfl, rfl⟩⟩
  have notEmpty : extension dotted ≠ [] := by
    rw [ne_eq, hasNone isName]
    decide
  have lowers : LowersAll (extension dotted) "i\u0307nc".toList := lowersAll_lowercase _
  exact ⟨(hasExtension (by decide)).2 ⟨by simp [isSeparator], "a.md\\x.h/y".toList, rfl⟩,
    supported.2 ⟨"a.md\\x.h/y".toList, "C++".toList, rfl, by decide⟩, isName, notEmpty,
    (anywhere "b.c".toList (by decide)).1, lowers, fullLower lowers,
    refused (c := '\u0130') (by decide) (by decide)⟩

end MatchedLines.FileType
