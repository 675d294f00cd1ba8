import MatchedLines.Proofs.Utf8Streams

/-! Text between bytes of ASCII. Such a byte ends whatever stands before it, well-formed or not, so
the fields of a line are read as if each stood alone (`Feed.take_field`), and what is ASCII in the
text of a field is a byte of that field (`ascii_mem_of_mem_decode`). What carries both is that a
feed holds back just the bytes that the decoder is inside of (`Feed.run_held`). -/
namespace MatchedLines.Utf8

/-! ### Characters that have begun -/

theorem isContinuation_iff {b : UInt8} :
    isContinuation b = true ↔ 0x80 ≤ b.toNat ∧ b.toNat < 0xC0 := by
  simp [isContinuation, UInt8.le_iff_toNat_le, UInt8.lt_iff_toNat_lt]

/-- A byte that goes on with a character begins none. -/
theorem start_continuation {b : UInt8} (goesOn : isContinuation b = true) :
    start b = (none, [replacement]) := by
  obtain ⟨low, high⟩ := isContinuation_iff.1 goesOn
  rcases start_reads b with ⟨ascii, -⟩ | ⟨-, stray⟩ | ⟨-, s, -, isOpen, missing⟩
  · omega
  · exact stray
  · have noneAnnounced : announced b = 0 := if_pos (UInt8.lt_iff_toNat_lt.2 high)
    have := isOpen.missing_pos
    omega

/-- A byte that does not go on with a character leaves it ill-formed and is read on its own. -/
theorem step_apart {s : Sequence} (isOpen : s.Open) {b : UInt8} (apart : isContinuation b ≠ true) :
    step (some s) b = ((start b).1, replacement :: (start b).2) := by
  have outside : ¬ (s.low ≤ b ∧ b ≤ s.high) := by
    rintro ⟨low, high⟩
    rw [UInt8.le_iff_toNat_le] at low high
    have := isOpen.le_low
    have := isOpen.high_lt
    exact apart (isContinuation_iff.2 (by omega))
  simp [step, outside]

/-- A byte that goes on with a character takes it one byte further or ends it, and what it ends in
is not ASCII. -/
theorem step_goesOn {s : Sequence} (isOpen : s.Open) {b : UInt8}
    (goesOn : isContinuation b = true) :
    ((step (some s) b).1 = none ∧
        ∀ c ∈ (step (some s) b).2, 0x80 ≤ c.toNat ∨ c = '\x00') ∨
      ∃ next, step (some s) b = (some next, []) ∧ next.Open ∧ next.missing + 1 = s.missing := by
  by_cases inside : s.low ≤ b ∧ b ≤ s.high
  · have low := UInt8.le_iff_toNat_le.1 inside.1
    have beyond : 11 ≤ s.bits * 64 + (s.low.toNat - 0x80) := isOpen.beyond
    by_cases last : s.missing ≤ 1
    · have := isOpen.last_beyond (by have := isOpen.missing_pos; omega)
      refine .inl ⟨by simp [step, inside, last], fun c written => ?_⟩
      simp only [step, inside, last, and_self, if_true, List.mem_singleton] at written
      rw [written]
      exact (toNat_ofNat_or_nul _).imp_left fun number => by omega
    · refine .inr ⟨⟨s.missing - 1, 0x80, 0xBF, s.bits * 64 + (b.toNat - 0x80)⟩,
        by simp [step, inside, last], ⟨?_, ?_, ?_, ?_, ?_⟩, ?_⟩
      all_goals
        simp only [Sequence.BeyondFeed, UInt8.reduceToNat]
        omega
  · refine .inl ⟨by simp [step, inside, start_continuation goesOn], fun c written => ?_⟩
    simp only [step, inside, if_false, start_continuation goesOn, List.mem_cons,
      List.not_mem_nil, or_false, or_self] at written
    rw [written]
    exact .inl (by decide)

/-! ### Characters of ASCII -/

/-- A decoder as it is while it reads: inside no character, or inside one that may be completed. -/
def Decoder.Sound (d : Decoder) : Prop := ∀ s ∈ d, s.Open

theorem Decoder.sound_none : Decoder.Sound none := fun _ inside => nomatch inside

theorem start_sound (b : UInt8) : Decoder.Sound (start b).1 := by
  rcases start_reads b with ⟨-, read⟩ | ⟨-, read⟩ | ⟨-, s, read, isOpen, -⟩
  · rw [read]
    exact Decoder.sound_none
  · rw [read]
    exact Decoder.sound_none
  · rw [read]
    rintro _ ⟨⟩
    exact isOpen

theorem step_sound {d : Decoder} (sound : Decoder.Sound d) (b : UInt8) :
    Decoder.Sound (step d b).1 := by
  cases d with
  | none => exact start_sound b
  | some s =>
    by_cases goesOn : isContinuation b = true
    · rcases step_goesOn (sound s rfl) goesOn with ⟨ended, -⟩ | ⟨next, stays, isOpen, -⟩
      · rw [ended]
        exact Decoder.sound_none
      · rw [stays]
        rintro _ ⟨⟩
        exact isOpen
    · rw [step_apart (sound s rfl) goesOn]
      exact start_sound b

/-- What a first byte writes is the character of that byte, if it is ASCII at all. -/
theorem start_ascii {b : UInt8} {c : Char} (ascii : c.toNat < 0x80) (written : c ∈ (start b).2) :
    c = Char.ofNat b.toNat ∧ b.toNat < 0x80 := by
  rcases start_reads b with ⟨low, read⟩ | ⟨-, read⟩ | ⟨-, s, read, -⟩
  · rw [read, List.mem_singleton] at written
    exact ⟨written, low⟩
  · rw [read, List.mem_singleton] at written
    rw [written] at ascii
    exact absurd ascii (by decide)
  · rw [read] at written
    cases written

theorem step_ascii {d : Decoder} (sound : Decoder.Sound d) {b : UInt8} {c : Char}
    (ascii : c.toNat < 0x80) (notNul : c ≠ '\x00') (written : c ∈ (step d b).2) :
    c = Char.ofNat b.toNat ∧ b.toNat < 0x80 := by
  cases d with
  | none => exact start_ascii ascii written
  | some s =>
    by_cases goesOn : isContinuation b = true
    · rcases step_goesOn (sound s rfl) goesOn with ⟨-, beyond⟩ | ⟨next, stays, -⟩
      · rcases beyond c written with high | nul
        · omega
        · exact absurd nul notNul
      · rw [stays] at written
        cases written
    · rw [step_apart (sound s rfl) goesOn, List.mem_cons] at written
      rcases written with rfl | written
      · exact absurd ascii (by decide)
      · exact start_ascii ascii written

/-- Characters of ASCII are written for bytes of ASCII only. -/
theorem run_ascii {d : Decoder} (sound : Decoder.Sound d) {bytes : Bytes} {c : Char}
    (ascii : c.toNat < 0x80) (notNul : c ≠ '\x00')
    (written : c ∈ (Transducer.run step d bytes).2) :
    ∃ b ∈ bytes, c = Char.ofNat b.toNat ∧ b.toNat < 0x80 := by
  induction bytes generalizing d with
  | nil => cases written
  | cons b bytes ih =>
    rw [Transducer.run_cons, List.mem_append] at written
    rcases written with now | later
    · exact ⟨b, by simp, step_ascii sound ascii notNul now⟩
    · obtain ⟨other, member, isChar⟩ := ih (step_sound sound b) later
      exact ⟨other, by simp [member], isChar⟩

/-- What is written at the end of a byte string for the character it ends inside of. -/
def Decoder.flush (d : Decoder) : Text := if d.isSome then [replacement] else []

theorem decode_eq (bytes : Bytes) :
    decode bytes = (Transducer.run step none bytes).2 ++
      Decoder.flush (Transducer.run step none bytes).1 := by
  unfold decode
  cases Transducer.run step none bytes with
  | mk d t => cases d <;> simp [Decoder.flush]

/-- What is ASCII in a text, NUL apart, is a byte of the string that it was read from. -/
theorem ascii_mem_of_mem_decode {bytes : Bytes} {c : Char} (ascii : c.toNat < 0x80)
    (notNul : c ≠ '\x00') (member : c ∈ decode bytes) :
    ∃ b ∈ bytes, c = Char.ofNat b.toNat ∧ b.toNat < 0x80 := by
  rw [decode_eq, List.mem_append] at member
  rcases member with written | flushed
  · exact run_ascii Decoder.sound_none ascii notNul written
  · rw [Decoder.flush] at flushed
    split at flushed
    · rw [List.mem_singleton.1 flushed] at ascii
      exact absurd ascii (by decide)
    · cases flushed

theorem toNat_ofNat_of_ascii {n : Nat} (ascii : n < 0x80) : (Char.ofNat n).toNat = n := by
  have valid : n.isValidChar := .inl (by omega)
  rw [Char.ofNat, dif_pos valid]
  rfl

/-- A byte of ASCII that is not in a string is not in its text either. -/
theorem not_mem_decode {bytes : Bytes} {b : UInt8} (ascii : b.toNat < 0x80) (notNul : b ≠ 0)
    (absent : b ∉ bytes) : Char.ofNat b.toNat ∉ decode bytes := by
  intro member
  have number := toNat_ofNat_of_ascii ascii
  have isChar : Char.ofNat b.toNat ≠ '\x00' := by
    intro nul
    rw [nul] at number
    exact notNul (UInt8.toNat_inj.1 number.symm)
  obtain ⟨other, isByte, same, low⟩ := ascii_mem_of_mem_decode (by omega) isChar member
  have sameNumber : b.toNat = other.toNat := by
    rw [← number, same, toNat_ofNat_of_ascii low]
  exact absent (UInt8.toNat_inj.1 sameNumber ▸ isByte)

/-! ### What a stream holds back -/

namespace Feed

/-- A feed as it is while it reads: what it holds back is what the decoder is inside of, and both
wait for as many bytes. The decoder may know before the feed that nothing can come of them. -/
structure Sound (f : Feed) : Prop where
  idle : f.missing = 0 → f.held = []
  waits : ∀ s ∈ (Transducer.run Utf8.step none f.held).1, s.Open ∧ s.missing = f.missing

theorem sound_empty : Sound {} := ⟨fun _ => rfl, fun _ inside => nomatch inside⟩

/-- A byte that is read on its own is held back or written, as the decoder has it. -/
theorem start_held (b : UInt8) :
    (start b).1.Sound ∧
      Utf8.start b = ((Transducer.run Utf8.step none (start b).1.held).1,
        (start b).2 ++ (Transducer.run Utf8.step none (start b).1.held).2) := by
  have alone : Transducer.run Utf8.step none [b] = Utf8.start b := by
    rw [Transducer.run_cons, Transducer.run_nil, List.append_nil]
    rfl
  by_cases single : announced b = 0
  · have ended : (Utf8.start b).1 = none := by
      rcases start_reads b with ⟨-, read⟩ | ⟨-, read⟩ | ⟨-, s, read, isOpen, missing⟩
      · rw [read]
      · rw [read]
      · have := isOpen.missing_pos
        omega
    have written : start b = ({}, (Utf8.start b).2) := by
      rw [start, if_pos single, decode_eq, alone, ended]
      simp [Decoder.flush]
    rw [written]
    refine ⟨sound_empty, Prod.ext ended ?_⟩
    simp
  · have held : start b = (⟨[b], announced b⟩, []) := if_neg single
    rw [held]
    refine ⟨⟨fun noneMissing => absurd noneMissing single, fun s inside => ?_⟩, ?_⟩
    · rw [alone] at inside
      rcases start_reads b with ⟨-, read⟩ | ⟨-, read⟩ | ⟨-, t, read, isOpen, missing⟩
      · rw [read] at inside
        cases inside
      · rw [read] at inside
        cases inside
      · rw [read] at inside
        cases inside
        exact ⟨isOpen, missing⟩
    · rw [alone]
      rfl

/-- A byte that goes on with the character leaves one less to wait for. -/
theorem waits_goesOn {f : Feed} (sound : f.Sound) {b : UInt8} (goesOn : isContinuation b = true) :
    ∀ s ∈ (Transducer.run Utf8.step none (f.held ++ [b])).1,
      s.Open ∧ s.missing + 1 = f.missing := by
  rw [Transducer.run_concat]
  intro t further
  cases inside : (Transducer.run Utf8.step none f.held).1 with
  | none =>
    rw [inside, Utf8.step, start_continuation goesOn] at further
    cases further
  | some s =>
    obtain ⟨isOpen, missing⟩ := sound.waits s inside
    rw [inside] at further
    rcases step_goesOn isOpen goesOn with ⟨ended, -⟩ | ⟨next, stays, nextOpen, fewer⟩
    · rw [ended] at further
      cases further
    · rw [stays] at further
      cases further
      exact ⟨nextOpen, by omega⟩

/-- One byte further the decoder is inside of what is then held back, and what it has written is
what the feed has given up. -/
theorem step_held {f : Feed} (sound : f.Sound) (b : UInt8) :
    (f.step b).1.Sound ∧
      Transducer.run Utf8.step none (f.held ++ [b]) =
        ((Transducer.run Utf8.step none (f.step b).1.held).1,
          (f.step b).2 ++ (Transducer.run Utf8.step none (f.step b).1.held).2) := by
  obtain ⟨startSound, started⟩ := start_held b
  by_cases idle : f.missing = 0
  · have stepped : f.step b = start b := if_pos idle
    rw [stepped, sound.idle idle, Transducer.run_concat]
    exact ⟨startSound, started⟩
  by_cases goesOn : isContinuation b = true
  · have waits := waits_goesOn sound goesOn
    by_cases last : f.missing = 1
    · have stepped : f.step b = ({}, decode (f.held ++ [b])) := by simp [step, goesOn, last]
      have ended : (Transducer.run Utf8.step none (f.held ++ [b])).1 = none := by
        refine Option.eq_none_iff_forall_not_mem.2 fun s inside => ?_
        obtain ⟨isOpen, missing⟩ := waits s inside
        have := isOpen.missing_pos
        omega
      rw [stepped, decode_eq, ended]
      exact ⟨sound_empty, Prod.ext ended (by simp [Decoder.flush])⟩
    · have stepped : f.step b = (⟨f.held ++ [b], f.missing - 1⟩, []) := by
        simp [step, idle, goesOn, last]
      rw [stepped]
      refine
        ⟨⟨fun noneMissing => absurd noneMissing (by simp only; omega), fun s inside => ?_⟩, rfl⟩
      obtain ⟨isOpen, missing⟩ := waits s inside
      exact ⟨isOpen, by simp only; omega⟩
  · have stepped : f.step b = ((start b).1, decode f.held ++ (start b).2) := by
      simp [step, idle, goesOn]
    rw [stepped, decode_eq, Transducer.run_concat]
    refine ⟨startSound, ?_⟩
    cases inside : (Transducer.run Utf8.step none f.held).1 with
    | none => simp [Utf8.step, started, Decoder.flush]
    | some s => simp [step_apart (sound.waits s inside).1 goesOn, started, Decoder.flush]

/-- The decoder is inside of just the bytes that the feed holds back, and what it has written is
what the feed has given up. -/
theorem run_held {f : Feed} (sound : f.Sound) (bytes : Bytes) :
    (f.take bytes).1.Sound ∧
      Transducer.run Utf8.step none (f.held ++ bytes) =
        ((Transducer.run Utf8.step none (f.take bytes).1.held).1,
          (f.take bytes).2 ++ (Transducer.run Utf8.step none (f.take bytes).1.held).2) := by
  induction bytes generalizing f with
  | nil => exact ⟨sound, by simp [take]⟩
  | cons b bytes ih =>
    obtain ⟨nextSound, next⟩ := step_held sound b
    obtain ⟨finalSound, final⟩ := ih nextSound
    rw [take, Transducer.run_cons]
    refine ⟨finalSound, ?_⟩
    rw [Transducer.run_append] at final
    obtain ⟨sameState, sameText⟩ := Prod.mk.inj final
    rw [List.append_cons, Transducer.run_append, next, sameState]
    simp only [List.append_assoc, sameText]
    rfl

/-- What is held back at the end of a byte string is all of its text that is still to come. -/
theorem decode_eq_take (bytes : Bytes) :
    decode bytes = (take {} bytes).2 ++ decode (take {} bytes).1.held := by
  have read := (run_held sound_empty bytes).2
  rw [List.nil_append] at read
  rw [decode_eq, decode_eq, read, List.append_assoc]

/-- A byte of ASCII ends what is held back and is written as it is. -/
theorem step_of_ascii {f : Feed} (sound : f.Sound) {b : UInt8} (ascii : b.toNat < 0x80) :
    f.step b = ({}, decode f.held ++ [Char.ofNat b.toNat]) := by
  have single : announced b = 0 := by
    apply if_pos (UInt8.lt_iff_toNat_lt.2 _)
    simp only [UInt8.reduceToNat]
    omega
  have alone : decode [b] = [Char.ofNat b.toNat] := by
    have read : Utf8.start b = (none, [Char.ofNat b.toNat]) :=
      if_pos (UInt8.lt_iff_toNat_lt.2 ascii)
    rw [decode_eq, Transducer.run_cons, Utf8.step, read]
    rfl
  have started : start b = ({}, [Char.ofNat b.toNat]) := by rw [start, if_pos single, alone]
  have apart : isContinuation b ≠ true := fun goesOn => by
    have := (isContinuation_iff.1 goesOn).1
    omega
  by_cases idle : f.missing = 0
  · rw [step, if_pos idle, started, sound.idle idle]
    rfl
  · rw [step, if_neg idle, if_neg apart, started]

/-- A field up to a byte of ASCII is read as if it stood alone, and so is what follows that byte. -/
theorem take_field (field rest : Bytes) {b : UInt8} (ascii : b.toNat < 0x80) :
    take {} (field ++ b :: rest) =
      ((take {} rest).1, decode field ++ Char.ofNat b.toNat :: (take {} rest).2) := by
  have sound := (run_held sound_empty field).1
  have ended := step_of_ascii sound ascii
  rw [take_append, decode_eq_take field, take, Transducer.run_cons, ended]
  simp [take]

end Feed

/-- UTF-8 gives back the text that was written. -/
theorem decode_encode (t : Text) : decode (encode t) = t := by
  rw [Feed.decode_eq_take, Feed.take_encode]
  exact List.append_nil t

/-- The bytes are those of some text. -/
def IsText (bytes : Bytes) : Prop := ∃ t, encode t = bytes

/-- Bytes of a text are those of the text that is read from them. -/
theorem isText_iff {bytes : Bytes} : IsText bytes ↔ encode (decode bytes) = bytes := by
  constructor
  · rintro ⟨t, rfl⟩
    rw [decode_encode]
  · exact fun written => ⟨_, written⟩

end MatchedLines.Utf8
