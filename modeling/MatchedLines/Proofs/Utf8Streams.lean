import Mathlib.Tactic.SplitIfs
import MatchedLines.Proofs.LineReading
import MatchedLines.Source

/-! A byte stream may be cut anywhere. The text that its pieces give together is the text of all
its bytes (`flatten_decodeChunks`), UTF-8 gives back the text that was written (`take_encode`), and
a piece without text of its own stands inside a character, so that it never parts a CR from its LF
(`intact_decodeChunks`). -/
namespace MatchedLines.Utf8

open Lines

/-! ### Characters that have begun -/

/-- The least number that can still come of the character is past LF. -/
def Sequence.BeyondFeed (s : Sequence) : Prop := 11 ≤ s.bits * 64 + (s.low.toNat - 0x80)

/-- A character that has begun and may still be completed, by bytes that go on with it. Its number
is going to be past ASCII. -/
structure Sequence.Open (s : Sequence) : Prop where
  missing_pos : 1 ≤ s.missing
  le_low : 0x80 ≤ s.low.toNat
  high_lt : s.high.toNat < 0xC0
  beyond : s.BeyondFeed
  last_beyond : s.missing = 1 → 0x80 ≤ s.bits * 64 + (s.low.toNat - 0x80)

/-- Whether a character is open, one number at a time. -/
theorem Sequence.open_iff (s : Sequence) :
    (1 ≤ s.missing ∧ 0x80 ≤ s.low.toNat ∧ s.high.toNat < 0xC0 ∧
      11 ≤ s.bits * 64 + (s.low.toNat - 0x80) ∧
      (s.missing = 1 → 0x80 ≤ s.bits * 64 + (s.low.toNat - 0x80))) ↔ s.Open :=
  ⟨fun ⟨missing, low, high, beyond, last⟩ => ⟨missing, low, high, beyond, last⟩,
    fun isOpen => ⟨isOpen.1, isOpen.2, isOpen.3, isOpen.4, isOpen.5⟩⟩

instance (s : Sequence) : Decidable s.Open := decidable_of_iff _ s.open_iff

theorem start_ofNat : ∀ n < 0x100,
    n < 0x80 ∧ start (.ofNat n) = (none, [Char.ofNat n]) ∨
      0x80 ≤ n ∧ start (.ofNat n) = (none, [replacement]) ∨
      0x80 ≤ n ∧ ∃ s ∈ (start (.ofNat n)).1, start (.ofNat n) = (some s, []) ∧ s.Open ∧
        s.missing = announced (.ofNat n) := by decide +kernel

/-- A first byte is a character of ASCII, or ill-formed, or it announces as many bytes as the
decoder then waits for. -/
theorem start_reads (b : UInt8) :
    b.toNat < 0x80 ∧ start b = (none, [Char.ofNat b.toNat]) ∨
      0x80 ≤ b.toNat ∧ start b = (none, [replacement]) ∨
      0x80 ≤ b.toNat ∧ ∃ s, start b = (some s, []) ∧ s.Open ∧ s.missing = announced b := by
  have number : UInt8.ofNat b.toNat = b := UInt8.ofNat_toNat
  have reads := start_ofNat b.toNat b.toNat_lt
  rw [number] at reads
  rcases reads with ascii | stray | ⟨high, s, -, begun⟩
  · exact .inl ascii
  · exact .inr (.inl stray)
  · exact .inr (.inr ⟨high, s, begun⟩)

/-- A number is that of its character, or it is that of none and read as NUL. -/
theorem toNat_ofNat_or_nul (n : Nat) : (Char.ofNat n).toNat = n ∨ Char.ofNat n = '\x00' := by
  by_cases valid : n.isValidChar
  · left
    rw [Char.ofNat, dif_pos valid]
    rfl
  · right
    rw [Char.ofNat, dif_neg valid]
    rfl

theorem ofNat_ne_feed {n : Nat} (beyond : 11 ≤ n) : Char.ofNat n ≠ '\n' := by
  rcases toNat_ofNat_or_nul n with number | nul
  · intro same
    rw [same] at number
    have : '\n'.toNat = 10 := rfl
    omega
  · rw [nul]
    decide

/-- All that a first byte can do: end a character of its own, which is an LF for no byte above
ASCII, or begin one that comes to no LF. -/
theorem start_cases (b : UInt8) :
    (∃ c, start b = (none, [c]) ∧ (0x80 ≤ b.toNat → c ≠ '\n')) ∨
      ∃ s, start b = (some s, []) ∧ s.BeyondFeed := by
  rcases start_reads b with ⟨ascii, read⟩ | ⟨-, read⟩ | ⟨-, s, read, isOpen, -⟩
  · exact .inl ⟨_, read, fun high => by omega⟩
  · exact .inl ⟨replacement, read, fun _ => by decide⟩
  · exact .inr ⟨s, read, isOpen.beyond⟩

/-- A first byte that completes a character writes it. -/
theorem start_ne_nil {b : UInt8} (done : (start b).1 = none) : (start b).2 ≠ [] := by
  obtain ⟨c, ended, -⟩ | ⟨next, begins, -⟩ := start_cases b
  · rw [ended]
    exact List.cons_ne_nil c []
  · rw [begins] at done
    cases done

/-- The next byte of a character takes it further or ends it, and either way no LF is written. -/
theorem step_beyond {s : Sequence} (beyond : s.BeyondFeed) (b : UInt8) :
    (∃ next, step (some s) b = (some next, []) ∧ next.BeyondFeed) ∨
      ∃ c out, (step (some s) b).2 = c :: out ∧ c ≠ '\n' := by
  by_cases goesOn : s.low ≤ b ∧ b ≤ s.high
  · have grown : 11 ≤ s.bits * 64 + (b.toNat - 0x80) := by
      have := UInt8.le_iff_toNat_le.1 goesOn.1
      unfold Sequence.BeyondFeed at beyond
      omega
    by_cases final : s.missing ≤ 1
    · exact .inr ⟨_, [], by simp [step, goesOn, final], ofNat_ne_feed grown⟩
    · refine .inl ⟨⟨s.missing - 1, 0x80, 0xBF, s.bits * 64 + (b.toNat - 0x80)⟩,
        by simp [step, goesOn, final], ?_⟩
      simp only [Sequence.BeyondFeed]
      omega
  · exact .inr ⟨replacement, (start b).2, by simp [step, goesOn], by decide⟩

/-- Whatever comes of a character that has begun, it is no LF. -/
theorem run_head_of_beyond {s : Sequence} (beyond : s.BeyondFeed) (bytes : Bytes) :
    (Transducer.run step (some s) bytes).2.head? ≠ some '\n' := by
  induction bytes generalizing s with
  | nil => simp
  | cons b bytes ih =>
    rw [Transducer.run_cons]
    obtain ⟨next, stepped, nextBeyond⟩ | ⟨c, out, written, notFeed⟩ := step_beyond beyond b
    · rw [stepped]
      exact ih nextBeyond
    · simpa [written] using notFeed

/-- A decoder that has read something and holds nothing back has written something. -/
theorem run_ne_nil {d : Decoder} {bytes : Bytes} (notEmpty : bytes ≠ [])
    (done : (Transducer.run step d bytes).1 = none) : (Transducer.run step d bytes).2 ≠ [] := by
  induction bytes generalizing d with
  | nil => contradiction
  | cons b bytes ih =>
    rw [Transducer.run_cons] at done ⊢
    cases bytes with
    | cons next bytes => simp [ih (by simp) done]
    | nil =>
      simp only [Transducer.run_nil, List.append_nil] at done ⊢
      cases d with
      | none => exact start_ne_nil done
      | some s =>
        simp only [step] at done ⊢
        split_ifs at done ⊢ <;> simp_all

/-- A byte above ASCII begins no text that an LF begins. -/
theorem run_head {b : UInt8} (high : 0x80 ≤ b.toNat) (bytes : Bytes) :
    (Transducer.run step none (b :: bytes)).2.head? ≠ some '\n' := by
  rw [Transducer.run_cons, step]
  obtain ⟨c, ended, notFeed⟩ | ⟨s, begun, beyond⟩ := start_cases b
  · rw [ended]
    simpa using notFeed high
  · rw [begun]
    exact run_head_of_beyond beyond bytes

/-- Bytes that begin above ASCII are read as some text, and not as one that an LF begins. -/
theorem decode_beyond {b : UInt8} (high : 0x80 ≤ b.toNat) (bytes : Bytes) :
    decode (b :: bytes) ≠ [] ∧ (decode (b :: bytes)).head? ≠ some '\n' := by
  have first := run_head high bytes
  unfold decode
  cases read : Transducer.run step none (b :: bytes) with
  | mk d t =>
    rw [read] at first
    cases d with
    | none => exact ⟨by simpa [read] using run_ne_nil (d := none) (List.cons_ne_nil b bytes), first⟩
    | some s => cases t <;> simp_all [replacement]

theorem decode_ne_nil {bytes : Bytes} (notEmpty : bytes ≠ []) : decode bytes ≠ [] := by
  unfold decode
  cases read : Transducer.run step none bytes with
  | mk d t =>
    cases d with
    | none => simpa [read] using run_ne_nil (d := none) notEmpty
    | some s => simp

/-! ### Streams -/

namespace Feed

/-- While a feed waits for bytes, what it holds back begins above ASCII. -/
def Waiting (f : Feed) : Prop := f.missing ≠ 0 → ∃ b tail, f.held = b :: tail ∧ 0x80 ≤ b.toNat

theorem start_waiting (b : UInt8) : (start b).1.Waiting := by
  unfold start announced Waiting
  simp only [UInt8.lt_iff_toNat_lt]
  split_ifs <;> simp_all <;> omega

theorem start_silent {b : UInt8} (silent : (start b).2 = []) : (start b).1.missing ≠ 0 := by
  unfold start at silent ⊢
  split_ifs at silent ⊢ with single
  · exact absurd silent (decode_ne_nil (by simp))
  · exact single

theorem step_waiting {f : Feed} (waiting : f.Waiting) (b : UInt8) : (f.step b).1.Waiting := by
  unfold step
  split_ifs with idle goesOn final
  · exact start_waiting b
  · exact fun missing => absurd rfl missing
  · obtain ⟨c, tail, held, high⟩ := waiting idle
    exact fun _ => ⟨c, tail ++ [b], by simp [held], high⟩
  · exact start_waiting b

theorem step_silent {f : Feed} {b : UInt8} (silent : (f.step b).2 = []) :
    (f.step b).1.missing ≠ 0 := by
  unfold step at silent ⊢
  split_ifs at silent ⊢ with idle goesOn final
  · exact start_silent silent
  · exact absurd silent (decode_ne_nil (by simp))
  · simp only
    omega
  · exact start_silent (List.append_eq_nil_iff.1 silent).2

theorem take_waiting {f : Feed} (waiting : f.Waiting) (piece : Bytes) :
    (f.take piece).1.Waiting := by
  induction piece generalizing f with
  | nil => exact waiting
  | cons b piece ih =>
    rw [take, Transducer.run_cons]
    exact ih (step_waiting waiting b)

/-- A piece that completes no text ends inside a character. -/
theorem take_silent {f : Feed} {piece : Bytes} (full : piece ≠ [])
    (silent : (f.take piece).2 = []) :
    (f.take piece).1.missing ≠ 0 := by
  induction piece generalizing f with
  | nil => contradiction
  | cons b piece ih =>
    rw [take, Transducer.run_cons] at silent ⊢
    obtain ⟨first, later⟩ := List.append_eq_nil_iff.1 silent
    cases piece with
    | nil => exact step_silent first
    | cons next piece => exact ih (by simp) later

/-- The text that follows the inside of a character does not begin with an LF. -/
theorem take_head {f : Feed} (waiting : f.Waiting) (inside : f.missing ≠ 0) (bytes : Bytes) :
    (f.take bytes).2.head? ≠ some '\n' := by
  induction bytes generalizing f with
  | nil => simp [take]
  | cons b bytes ih =>
    rw [take, Transducer.run_cons]
    obtain ⟨c, tail, held, high⟩ := waiting inside
    by_cases goesOn : isContinuation b = true
    · by_cases final : f.missing = 1
      · obtain ⟨written, head⟩ := decode_beyond high (tail ++ [b])
        obtain ⟨d, t, decoded⟩ := List.exists_cons_of_ne_nil written
        simp_all [step]
      · have stays : f.step b = (⟨f.held ++ [b], f.missing - 1⟩, []) := by
          simp [step, inside, goesOn, final]
        have next := ih (step_waiting waiting b) (by rw [stays]; simp only; omega)
        rw [stays] at next ⊢
        exact next
    · obtain ⟨written, head⟩ := decode_beyond high tail
      obtain ⟨d, t, decoded⟩ := List.exists_cons_of_ne_nil written
      simp_all [step]

theorem take_append (f : Feed) (front back : Bytes) :
    f.take (front ++ back) = (((f.take front).1.take back).1,
      (f.take front).2 ++ ((f.take front).1.take back).2) :=
  Transducer.run_append f front back

end Feed

/-! ### Writing and reading back -/

theorem start_one : ∀ n < 0x80, start (.ofNat n) = (none, [Char.ofNat n]) := by decide

theorem start_two :
    ∀ x < 0x20, 2 ≤ x → start (.ofNat (0xC0 + x)) = (some ⟨1, 0x80, 0xBF, x⟩, []) := by decide

theorem start_three : ∀ x < 0x10, start (.ofNat (0xE0 + x)) =
    (some ⟨2, if x = 0 then 0xA0 else 0x80, if x = 13 then 0x9F else 0xBF, x⟩, []) := by decide

theorem start_four : ∀ x < 5, start (.ofNat (0xF0 + x)) =
    (some ⟨3, if x = 0 then 0x90 else 0x80, if x = 4 then 0x8F else 0xBF, x⟩, []) := by decide

theorem toNat_tail (n : Nat) : (UInt8.ofNat (0x80 + n % 64)).toNat = 0x80 + n % 64 := by
  rw [UInt8.toNat_ofNat']
  omega

/-- The last byte of a character. -/
theorem step_last {low high : UInt8} {bits n : Nat} (least : low.toNat ≤ 0x80 + n % 64)
    (greatest : 0x80 + n % 64 ≤ high.toNat) :
    step (some ⟨1, low, high, bits⟩) (.ofNat (0x80 + n % 64)) =
      (none, [Char.ofNat (bits * 64 + n % 64)]) := by
  have number := toNat_tail n
  generalize UInt8.ofNat (0x80 + n % 64) = b at number
  simp [step, UInt8.le_iff_toNat_le, number, least, greatest]

/-- A byte of a character before the last. -/
theorem step_inner {low high : UInt8} {bits n missing : Nat} (least : low.toNat ≤ 0x80 + n % 64)
    (greatest : 0x80 + n % 64 ≤ high.toNat) :
    step (some ⟨missing + 2, low, high, bits⟩) (.ofNat (0x80 + n % 64)) =
      (some ⟨missing + 1, 0x80, 0xBF, bits * 64 + n % 64⟩, []) := by
  have number := toNat_tail n
  generalize UInt8.ofNat (0x80 + n % 64) = b at number
  simp [step, UInt8.le_iff_toNat_le, number, least, greatest]

/-- The bytes of a character are read as that character. -/
theorem decode_encodeChar (c : Char) : decode (encodeChar c) = [c] := by
  have valid : c.toNat.isValidChar := c.valid
  have same : Char.ofNat c.toNat = c := Char.ofNat_toNat c
  unfold encodeChar decode
  generalize c.toNat = n at valid same ⊢
  subst same
  simp only [Nat.isValidChar] at valid
  by_cases one : n < 0x80
  · rw [if_pos one, Transducer.run_cons, step, start_one n one]
    rfl
  by_cases two : n < 0x800
  · have bits : n / 64 * 64 + n / 1 % 64 = n := by omega
    rw [if_neg one, if_pos two, Transducer.run_cons, step, start_two (n / 64) (by omega) (by omega),
      Transducer.run_cons, step_last (by simp) (by simp; omega), bits]
    rfl
  by_cases three : n < 0x10000
  · have bits : (n / 4096 * 64 + n / 64 % 64) * 64 + n / 1 % 64 = n := by omega
    have least : (if n / 4096 = 0 then 0xA0 else 0x80 : UInt8).toNat ≤ 0x80 + n / 64 % 64 := by
      split_ifs <;> simp only [UInt8.reduceToNat] <;> omega
    have greatest : 0x80 + n / 64 % 64 ≤ (if n / 4096 = 13 then 0x9F else 0xBF : UInt8).toNat := by
      split_ifs <;> simp only [UInt8.reduceToNat] <;> omega
    rw [if_neg one, if_neg two, if_pos three, Transducer.run_cons, step,
      start_three (n / 4096) (by omega), Transducer.run_cons, step_inner least greatest,
      Transducer.run_cons, step_last (by simp) (by simp; omega), bits]
    rfl
  · have bits : ((n / 262144 * 64 + n / 4096 % 64) * 64 + n / 64 % 64) * 64 + n / 1 % 64 = n := by
      omega
    have least : (if n / 262144 = 0 then 0x90 else 0x80 : UInt8).toNat ≤ 0x80 + n / 4096 % 64 := by
      split_ifs <;> simp only [UInt8.reduceToNat] <;> omega
    have greatest :
        0x80 + n / 4096 % 64 ≤ (if n / 262144 = 4 then 0x8F else 0xBF : UInt8).toNat := by
      split_ifs <;> simp only [UInt8.reduceToNat] <;> omega
    rw [if_neg one, if_neg two, if_neg three, Transducer.run_cons, step,
      start_four (n / 262144) (by omega), Transducer.run_cons, step_inner least greatest,
      Transducer.run_cons, step_inner (by simp) (by simp; omega), Transducer.run_cons,
      step_last (by simp) (by simp; omega), bits]
    rfl

theorem announced_lead :
    (∀ n < 0x80, announced (.ofNat n) = 0) ∧ (∀ x < 0x20, announced (.ofNat (0xC0 + x)) = 1) ∧
      (∀ x < 0x10, announced (.ofNat (0xE0 + x)) = 2) ∧
      ∀ x < 5, announced (.ofNat (0xF0 + x)) = 3 := by decide

theorem isContinuation_tail (n : Nat) : isContinuation (.ofNat (0x80 + n % 64)) = true := by
  have number := toNat_tail n
  generalize UInt8.ofNat (0x80 + n % 64) = b at number
  simp only [isContinuation, UInt8.le_iff_toNat_le, UInt8.lt_iff_toNat_lt, number]
  simp
  omega

/-- The first byte of a character announces the others, and they go on with it. -/
theorem encodeChar_announced (c : Char) : ∃ lead tail, encodeChar c = lead :: tail ∧
    announced lead = tail.length ∧ ∀ b ∈ tail, isContinuation b = true := by
  have valid : c.toNat.isValidChar := c.valid
  obtain ⟨leadOne, leadTwo, leadThree, leadFour⟩ := announced_lead
  unfold encodeChar
  generalize c.toNat = n at valid ⊢
  simp only [Nat.isValidChar] at valid
  by_cases one : n < 0x80
  · exact ⟨_, _, if_pos one, leadOne n one, by simp⟩
  by_cases two : n < 0x800
  · exact ⟨_, _, by rw [if_neg one, if_pos two], leadTwo (n / 64) (by omega),
      by simp only [List.forall_mem_cons, isContinuation_tail]; simp⟩
  by_cases three : n < 0x10000
  · exact ⟨_, _, by rw [if_neg one, if_neg two, if_pos three], leadThree (n / 4096) (by omega),
      by simp only [List.forall_mem_cons, isContinuation_tail]; simp⟩
  · exact ⟨_, _, by rw [if_neg one, if_neg two, if_neg three], leadFour (n / 262144) (by omega),
      by simp only [List.forall_mem_cons, isContinuation_tail]; simp⟩

namespace Feed

/-- The announced bytes complete what is held back. -/
theorem take_tail (held : Bytes) {tail : Bytes} (full : tail ≠ [])
    (goesOn : ∀ b ∈ tail, isContinuation b = true) :
    take ⟨held, tail.length⟩ tail = ({}, decode (held ++ tail)) := by
  induction tail generalizing held with
  | nil => contradiction
  | cons b tail ih =>
    have first : isContinuation b = true := goesOn b (by simp)
    rw [take, Transducer.run_cons]
    cases tail with
    | nil => simp [step, first]
    | cons next tail =>
      have stays : step ⟨held, (b :: next :: tail).length⟩ b =
          (⟨held ++ [b], (next :: tail).length⟩, []) := by
        simp [step, first]
      have later := ih (held ++ [b]) (by simp) fun d member => goesOn d (by simp [member])
      rw [take] at later
      rw [stays, later]
      simp

theorem take_encodeChar (c : Char) : take {} (encodeChar c) = ({}, [c]) := by
  obtain ⟨lead, tail, bytes, announces, goesOn⟩ := encodeChar_announced c
  have decoded := decode_encodeChar c
  rw [bytes] at decoded ⊢
  rw [take, Transducer.run_cons]
  cases tail with
  | nil => simp [step, start, announces, decoded]
  | cons next tail =>
    have begun : step {} lead = (⟨[lead], (next :: tail).length⟩, []) := by
      simp [step, start, announces]
    have later := take_tail [lead] (by simp) goesOn
    rw [take] at later
    rw [begun, later, List.singleton_append, decoded]
    rfl

/-- UTF-8 gives back the text that was written, and holds nothing back. -/
theorem take_encode (t : Text) : take {} (encode t) = ({}, t) := by
  induction t with
  | nil => rfl
  | cons c t ih =>
    have whole : encode (c :: t) = encodeChar c ++ encode t := rfl
    rw [whole, take_append, take_encodeChar, ih]
    rfl

end Feed
end MatchedLines.Utf8

namespace MatchedLines.Source

open Lines Utf8

/-- The pieces of a byte stream give the text of all its bytes. -/
theorem flatten_decodeChunks (f : Feed) (pieces : List Bytes) :
    (decodeChunks f (pieces.map .bytes)).flatten = (f.take pieces.flatten).2 := by
  induction pieces generalizing f with
  | nil => rfl
  | cons piece pieces ih =>
    rw [List.map_cons, decodeChunks, List.flatten_cons, ih, List.flatten_cons, Feed.take_append]

/-- A piece without text of its own ends inside a character, and what comes next is the rest of
that character and no LF. -/
theorem intact_decodeChunks {f : Feed} {pieces : List Bytes} (waiting : f.Waiting)
    (full : ∀ piece ∈ pieces, piece ≠ []) (afterReturn : Bool) :
    Intact afterReturn (decodeChunks f (pieces.map .bytes)) := by
  induction pieces generalizing f afterReturn with
  | nil => trivial
  | cons piece pieces ih =>
    have waitingNext := Feed.take_waiting waiting piece
    refine
      ⟨fun silent _ => ?_, ih waitingNext (fun other member => full other (by simp [member])) _⟩
    rw [flatten_decodeChunks]
    exact Feed.take_head waitingNext (Feed.take_silent (full piece (by simp)) silent) _

/-- The lines of a byte stream are those of its text, wherever the stream was cut. -/
theorem readLines_bytes {pieces : List Bytes} (full : ∀ piece ∈ pieces, piece ≠ []) :
    readLines ⟨pieces.map .bytes, none⟩ = .ok (ofText (Feed.take {} pieces.flatten).2) := by
  have idle : Feed.Waiting {} := fun missing => absurd rfl missing
  rw [readLines, ofPieces_eq (intact_decodeChunks idle full false), flatten_decodeChunks]

/-- Text passes the decoder by. -/
theorem decodeChunks_text (f : Feed) (pieces : List Text) :
    decodeChunks f (pieces.map .text) = pieces := by
  induction pieces with
  | nil => rfl
  | cons piece pieces ih => rw [List.map_cons, decodeChunks, ih]

/-- A stream of texts may be cut anywhere as well. -/
theorem readLines_text {pieces : List Text} (full : ∀ piece ∈ pieces, piece ≠ []) :
    readLines ⟨pieces.map .text, none⟩ = .ok (ofText pieces.flatten) := by
  rw [readLines, decodeChunks_text, ofPieces_eq (intact_of_ne_nil full false)]

end MatchedLines.Source
