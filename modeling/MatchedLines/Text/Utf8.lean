import MatchedLines.Text
import MatchedLines.Transducer
/-!
UTF-8. `decode` reads a whole byte string and puts one replacement character for each maximal piece
that is ill-formed. A stream is read by `Feed.step`, which holds back the bytes of a character
until as many have come as its first byte announces, so that a stream may be cut anywhere.
-/

namespace MatchedLines.Utf8

/-- Stands for bytes that are no character. -/
def replacement : Char := '\ufffd'

/-- A character whose first bytes have been read. -/
structure Sequence where
  /-- How many bytes are still to come, at least one. -/
  missing : Nat
  /-- The least byte that may come next. -/
  low : UInt8
  /-- The greatest byte that may come next. -/
  high : UInt8
  /-- The bits read so far. -/
  bits : Nat
  deriving DecidableEq, Repr

/-- Between two bytes the decoder is inside a character or at the end of one. -/
abbrev Decoder := Option Sequence

/-- Reads a byte where a character begins. The ranges for the second byte leave out overlong
spellings, surrogates and numbers above the last character. -/
def start (b : UInt8) : Decoder × Text :=
  if b < 0x80 then (none, [Char.ofNat b.toNat])
  else if b < 0xC2 then (none, [replacement])
  else if b < 0xE0 then (some ⟨1, 0x80, 0xBF, b.toNat - 0xC0⟩, [])
  else if b = 0xE0 then (some ⟨2, 0xA0, 0xBF, 0⟩, [])
  else if b = 0xED then (some ⟨2, 0x80, 0x9F, 0xD⟩, [])
  else if b < 0xF0 then (some ⟨2, 0x80, 0xBF, b.toNat - 0xE0⟩, [])
  else if b = 0xF0 then (some ⟨3, 0x90, 0xBF, 0⟩, [])
  else if b < 0xF4 then (some ⟨3, 0x80, 0xBF, b.toNat - 0xF0⟩, [])
  else if b = 0xF4 then (some ⟨3, 0x80, 0x8F, 4⟩, [])
  else (none, [replacement])

/-- Reads one byte. A byte that cannot continue the character ends it as ill-formed and is read
again where a character begins. -/
def step : Decoder → UInt8 → Decoder × Text
  | none, b => start b
  | some s, b =>
    if s.low ≤ b ∧ b ≤ s.high then
      let bits := s.bits * 64 + (b.toNat - 0x80)
      if s.missing ≤ 1 then (none, [Char.ofNat bits])
      else (some ⟨s.missing - 1, 0x80, 0xBF, bits⟩, [])
    else
      let (next, out) := start b
      (next, replacement :: out)

/-- The text of a whole byte string. An unfinished character at its end is ill-formed like any
other. -/
def decode (bytes : Bytes) : Text :=
  match Transducer.run step none bytes with
  | (none, t) => t
  | (some _, t) => t ++ [replacement]

/-! ### Streams -/

/-- How many more bytes a first byte announces, whether or not a character can begin with it. -/
def announced (b : UInt8) : Nat :=
  if b < 0xC0 then 0 else if b < 0xE0 then 1 else if b < 0xF0 then 2 else if b < 0xF8 then 3 else 0

/-- The bytes that go on with a character. -/
def isContinuation (b : UInt8) : Bool := 0x80 ≤ b && b < 0xC0

/-- The bytes held back between two pieces of a stream, and how many of the announced ones have
still to come. At the end of the stream they are given up. -/
structure Feed where
  held : Bytes := []
  missing : Nat := 0
  deriving DecidableEq, Repr

namespace Feed

/-- Takes a byte when none is held back. -/
def start (b : UInt8) : Feed × Text :=
  if announced b = 0 then ({}, decode [b]) else (⟨[b], announced b⟩, [])

/-- Takes one byte. A byte that does not go on with the character cuts it short. -/
def step (f : Feed) (b : UInt8) : Feed × Text :=
  if f.missing = 0 then start b
  else if isContinuation b then
    if f.missing = 1 then ({}, decode (f.held ++ [b])) else (⟨f.held ++ [b], f.missing - 1⟩, [])
  else ((start b).1, decode f.held ++ (start b).2)

/-- Takes a piece of the stream: the bytes then held back, and the text that the piece completes. -/
def take (f : Feed) (piece : Bytes) : Feed × Text := Transducer.run step f piece

end Feed

/-! ### Writing -/

/-- The bytes of one character. -/
def encodeChar (c : Char) : Bytes :=
  let n := c.toNat
  let tail (shift : Nat) : UInt8 := .ofNat (0x80 + n / shift % 64)
  if n < 0x80 then [.ofNat n]
  else if n < 0x800 then [.ofNat (0xC0 + n / 64), tail 1]
  else if n < 0x10000 then [.ofNat (0xE0 + n / 4096), tail 64, tail 1]
  else [.ofNat (0xF0 + n / 262144), tail 4096, tail 64, tail 1]

/-- The bytes of a text. -/
def encode (t : Text) : Bytes := t.flatMap encodeChar

end MatchedLines.Utf8
