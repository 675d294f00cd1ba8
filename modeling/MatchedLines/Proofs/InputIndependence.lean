import MatchedLines.Proofs.RunPlan
import MatchedLines.Proofs.Utf8Streams

/-! What a run takes from its input. It sees the lines of the text that the stream holds and not
the chunks in which it came, and of the lines it sees which files they name, in what order these
first appear, and which numbers each of them is given. -/
namespace MatchedLines

namespace Source

open Lines

/-- What a stream holds, before it is cut into chunks. -/
inductive Content where
  | bytes (all : Bytes)
  | text (all : Text)
  deriving DecidableEq, Repr

namespace Content

/-- The chunks are pieces of the content, cut anywhere, none of them empty. -/
def CutInto : Content → List Chunk → Prop
  | bytes all, chunks =>
    ∃ pieces : List Bytes, chunks = pieces.map .bytes ∧ (∀ piece ∈ pieces, piece ≠ []) ∧
      pieces.flatten = all
  | text all, chunks =>
    ∃ pieces : List Text, chunks = pieces.map .text ∧ (∀ piece ∈ pieces, piece ≠ []) ∧
      pieces.flatten = all

/-- Contents that say the same: one content twice, or a text and its bytes in UTF-8. -/
inductive SaysSame : Content → Content → Prop
  | refl (content : Content) : SaysSame content content
  | encoded (t : Text) : SaysSame (bytes (Utf8.encode t)) (text t)

/-- The text that is read. Bytes that are no character show in it, and an unfinished character at
the end does not. -/
def read : Content → Text
  | bytes all => (Utf8.Feed.take {} all).2
  | text all => all

theorem SaysSame.read_eq {first second : Content} (same : first.SaysSame second) :
    first.read = second.read := by
  cases same with
  | refl => rfl
  | encoded t =>
    change (Utf8.Feed.take {} (Utf8.encode t)).2 = t
    rw [Utf8.Feed.take_encode]

/-- The lines of a stream are those of the text that is read from it as a whole. -/
theorem CutInto.readLines_eq {content : Content} {chunks : List Chunk}
    (cut : content.CutInto chunks) : readLines ⟨chunks, none⟩ = .ok (ofText content.read) := by
  cases content with
  | bytes all =>
    obtain ⟨pieces, rfl, full, rfl⟩ := cut
    exact readLines_bytes full
  | text all =>
    obtain ⟨pieces, rfl, full, rfl⟩ := cut
    exact readLines_text full

end Content
end Source

namespace Run

open Source

variable {σ : Type}

/-- All that a run knows of a stream is its lines or its failure. -/
theorem run_congr {first second : Source} (same : first.readLines = second.readLines)
    (coloured : Bool) (o : Options) (runner : Runner Invocation σ) (s : σ) :
    run coloured o runner first s = run coloured o runner second s := by
  simp only [run, same]

/-- **Where a stream is cut makes no difference.** Two streams that hold the same bytes, or the
same text, or a text and its bytes, have the same lines, and every run on one of them is the run on
the other, whatever the bytes are and also if both streams fail in the end. -/
theorem run_of_cuts {content other : Content} {first second : List Chunk}
    (same : content.SaysSame other) (cutFirst : content.CutInto first)
    (cutSecond : other.CutInto second) :
    (∃ lines, readLines ⟨first, none⟩ = .ok lines ∧ readLines ⟨second, none⟩ = .ok lines) ∧
      ∀ (failure : Option Failure) (σ : Type) (coloured : Bool) (o : Options)
        (runner : Runner Invocation σ) (s : σ),
        run coloured o runner ⟨first, failure⟩ s = run coloured o runner ⟨second, failure⟩ s := by
  have firstLines := cutFirst.readLines_eq
  have secondLines := cutSecond.readLines_eq
  rw [← same.read_eq] at secondLines
  refine ⟨⟨_, firstLines, secondLines⟩, fun failure σ coloured o runner s => run_congr ?_ ..⟩
  cases failure with
  | some f => rfl
  | none => rw [firstLines, secondLines]

/-- A CRLF, an ill-formed byte between a CR and an LF, and a character that never ends. -/
def brokenBytes : Bytes :=
  [0x61, 0x2E, 0x63, 0x3A, 0x31, 0x3A, 0x0D, 0x0A, 0x62, 0x0D, 0xE6, 0x0A, 0xF0, 0x9F]

/-- They are cut inside the CRLF and around the byte that is no character. -/
theorem run_of_cuts_broken :
    let first : List Chunk := [.bytes brokenBytes]
    let second : List Chunk :=
      [.bytes [0x61, 0x2E, 0x63, 0x3A, 0x31, 0x3A, 0x0D], .bytes [0x0A, 0x62, 0x0D], .bytes [0xE6],
        .bytes [0x0A, 0xF0], .bytes [0x9F]]
    (Content.bytes brokenBytes).CutInto first ∧ (Content.bytes brokenBytes).CutInto second ∧
      readLines ⟨first, none⟩ = .ok ["a.c:1:".toList, ['b'], ['\ufffd']] ∧
      readLines ⟨second, none⟩ = .ok ["a.c:1:".toList, ['b'], ['\ufffd']] ∧
      run false {} Runner.scripted ⟨first, none⟩ [] =
        run false {} Runner.scripted ⟨second, none⟩ [] := by
  intro first second
  have cutFirst : (Content.bytes brokenBytes).CutInto first :=
    ⟨[brokenBytes], rfl, by decide, rfl⟩
  have cutSecond : (Content.bytes brokenBytes).CutInto second :=
    ⟨[[0x61, 0x2E, 0x63, 0x3A, 0x31, 0x3A, 0x0D], [0x0A, 0x62, 0x0D], [0xE6], [0x0A, 0xF0],
      [0x9F]], rfl, by decide, rfl⟩
  obtain ⟨⟨lines, readFirst, readSecond⟩, runs⟩ := run_of_cuts (.refl _) cutFirst cutSecond
  have isLines : readLines ⟨first, none⟩ = .ok ["a.c:1:".toList, ['b'], ['\ufffd']] := by decide
  rw [readFirst] at isLines
  exact ⟨cutFirst, cutSecond, readFirst.trans isLines, readSecond.trans isLines,
    runs none _ _ _ _ _⟩

/-- **A run depends on its input only through the lines that are asked for in each file.** If the
files first appear in the same order in two inputs that were understood, and every file is given
the same numbers in the same order, then every run on one input is the run on the other. What was
matched, how numbers are spelled, how lines end and how the lines of different files alternate
shows in nothing. -/
theorem run_of_same_numbers {first second : Source} {linesFirst linesSecond : List Text}
    {foundFirst foundSecond : List MatchLine}
    (readFirst : first.readLines = .ok linesFirst)
    (understoodFirst : linesFirst.mapM MatchLine.parse = .ok foundFirst)
    (readSecond : second.readLines = .ok linesSecond)
    (understoodSecond : linesSecond.mapM MatchLine.parse = .ok foundSecond)
    (order : MatchLine.paths foundFirst = MatchLine.paths foundSecond)
    (numbers : ∀ path, MatchLine.linesOf path foundFirst = MatchLine.linesOf path foundSecond)
    (coloured : Bool) (o : Options) (runner : Runner Invocation σ) (s : σ) :
    run coloured o runner first s = run coloured o runner second s := by
  have request : Request.grouped foundFirst = Request.grouped foundSecond := by
    simp only [Request.grouped, order, numbers]
  rw [run_eq_perform readFirst understoodFirst, run_eq_perform readSecond understoodSecond, request]

/-- Two files that take turns, and the same requests file by file in another spelling. -/
theorem run_of_same_numbers_in_turns :
    let first : Source := ⟨[.text "a.c:1:x\nb.h:2:y\na.c:1:z\nn.md:3:w\n".toList], none⟩
    let second : Source :=
      ⟨["a.c:01::\r", "\na.c:001:q\rb.", "h:2:\r\nn.md:3:r"].map (.text ·.toList), none⟩
    let failure : Failure := .childProcess [] 7 [] "b.h: parse error\n".toList
    let x := run true { verbose := true } Runner.scripted first [.ok (), .error failure]
    x = run true { verbose := true } Runner.scripted second [.ok (), .error failure] ∧
      x.outcome = .ok 7 := by
  intro first second failure x
  have readFirst : first.readLines =
      .ok (["a.c:1:x", "b.h:2:y", "a.c:1:z", "n.md:3:w"].map String.toList) := rfl
  have understoodFirst : (["a.c:1:x", "b.h:2:y", "a.c:1:z", "n.md:3:w"].map String.toList).mapM
      MatchLine.parse = .ok [⟨"a.c".toList, 1⟩, ⟨"b.h".toList, 2⟩, ⟨"a.c".toList, 1⟩,
        ⟨"n.md".toList, 3⟩] := rfl
  have readSecond : second.readLines =
      .ok (["a.c:01::", "a.c:001:q", "b.h:2:", "n.md:3:r"].map String.toList) := rfl
  have understoodSecond : (["a.c:01::", "a.c:001:q", "b.h:2:", "n.md:3:r"].map String.toList).mapM
      MatchLine.parse = .ok [⟨"a.c".toList, 1⟩, ⟨"a.c".toList, 1⟩, ⟨"b.h".toList, 2⟩,
        ⟨"n.md".toList, 3⟩] := rfl
  refine ⟨run_of_same_numbers readFirst understoodFirst readSecond understoodSecond (by decide)
    (fun path => ?_) .., rfl⟩
  by_cases inFirst : path = "a.c".toList
  · subst inFirst
    decide
  · have elsewhere : ['a', '.', 'c'] ≠ path := Ne.symm inFirst
    simp [MatchLine.linesOf, List.filter_cons, elsewhere]

end Run
end MatchedLines
