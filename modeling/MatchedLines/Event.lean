import MatchedLines.Text
/-!
What a run does to the outside, in order: it writes to its two output streams and makes calls.
`Event.joined` is what an onlooker can tell apart, who sees where a text ends only when something
else happens.
-/

namespace MatchedLines

/-- The two output streams. -/
inductive Stream where
  | stdout
  | stderr
  deriving DecidableEq, Repr

/-- One visible step, where `ι` is the kind of call that can be made. -/
inductive Event (ι : Type) where
  | write (stream : Stream) (text : Text)
  | call (what : ι)
  deriving DecidableEq, Repr

namespace Event

variable {ι : Type}

/-- Writes a line with its end. -/
def line (stream : Stream) (text : Text) : Event ι := .write stream (text ++ ['\n'])

/-- Whether the step writes something. -/
def isWrite : Event ι → Bool
  | write _ _ => true
  | call _ => false

/-- The call of the step, if it is one. -/
def call? : Event ι → Option ι
  | write _ _ => none
  | call what => some what

/-- The calls made, in order. -/
def calls (events : List (Event ι)) : List ι := events.filterMap call?

theorem calls_append (front back : List (Event ι)) :
    calls (front ++ back) = calls front ++ calls back :=
  List.filterMap_append

theorem calls_of_isWrite {events : List (Event ι)} (writes : ∀ e ∈ events, e.isWrite = true) :
    calls events = [] := by
  rw [calls, List.filterMap_eq_nil_iff]
  intro e member
  cases e with
  | write => rfl
  | call => simpa [isWrite] using writes _ member

/-- All that is written to one stream. -/
def writtenTo (stream : Stream) : List (Event ι) → Text
  | [] => []
  | .write s text :: rest => (if s = stream then text else []) ++ writtenTo stream rest
  | .call _ :: rest => writtenTo stream rest

theorem writtenTo_append (stream : Stream) (front back : List (Event ι)) :
    writtenTo stream (front ++ back) = writtenTo stream front ++ writtenTo stream back := by
  induction front with
  | nil => rfl
  | cons e front ih => cases e <;> simp [writtenTo, ih]

/-- A line is never empty, since its end is part of it. -/
theorem writtenTo_line (stream : Stream) (text : Text) (rest : List (Event ι)) :
    writtenTo stream (.line stream text :: rest) ≠ [] := by
  simp [line, writtenTo]

/-- What is written line by line. -/
theorem writtenTo_map_line (stream : Stream) (texts : List Text) :
    writtenTo stream (texts.map (line stream) : List (Event ι)) = texts.flatMap (· ++ ['\n']) := by
  induction texts with
  | nil => rfl
  | cons text texts ih => simp [line, writtenTo, ih]

/-- Joins neighbouring writes to one stream and leaves out empty ones. -/
def joined : List (Event ι) → List (Event ι)
  | [] => []
  | .call what :: rest => .call what :: joined rest
  | .write stream text :: rest =>
    if text.isEmpty then joined rest
    else match joined rest with
      | .write stream' text' :: rest' =>
        if stream = stream' then .write stream (text ++ text') :: rest'
        else .write stream text :: .write stream' text' :: rest'
      | rest' => .write stream text :: rest'

end Event
end MatchedLines
