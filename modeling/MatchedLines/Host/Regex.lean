import MatchedLines.Host.Octets
/-!
Regular expressions and what they match: of all matches the one that begins first, and of those the
longest. What a group has matched is settled by the order of choices, where more repetitions and
earlier alternatives come first.
-/

namespace MatchedLines.Host

/-- A set of characters. -/
structure Letters where
  ranges : List (Char × Char) := []
  /-- The characters that are not in the ranges. -/
  others : Bool := false
  deriving DecidableEq, Repr

namespace Letters

def only (c : Char) : Letters := { ranges := [(c, c)] }

def all : Letters := { others := true }

/-- The characters that words are made of. -/
def wordRanges : List (Char × Char) := [('0', '9'), ('A', 'Z'), ('_', '_'), ('a', 'z')]

def spaceRanges : List (Char × Char) := [('\t', '\r'), (' ', ' ')]

def isIn (ranges : List (Char × Char)) (c : Char) : Bool := ranges.any fun (a, b) => a ≤ c && c ≤ b

/-- Whether a character belongs to a set, in either case if `caseless`. -/
def has (s : Letters) (caseless : Bool) (c : Char) : Bool :=
  s.others != (isIn s.ranges c
    || (caseless && (isIn s.ranges c.toLower || isIn s.ranges c.toUpper)))

end Letters

/-- A condition on a place between characters. -/
inductive Edge where
  | lineStart
  | lineEnd
  | textStart
  | textEnd
  | wordStart
  | wordEnd
  | wordEdge
  | noWordEdge
  deriving DecidableEq, Repr

inductive Regex where
  | empty
  | one (s : Letters)
  | edge (e : Edge)
  | seq (a b : Regex)
  | alt (a b : Regex)
  /-- At least `low` times and, where it is given, at most `high` times. -/
  | times (low : Nat) (high : Option Nat) (r : Regex)
  | group (index : Nat) (r : Regex)
  /-- What a group has matched. -/
  | back (index : Nat)
  deriving Repr

namespace Regex

/-- The text in which matches are looked for. -/
structure Scene where
  text : Array Char
  caseless : Bool := false
  /-- Lines within the text begin and end too. -/
  byLine : Bool := false
  /-- Later parts of the regular expression look at what groups have matched. -/
  looksBack : Bool := false

/-- Where groups have matched, the latest first. -/
abbrev Spans := List (Nat × Nat × Nat)

/-- A place that a match can end at. -/
abbrev Stop := Nat × Spans

namespace Scene

def isWordAt (s : Scene) (p : Nat) : Bool :=
  match s.text[p]? with
  | some c => Letters.isIn Letters.wordRanges c
  | none => false

def isWordBefore (s : Scene) (p : Nat) : Bool := p > 0 && s.isWordAt (p - 1)

def isLineFeed (s : Scene) (p : Nat) : Bool := s.byLine && s.text[p]? = some '\n'

def holds (s : Scene) (p : Nat) : Edge → Bool
  | .lineStart => p = 0 || s.isLineFeed (p - 1)
  | .lineEnd => p = s.text.size || s.isLineFeed p
  | .textStart => p = 0
  | .textEnd => p = s.text.size
  | .wordStart => !s.isWordBefore p && s.isWordAt p
  | .wordEnd => s.isWordBefore p && !s.isWordAt p
  | .wordEdge => s.isWordBefore p != s.isWordAt p
  | .noWordEdge => s.isWordBefore p == s.isWordAt p

def admits (s : Scene) (set : Letters) (p : Nat) : Bool :=
  match s.text[p]? with
  | some c => set.has s.caseless c && !(s.byLine && set.others && c = '\n')
  | none => false

/-- How many characters in a row belong to a set, up to a limit. -/
def run (s : Scene) (set : Letters) : Nat → Nat → Nat
  | 0, _ => 0
  | n + 1, p => if s.admits set p then run s set n (p + 1) + 1 else 0

/-- Keeps the first of several ways to the same place. -/
def distinct (s : Scene) : List Stop → List Stop
  | [] => []
  | [x] => [x]
  | xs =>
    if s.looksBack then xs
    else
      let step (seen : Array Bool × List Stop) (x : Stop) : Array Bool × List Stop :=
        if seen.1[x.1]?.getD false then seen
        else (seen.1.setIfInBounds x.1 true, x :: seen.2)
      (xs.foldl step (Array.replicate (s.text.size + 1) false, [])).2.reverse

/-- Whether two stretches of the text spell the same. -/
def same (s : Scene) (p q : Nat) : Nat → Bool
  | 0 => true
  | n + 1 =>
    match s.text[p]?, s.text[q]? with
    | some a, some b =>
      (a = b || (s.caseless && a.toLower = b.toLower)) && same s (p + 1) (q + 1) n
    | _, _ => false

end Scene

/-- Repeats a step as often as it leads on; `n` is how far it may still lead. The array says which
places need no second look. -/
def closure (looksBack : Bool) (step : Stop → List Stop) :
    Nat → Stop → Array Bool × List Stop → Array Bool × List Stop
  | 0, x, (seen, found) => (seen, x :: found)
  | n + 1, x, (seen, found) =>
    if seen[x.1]?.getD false && !looksBack then (seen, found)
    else
      let seen := seen.setIfInBounds x.1 true
      let (seen, found) := ((step x).filter fun y => y.1 > x.1).foldl
        (fun acc y => closure looksBack step n y acc) (seen, found)
      (seen, x :: found)

/-- Repeats a step a number of times. -/
def exactly (s : Scene) (step : Stop → List Stop) : Nat → List Stop → List Stop
  | 0, xs => xs
  | n + 1, xs => exactly s step n (s.distinct (xs.flatMap step))

/-- Repeats a step at most a number of times. -/
def atMost (s : Scene) (step : Stop → List Stop) : Nat → Stop → List Stop
  | 0, x => [x]
  | n + 1, x =>
    s.distinct (((step x).filter fun y => y.1 > x.1).flatMap (atMost s step n) ++ [x])

/-- The places between two, the last one first. -/
def downFrom (p : Nat) : Nat → List Nat
  | 0 => [p]
  | n + 1 => (p + n + 1) :: downFrom p n

/-- Where matches that begin at a place can end, the preferred one first. -/
def stops (s : Scene) : Regex → Stop → List Stop
  | empty, x => [x]
  | one set, (p, spans) => if s.admits set p then [(p + 1, spans)] else []
  | edge e, (p, spans) => if s.holds p e then [(p, spans)] else []
  | seq a b, x => s.distinct ((stops s a x).flatMap (stops s b))
  | alt a b, x => s.distinct (stops s a x ++ stops s b x)
  | group i r, (p, spans) => (stops s r (p, spans)).map fun (q, spans) => (q, (i, p, q) :: spans)
  | back i, (p, spans) =>
    match spans.lookup i with
    | some (a, b) => if s.same a p (b - a) then [(p + (b - a), spans)] else []
    | none => []
  | times low high r, (p, spans) =>
    match r with
    | one set =>
      let limit := min (high.getD s.text.size) (s.text.size - p)
      let count := s.run set limit p
      if count < low then [] else (downFrom (p + low) (count - low)).map fun q => (q, spans)
    | r =>
      let step := stops s r
      let starts := exactly s step low [(p, spans)]
      match high with
      | some high => s.distinct (starts.flatMap (atMost s step (high - low)))
      | none =>
        let all := starts.foldl
          (fun acc x => closure s.looksBack step (s.text.size + 1) x acc)
          (Array.replicate (s.text.size + 1) false, [])
        all.2.reverse

/-- A place where something was found. -/
structure Found where
  start : Nat
  stop : Nat
  spans : Spans := []

namespace Found

/-- What a group has matched; the whole match is group zero. -/
def part? (m : Found) (index : Nat) : Option (Nat × Nat) :=
  if index = 0 then some (m.start, m.stop) else m.spans.lookup index

def length (m : Found) : Nat := m.stop - m.start

end Found

/-- The longest of several ways; of two as long as each other the first. -/
def longest : List Stop → Option Stop
  | [] => none
  | x :: xs => some (xs.foldl (fun best y => if y.1 > best.1 then y else best) x)

/-- The longest match that begins at a place. -/
def foundAt (s : Scene) (r : Regex) (p : Nat) : Option Found :=
  (longest (stops s r (p, []))).map fun (q, spans) => ⟨p, q, spans⟩

/-- The first match from a place on; the number counts the places that are left. -/
def search (s : Scene) (r : Regex) : Nat → Nat → Option Found
  | 0, _ => none
  | n + 1, p =>
    match foundAt s r p with
    | some m => some m
    | none => search s r n (p + 1)

/-- The first match that begins at a place or later. -/
def find? (s : Scene) (r : Regex) (p : Nat) : Option Found := search s r (s.text.size + 1 - p) p

/-- Whether the expression refers to a group. -/
def looksBack : Regex → Bool
  | back _ => true
  | seq a b | alt a b => looksBack a || looksBack b
  | times _ _ r | group _ r => looksBack r
  | _ => false

/-- An expression for a text itself. -/
def literal (o : Octets) : Regex := o.foldr (fun c r => .seq (.one (.only c)) r) .empty

end Regex
end MatchedLines.Host
