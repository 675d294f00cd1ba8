import MatchedLines.Text.Units
/-!
Which known names an unknown one may be a slip for. Two names are as far apart as the fewest
insertions, deletions, replacements and swaps of neighbours that lead from one to the other, where
no place is changed twice. Only the names at the least distance are offered, and none that is too
far away for its length.
-/

namespace MatchedLines.Similar

/-- One row of the table of distances between the beginnings of two words. -/
structure Row where
  /-- The letter of the first word that this row adds. -/
  letter : Option Nat := none
  /-- The distances to the beginnings of the second word, the empty one first. -/
  distances : List Nat
  deriving Repr

/-- The distances of the next row from left to right. `left` is the entry just found, `corner` and
the head of `above` are the entries over it, `earlier` the row before those, shifted so that its
head is the entry a swap would start from. -/
def nextDistances (letter : Nat) (before : Option Nat) :
    (left corner : Nat) → (lastSeen : Option Nat) →
    (word above earlier : List Nat) → List Nat
  | _, _, _, [], _, _ => []
  | _, _, _, _ :: _, [], _ => []
  | left, corner, lastSeen, x :: word, up :: above, earlier =>
    let plain := min (min (up + 1) (left + 1)) (corner + if letter = x then 0 else 1)
    let (swap, earlier) : Option Nat × List Nat :=
      match lastSeen, earlier with
      | some y, d :: earlier =>
        (if some x = before ∧ y = letter then some (d + 1) else none, earlier)
      | _, earlier => (none, earlier)
    let here := (swap.map (min plain)).getD plain
    here :: nextDistances letter before here up (some x) word above earlier

/-- The row for one more letter, from the last row and the one before it. -/
def nextRow (word : List Nat) (letter : Nat) (last earlier : Row) : Row :=
  match last.distances with
  | [] => ⟨some letter, []⟩
  | corner :: above =>
    ⟨some letter, (corner + 1) ::
      nextDistances letter last.letter (corner + 1) corner none word above earlier.distances⟩

/-- The distance between two words, given by their code units. -/
def editDistance (a b : List Nat) : Nat :=
  let first : Row := ⟨none, List.range (b.length + 1)⟩
  let (last, _) := a.foldl (fun (last, earlier) letter => (nextRow b letter last earlier, last))
    (first, (⟨none, []⟩ : Row))
  last.distances.getLast?.getD 0

/-- Words whose lengths differ by more than this are not compared letter by letter. -/
def maxDistance : Nat := 3

/-- The distance used for suggestions. -/
def distance (a b : List Nat) : Nat :=
  if a.length - b.length > maxDistance ∨ b.length - a.length > maxDistance then
    max a.length b.length
  else editDistance a b

/-- Whether two words at this distance are alike: more than two fifths of the longer one stay. -/
def isClose (a b : List Nat) : Bool :=
  let longer := max a.length b.length
  distance a b ≤ maxDistance && 5 * (longer - distance a b) > 2 * longer

/-- The candidates that are alike and nearest, in alphabetical order. -/
def nearest (word : Text) (candidates : List Text) : List Text :=
  let w := Units.ofText word
  let close := candidates.filter fun c => isClose w (Units.ofText c)
  let best := (close.map fun c => distance w (Units.ofText c)).min?
  Units.sort (close.filter fun c => some (distance w (Units.ofText c)) = best)

/-- The question that follows a complaint about an unknown option, or nothing. Options of one
letter are not guessed at. -/
def suggestion (option : Text) (candidates : List Text) : Text :=
  match option with
  | '-' :: '-' :: word =>
    match (nearest word candidates).map ("--".toList ++ ·) with
    | [] => []
    | [name] => "\n(Did you mean ".toList ++ name ++ "?)".toList
    | names => "\n(Did you mean one of ".toList ++ ", ".toList.intercalate names ++ "?)".toList
  | _ => []

end MatchedLines.Similar
