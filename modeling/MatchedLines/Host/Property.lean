import MatchedLines.Host.Files
/-!
What can be asked about a file with one letter.
-/

namespace MatchedLines.Host.Property

/-- Whether a node has the property of a letter. Nothing if the letter stands for none. -/
def holds? (letter : Char) (f : Files) (n : Nat) : Option Bool :=
  match f.node? n with
  | none => none
  | some node =>
    let bit (b : Nat) : Bool := node.mode / b % 2 = 1
    match letter with
    | 'r' => some (f.allows n .read)
    | 'w' => some (f.allows n .write)
    | 'x' => some (f.allows n .execute)
    | 'e' => some true
    | 'f' => some <| match node.body with
      | .file _ | .program _ => true
      | _ => false
    | 'd' => some (f.isDirectory n)
    | 'c' => some <| match node.body with
      | .device _ => true
      | _ => false
    | 'S' => some <| match node.body with
      | .descriptor _ => true
      | _ => false
    | 'h' | 'L' => some <| match node.body with
      | .link _ => true
      | _ => false
    | 's' => some <| match node.body with
      | .program _ => true
      | _ => f.size n > 0
    | 'u' => some (bit 0o4000)
    | 'g' => some (bit 0o2000)
    | 'k' => some (bit 0o1000)
    | 'O' | 'G' => some node.own
    | 'b' | 'p' => some false
    | _ => none

/-- Whether a link is asked about itself. -/
def isAboutLink (letter : Char) : Bool := letter = 'h' || letter = 'L'

/-- The same for the file that a path leads to; one that is not there has no property. -/
def holdsAt? (letter : Char) (f : Files) (cwd : Nat) (path : Octets) : Option Bool :=
  match f.resolve cwd path (!isAboutLink letter) with
  | .ok n => holds? letter f n
  | .error _ => (holds? letter f 0).map fun _ => false

end MatchedLines.Host.Property
