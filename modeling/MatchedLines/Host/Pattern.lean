import MatchedLines.Host.Octets
/-!
Patterns of a shell: `*` stands for any string, `?` for any character, and brackets for one
character of a set. A character that was quoted, or that follows a backslash, stands for itself.
-/

namespace MatchedLines.Host

/-- A character of a word with whether it was quoted. -/
structure Glyph where
  char : Char
  quoted : Bool
  deriving DecidableEq, Repr

namespace Pattern

inductive Atom where
  | anyString
  | anyChar
  /-- One character inside, or outside, all of these ranges. -/
  | set (inside : Bool) (ranges : List (Char × Char))
  | char (c : Char)
  deriving DecidableEq, Repr

/-- The ranges of a named class such as `[:upper:]`. -/
def namedClass (name : Octets) : Option (List (Char × Char)) :=
  match String.ofList name with
  | "digit" => some [('0', '9')]
  | "upper" => some [('A', 'Z')]
  | "lower" => some [('a', 'z')]
  | "alpha" => some [('A', 'Z'), ('a', 'z')]
  | "alnum" => some [('0', '9'), ('A', 'Z'), ('a', 'z')]
  | "space" => some [('\t', '\r'), (' ', ' ')]
  | "blank" => some [('\t', '\t'), (' ', ' ')]
  | "punct" => some [('!', '/'), (':', '@'), ('[', '\x60'), ('\x7b', '~')]
  | "xdigit" => some [('0', '9'), ('A', 'F'), ('a', 'f')]
  | "cntrl" => some [('\x00', '\x1f'), ('\x7f', '\x7f')]
  | "print" => some [(' ', '~')]
  | "graph" => some [('!', '~')]
  | _ => none

/-- A class at the front of a text, after its opening bracket. -/
def takeClass : List Glyph → Option (List (Char × Char) × List Glyph)
  | ⟨':', false⟩ :: gs =>
    let name := gs.takeWhile fun g => !g.quoted && g.char.isAlpha
    match gs.drop name.length with
    | ⟨':', false⟩ :: ⟨']', false⟩ :: rest => (namedClass (name.map Glyph.char)).map (·, rest)
    | _ => none
  | _ => none

/-- The ranges up to the bracket that closes the set, and what follows it. A closing bracket that
comes `first` belongs to the set. -/
def takeRanges : Nat → Bool → List Glyph → Option (List (Char × Char) × List Glyph)
  | 0, _, _ => none
  | _ + 1, _, [] => none
  | n + 1, first, g :: rest =>
    if g = ⟨']', false⟩ && !first then some ([], rest)
    else
      match if g = ⟨'[', false⟩ then takeClass rest else none with
      | some (ranges, rest) =>
        (takeRanges n false rest).map fun (rs, rest) => (ranges ++ rs, rest)
      | none =>
        let (g, rest) : Glyph × List Glyph :=
          match g, rest with
          | ⟨'\\', false⟩, h :: rest => (h, rest)
          | g, rest => (g, rest)
        let single := (takeRanges n false rest).map fun (rs, rest) =>
          ((g.char, g.char) :: rs, rest)
        match rest with
        | ⟨'-', false⟩ :: h :: more =>
          if h = ⟨']', false⟩ then single
          else
            let (h, more) : Glyph × List Glyph :=
              match h, more with
              | ⟨'\\', false⟩, h :: more => (h, more)
              | h, more => (h, more)
            (takeRanges n false more).map fun (rs, rest) => ((g.char, h.char) :: rs, rest)
        | _ => single

/-- A set at the front of a text, after its opening bracket. -/
def takeSet (gs : List Glyph) : Option (Atom × List Glyph) :=
  let (inside, gs) : Bool × List Glyph :=
    match gs with
    | ⟨'!', false⟩ :: rest => (false, rest)
    | gs => (true, gs)
  (takeRanges (gs.length + 1) true gs).map fun (ranges, rest) => (.set inside ranges, rest)

/-- Reads a pattern; the first number bounds the steps and is the length of the text. -/
def read : Nat → List Glyph → List Atom
  | 0, _ => []
  | _ + 1, [] => []
  | n + 1, ⟨'*', false⟩ :: rest => .anyString :: read n rest
  | n + 1, ⟨'?', false⟩ :: rest => .anyChar :: read n rest
  | n + 1, ⟨'\\', false⟩ :: g :: rest => .char g.char :: read n rest
  | n + 1, ⟨'[', false⟩ :: rest =>
    match takeSet rest with
    | some (atom, rest) => atom :: read n rest
    | none => .char '[' :: read n rest
  | n + 1, g :: rest => .char g.char :: read n rest

/-- The pattern that a text spells. -/
def ofGlyphs (gs : List Glyph) : List Atom := read gs.length gs

/-- Whether the text has any character that may stand for others. -/
def isActive (gs : List Glyph) : Bool :=
  gs.any fun g => !g.quoted && (g.char = '*' || g.char = '?' || g.char = '[')

/-- The order of characters in a range; those beyond ASCII come first. -/
def rank (c : Char) : Nat := (c.toNat + 128) % 256

def Atom.admits : Atom → Char → Bool
  | anyString, _ => true
  | anyChar, _ => true
  | set inside ranges, c =>
    inside == ranges.any fun (a, b) => rank a ≤ rank c && rank c ≤ rank b
  | char a, c => a = c

/-- All ends of a text, the whole first and the empty one last. -/
def ends : Octets → List Octets
  | [] => [[]]
  | c :: o => (c :: o) :: ends o

/-- Whether a pattern covers the whole text. -/
def accepts : List Atom → Octets → Bool
  | [], o => o.isEmpty
  | [.anyString], _ => true
  | .anyString :: p, o => (ends o).any (accepts p)
  | a :: p, c :: o => a.admits c && accepts p o
  | _ :: _, [] => false

/-- Removes from the front of a text what the pattern covers: the least or the most of it. -/
def trimFront (p : List Atom) (longest : Bool) (o : Octets) : Octets :=
  let lengths := List.range (o.length + 1)
  match (if longest then lengths.reverse else lengths).find? fun n => accepts p (o.take n) with
  | some n => o.drop n
  | none => o

/-- Removes from the end of a text what the pattern covers: the least or the most of it. -/
def trimEnd (p : List Atom) (longest : Bool) (o : Octets) : Octets :=
  let lengths := List.range (o.length + 1)
  match (if longest then lengths else lengths.reverse).find? fun n => accepts p (o.drop n) with
  | some n => o.take n
  | none => o

end Pattern
end MatchedLines.Host
