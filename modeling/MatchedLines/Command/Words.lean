import MatchedLines.Text
/-!
How a shell reads what is pasted into it, as far as quoting and the grammar of a simple command go:
which words a text holds (`Words.read`) and which of them are assignments in front of the command
word (`Simple.ofWords`). A character that would make the shell do anything else is refused, so a
text that can be read holds nothing but words. What the command word is a name of is not modelled:
a reserved word, a builtin and an alias in its place are words like any other.
-/

namespace MatchedLines.Command

/-- A character of a word. Whether it was quoted still matters where a word may be an assignment. -/
structure Letter where
  char : Char
  quoted : Bool
  deriving DecidableEq, Repr

/-- A word, which two quotes with nothing between them may leave empty. -/
abbrev Word := List Letter

def Word.text (w : Word) : Text := w.map Letter.char

namespace Words

/-- Separates words outside quotes. -/
def isBlank (c : Char) : Bool := c = ' ' || c = '\t'

/-- Means something to a shell outside quotes. -/
def isSpecial (c : Char) : Bool := "$\x60\"*?[]~#;&|<>()\x7b\x7d!".toList.contains c

/-- Where a reader stands; what has been read of a word goes with it. -/
inductive Place where
  | between
  | inWord (w : Word)
  | inQuotes (w : Word)
  | afterBackslash (w : Word)
  deriving DecidableEq, Repr

/-- The letters of the word that has begun. -/
def Place.letters : Place → Word
  | between => []
  | inWord w | inQuotes w | afterBackslash w => w

/-- The word that ends here, if one has begun. -/
def Place.ended : Place → List Word
  | between => []
  | inWord w | inQuotes w | afterBackslash w => [w]

/-- A command of these words; no words are no command. -/
def asCommand (words : List Word) : List (List Word) := if words.isEmpty then [] else [words]

/-- Reads on from a place, with the words that the command has so far. A newline outside quotes
ends the command, and the text must not end inside quotes or after a backslash. -/
def readFrom (words : List Word) : Place → Text → Option (List (List Word))
  | .inQuotes _, [] => none
  | .afterBackslash _, [] => none
  | place, [] => some (asCommand (words ++ place.ended))
  | .inQuotes w, c :: t =>
    if c = '\'' then readFrom words (.inWord w) t
    else readFrom words (.inQuotes (w ++ [⟨c, true⟩])) t
  | .afterBackslash w, c :: t => readFrom words (.inWord (w ++ [⟨c, true⟩])) t
  | place, c :: t =>
    if c = '\n' then
      (readFrom [] .between t).map (asCommand (words ++ place.ended) ++ ·)
    else if isBlank c then readFrom (words ++ place.ended) .between t
    else if c = '\'' then readFrom words (.inQuotes place.letters) t
    else if c = '\\' then readFrom words (.afterBackslash place.letters) t
    else if isSpecial c then none
    else readFrom words (.inWord (place.letters ++ [⟨c, false⟩])) t

/-- The commands in a text, each with its words. -/
def read (t : Text) : Option (List (List Word)) := readFrom [] .between t

end Words

/-- A simple command in the shell's grammar: assignments first, then the command word and its
arguments. That a reserved word, a builtin or an alias may stand in the place of the command word
is no part of it. -/
structure Simple where
  assignments : List Word
  args : List Text
  deriving DecidableEq, Repr

namespace Simple

/-- A name that can be assigned to. -/
def isName : Text → Bool
  | [] => false
  | c :: t => (c.isAlpha || c = '_') && t.all fun c => c.isAlphanum || c = '_'

/-- Whether a word assigns to a name; the name and the equals sign must stand there unquoted. -/
def isAssignment (w : Word) : Bool :=
  match Text.cutAt? '=' (Word.text (w.takeWhile (!·.quoted))) with
  | some (name, _) => isName name
  | none => false

/-- Words are assignments up to the first that is none. -/
def ofWords (words : List Word) : Simple :=
  ⟨words.takeWhile isAssignment, (words.dropWhile isAssignment).map Word.text⟩

end Simple
end MatchedLines.Command
