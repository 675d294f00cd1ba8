import MatchedLines.Host.Regex.Reading
import MatchedLines.Host.Utility.Columns
/-!
Numbers in front of the lines of a text, which may have a head, a body and a foot.
-/

namespace MatchedLines.Host.Numbering

open Columns (linesOf standardOptions)

/-- Which lines are numbered. -/
inductive Style where
  | all
  | filled
  | none
  | matching (r : Regex)

namespace Style

/-- Reads which lines of a part of the text are numbered. -/
def ofText (part : String) (o : Octets) : Tool Style := do
  match o with
  | 'a' :: _ => pure .all
  | 't' :: _ => pure .filled
  | 'n' :: _ => pure .none
  | 'p' :: expression =>
    match Regex.read {} false expression with
    | .ok found => pure (.matching found.regex)
    | .error problem => Tool.fail 1 problem.message.toList
  | o =>
    Tool.misuse 1
      ("invalid ".toList ++ part.toList ++ " numbering style: ".toList ++ Quoting.shown o)

end Style

/-- How lines are numbered. -/
structure Layout where
  head : Style
  body : Style
  foot : Style
  width : Nat
  separator : Octets
  left : Bool
  zeros : Bool
  step : Int
  /-- How many empty lines count as one. -/
  joined : Nat

def Layout.field (l : Layout) (value : Int) : Octets :=
  let o := Octets.ofInt value
  let gap := l.width - o.length
  if l.left then o ++ List.replicate gap ' '
  else if l.zeros then
    match o with
    | '-' :: ds => '-' :: (List.replicate gap '0' ++ ds)
    | o => List.replicate gap '0' ++ o
  else List.replicate gap ' ' ++ o

/-- The part of the text that begins with a line: 1 for its foot, 2 for its body, 3 for its head. -/
def partOf? (mark line : Octets) : Option Nat :=
  [1, 2, 3].find? fun k => line = (List.replicate k mark).flatten

/-- A whole number as an option between two bounds. -/
def number (cs : List Choice) (key what : String) (default low high : Int) : Tool Int := do
  match Choice.last? cs key with
  | none => pure default
  | some o =>
    let complain (why : String) : Tool Unit :=
      Tool.fail 1 ("invalid ".toList ++ what.toList ++ ": ".toList ++ Quoting.shown o ++ why.toList)
    match Octets.int? o with
    | none =>
      complain ""
      pure 0
    | some n =>
      let isFar := n > 1073741823 || n < -1073741824
      if n < low || high < n then
        complain (if isFar then ": Value too large for defined data type"
          else ": Numerical result out of range")
      pure n

def highest : Int := 9223372036854775807

def nl (args : List Octets) : Tool Nat := do
  let grammar : Grammar :=
    { short := Grammar.letters "b:d:f:h:i:l:n:ps:v:w:"
      long := [("header-numbering", .required, "h"), ("body-numbering", .required, "b"),
        ("footer-numbering", .required, "f"), ("starting-line-number", .required, "v"),
        ("line-increment", .required, "i"), ("no-renumber", .none, "p"),
        ("join-blank-lines", .required, "l"), ("number-separator", .required, "s"),
        ("number-width", .required, "w"), ("number-format", .required, "n"),
        ("section-delimiter", .required, "d")] ++ standardOptions }
  let (cs, operands) ← grammar.parse args
  let style (key part default : String) : Tool Style :=
    Style.ofText part ((Choice.last? cs key).getD default.toList)
  let start ← number cs "v" "starting line number" 1 (-highest - 1) highest
  let layout : Octets := (Choice.last? cs "n").getD "rn".toList
  let l : Layout :=
    { head := ← style "h" "header" "n"
      body := ← style "b" "body" "t"
      foot := ← style "f" "footer" "n"
      step := ← number cs "i" "line number increment" 1 (-highest - 1) highest
      joined := (← number cs "l" "line number of blank lines" 1 1 highest).toNat
      width := (← number cs "w" "line number field width" 6 1 2147483647).toNat
      separator := (Choice.last? cs "s").getD ['\t']
      left := layout = "ln".toList
      zeros := layout = "rz".toList }
  if !(["ln", "rn", "rz"].any fun s => s.toList = layout) then
    Tool.misuse 1 ("invalid line numbering format: ".toList ++ Quoting.shown layout)
  let mark := match Choice.last? cs "d" with
    | some [c] => [c, ':']
    | some (c :: more) => c :: more
    | _ => ['\\', ':']
  let blank := List.replicate (min (l.width + l.separator.length) Machine.endless) ' '
  let mut next := start
  let mut status := 0
  let mut current := l.body
  let mut empties := 0
  for path in if operands.isEmpty then [['-']] else operands do
    match ← Tool.readOperand path with
    | .error e =>
      Tool.warnAbout (Quoting.name path) e
      status := 1
    | .ok o =>
      for line in linesOf '\n' o do
        match partOf? mark line with
        | some k =>
          current := if k = 1 then l.foot else if k = 2 then l.body else l.head
          if !Choice.has cs "p" then next := start
          Tool.print ['\n']
        | none =>
          let numbered : Bool := match current with
            | .all => !line.isEmpty || empties + 1 ≥ l.joined
            | .filled => !line.isEmpty
            | .none => false
            | .matching r => (Regex.find? { text := line.toArray } r 0).isSome
          empties := if line.isEmpty && !numbered then empties + 1 else 0
          if numbered then
            if next > highest then Tool.fail 1 "line number overflow".toList
            Tool.print (l.field next ++ l.separator ++ line ++ ['\n'])
            next := next + l.step
          else Tool.print (blank ++ line ++ ['\n'])
  pure status

end MatchedLines.Host.Numbering
