import MatchedLines.MatchLine
/-!
An edit request: for each file the lines to format, files in the order in which they first
appear and the lines of a file in the order in which they came, repetitions kept.
-/

namespace MatchedLines

/-- A file with the lines of it that are to be formatted. -/
structure Group where
  path : Text
  lines : List Int
  deriving DecidableEq, Repr

/-- The files to format, each path once. -/
abbrev Request := List Group

namespace Request

/-- Adds a line to the file's group, which is a new last group if the file has none yet. -/
def add (path : Text) (line : Int) : Request → Request
  | [] => [⟨path, [line]⟩]
  | g :: rest =>
    if g.path = path then { g with lines := g.lines ++ [line] } :: rest
    else g :: add path line rest

/-- Gives the file exactly these lines; a file that has a group keeps its place. -/
def put (path : Text) (lines : List Int) : Request → Request
  | [] => [⟨path, lines⟩]
  | g :: rest =>
    if g.path = path then ⟨path, lines⟩ :: rest else g :: put path lines rest

/-- The request that a list of files with their lines describes; the last word on a file wins. -/
def ofGroups (groups : List Group) : Request :=
  groups.foldl (fun request g => request.put g.path g.lines) []

/-- The request that a list of matches describes. -/
def ofMatches (found : List MatchLine) : Request :=
  found.foldl (fun request m => request.add m.path m.number) []

/-- Reads every line, or stops at the first that reports no match. -/
def parse (lines : List Text) : Except Failure Request :=
  (lines.mapM MatchLine.parse).map ofMatches

end Request
end MatchedLines
