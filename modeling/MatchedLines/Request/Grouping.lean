import MatchedLines.Request
/-!
What a request holds, said of the matches as a whole and not of adding one after another: the
paths in the order in which they first appear (`paths`), and for each the numbers of its own
matches in order (`linesOf`).
-/

namespace MatchedLines

namespace MatchLine

/-- The distinct paths, each where it first appears. -/
def paths : List MatchLine → List Text
  | [] => []
  | m :: rest => m.path :: (paths rest).filter (· ≠ m.path)

/-- The line numbers found in one file, in order and with repetitions. -/
def linesOf (path : Text) (found : List MatchLine) : List Nat :=
  (found.filter (·.path = path)).map number

end MatchLine

namespace Request

/-- The files of a request. -/
def paths (request : Request) : List Text := request.map Group.path

/-- The lines asked for in one file; none if the request does not name it. -/
def linesOf (path : Text) (request : Request) : List Int :=
  ((request.find? (·.path = path)).map Group.lines).getD []

/-- The request with one group for every path that was found. -/
def grouped (found : List MatchLine) : Request :=
  (MatchLine.paths found).map fun path =>
    ⟨path, (MatchLine.linesOf path found).map Int.ofNat⟩

end Request
end MatchedLines
