import MatchedLines.Host.Octets
/-!
Paths as they are written: their last name, what stands before it, and the slashes at their end.
-/

namespace MatchedLines.Host.Paths

def isSlash (c : Char) : Bool := c = '/'

/-- A path without slashes at its end; one that has nothing else is a single slash. -/
def withoutSlashes (o : Octets) : Octets :=
  let kept := (o.reverse.dropWhile isSlash).reverse
  if kept.isEmpty && !o.isEmpty then ['/'] else kept

/-- The last name of a path. -/
def lastName (o : Octets) : Octets :=
  let kept := withoutSlashes o
  if kept = ['/'] then kept else (kept.reverse.takeWhile (!isSlash ·)).reverse

/-- A name without a part at its end, unless it is nothing else. -/
def withoutSuffix (suffix name : Octets) : Octets :=
  if suffix.isSuffixOf name && suffix.length < name.length && name ≠ ['/'] then
    name.take (name.length - suffix.length)
  else name

/-- The path that leads to where a path leads, without its last name. -/
def parentOf (o : Octets) : Octets :=
  let kept := withoutSlashes o
  let front := kept.reverse.dropWhile (!isSlash ·)
  if kept = ['/'] then kept
  else if front.isEmpty then ['.']
  else withoutSlashes front.reverse

/-- A name below a directory. -/
def join (dir name : Octets) : Octets :=
  if dir.isEmpty then name
  else if dir.getLast? = some '/' then dir ++ name.dropWhile isSlash
  else dir ++ '/' :: name

/-- A path with at most one slash at its end. -/
def trimmed (o : Octets) : Octets :=
  let slashes := (o.reverse.takeWhile isSlash).length
  if slashes > 1 then withoutSlashes o ++ (if slashes = o.length then [] else ['/']) else o

def isDots (o : Octets) : Bool := o = ['.'] || o = ['.', '.']

end MatchedLines.Host.Paths
