/-!
# File paths

Paths have their parts between slashes. A path that begins with a slash counts from the root on, a
relative one from some directory. Empty parts and single dots do not count, and two dots go back by
one part.
-/

namespace SchemaCatalog.Text

/-- The parts of a path. -/
def pathParts (path : String) : List String := (path.toList.splitOn '/').map String.ofList

/-- Whether a path counts from the root on. -/
def isRooted (path : String) : Bool := path.startsWith "/"

/-- The path from the root on of parts that stand last one first. -/
def rootedPath (parts : List String) : String := "/" ++ String.intercalate "/" parts.reverse

/-- Adds the parts of a path to those before it, which stand last one first. In a relative path two
dots stay where there is nothing to go back to. -/
def normalParts (relative : Bool) (before : List String) : List String → List String
  | [] => before
  | part :: rest =>
    if part = "" ∨ part = "." then normalParts relative before rest
    else if part = ".." then
      if relative ∧ before.all (· = "..") then normalParts relative (part :: before) rest
      else normalParts relative before.tail rest
    else normalParts relative (part :: before) rest

/-- A path without parts that do not count. -/
def normalPath (path : String) : String :=
  if isRooted path then rootedPath (normalParts false [] (pathParts path))
  else String.intercalate "/" (normalParts true [] (pathParts path)).reverse

/-- The parts, last one first, of a path that counts from a directory on. -/
def partsFrom (directory path : String) : List String :=
  let start := if isRooted path then [] else normalParts false [] (pathParts directory)
  normalParts false start (pathParts path)

end SchemaCatalog.Text
