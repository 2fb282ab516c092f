/-!
# Paths

Texts as paths: names between slashes. Empty names and single dots inside a path mean nothing.
-/

namespace ScatterPick.Files

/-- A reversed path without the slashes and dots at its end. -/
def trimEnd : List Char → List Char
  | '/' :: rest => if rest.isEmpty then ['/'] else trimEnd rest
  | '.' :: '/' :: rest => trimEnd ('/' :: rest)
  | cs => cs
termination_by cs => cs.length

/-- The path of the directory around a path; a path without names has none. -/
def parent? (path : String) : Option String :=
  let last := trimEnd path.toList.reverse
  if last.isEmpty || last = ['/'] then none
  else some (String.ofList (trimEnd (last.dropWhile (· ≠ '/'))).reverse)

/-- The characters between slashes. -/
def splitSlashes (name : List Char) : List Char → List (List Char)
  | [] => [name.reverse]
  | '/' :: rest => name.reverse :: splitSlashes [] rest
  | c :: rest => splitSlashes (c :: name) rest

/-- The names of a path, where two dots lead back to the directory around. -/
def names (path : String) : List String :=
  (splitSlashes [] path.toList).foldl (fun names name =>
    if name.isEmpty || name = ['.'] then names
    else if name = ['.', '.'] then names.dropLast
    else names ++ [String.ofList name]) []

/-- The characters after the last dot of the last name, unless the dot starts the name. -/
def extension? (path : String) : Option (List Char) :=
  let name := (trimEnd path.toList.reverse).takeWhile (· ≠ '/')
  let back := name.takeWhile (· ≠ '.')
  let front := name.drop (back.length + 1)
  if name = ['.', '.'] || front.isEmpty then none else some back.reverse

/-- A path below another one. -/
def join (path name : String) : String :=
  if path.isEmpty || path.toList.getLast? = some '/' then path ++ name else path ++ "/" ++ name

end ScatterPick.Files
