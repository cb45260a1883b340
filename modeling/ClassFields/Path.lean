/-!
# Paths

Paths are texts with slashes between their components, and are never normalised.
-/

namespace ClassFields.Path

/-- A path as seen from a directory. An absolute path stays as it is. -/
def join (root path : String) : String :=
  if path.toList.head? == some '/' then path
  else if root.isEmpty || root.toList.getLast? == some '/' then root ++ path
  else root ++ "/" ++ path

/-- A path in reverse without the separators and the `.` components at its end. -/
def trimEnd : List Char → List Char
  | '/' :: rest => trimEnd rest
  | '.' :: '/' :: rest => trimEnd rest
  | ['.'] => []
  | rest => rest

/-- What a path starts with besides its components: the root, or the current directory. -/
def head : List Char → List Char
  | '/' :: _ => ['/']
  | ['.'] => ['.']
  | '.' :: '/' :: _ => ['.']
  | _ => []

/-- The directory that a path is in. The root is in none, and neither is the empty path. -/
def parent? (path : String) : Option String :=
  let front := head path.toList
  match trimEnd (path.toList.drop front.length).reverse with
  | [] => if front == ['.'] then some "" else none
  | body =>
    let rest := (body.dropWhile (· != '/')).drop 1
    some (String.ofList (front ++ (trimEnd rest).reverse))

end ClassFields.Path
