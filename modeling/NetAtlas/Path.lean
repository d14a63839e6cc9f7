import NetAtlas.Text.Blank

/-!
Paths as texts: names between slashes, in a normal form without empty names and without dots that
stand for the same directory. Two dots stay where they are.
-/

namespace NetAtlas.Path

/-- The slashes at the front. Just two of them are told from one. -/
def root (cs : List Char) : List Char :=
  match cs with
  | '/' :: '/' :: '/' :: _ => ['/']
  | '/' :: '/' :: _ => ['/', '/']
  | '/' :: _ => ['/']
  | _ => []

/-- The names of a path, in order. -/
def names (cs : List Char) : List (List Char) :=
  (Text.splitOn '/' cs).filter fun name => name != [] && name != ['.']

def ofNames (root : List Char) (names : List (List Char)) : String :=
  let text := root ++ ['/'].intercalate names
  if text.isEmpty then "." else String.ofList text

/-- The normal form; the empty path is the directory itself. -/
def normal (path : String) : String := ofNames (root path.toList) (names path.toList)

def isAbsolute (path : String) : Bool := path.toList.head? = some '/'

/-- A path as seen from a directory. An absolute one stays as it is. -/
def join (directory path : String) : String :=
  if isAbsolute path then normal path else normal (directory ++ "/" ++ path)

/-- The directory that a path is in. -/
def parent (path : String) : String := ofNames (root path.toList) (names path.toList).dropLast

/-- The last name. -/
def fileName (path : String) : String := String.ofList ((names path.toList).getLastD [])

/-- The end of the last name from its last dot on, if there are characters on both sides of it. -/
def suffix (path : String) : String :=
  let name := (names path.toList).getLastD []
  let ending := name.reverse.takeWhile (· ≠ '.')
  if ending.isEmpty || decide (name.length ≤ ending.length + 1) then ""
  else String.ofList ('.' :: ending.reverse)

/-- One more name of a path, or one less after two dots. -/
def climb (names : List (List Char)) (name : List Char) : List (List Char) :=
  if name = ['.', '.'] then names.dropLast else names ++ [name]

/-- The absolute path without two dots, as seen from an absolute directory. -/
def resolve (directory path : String) : String :=
  let there := names (join directory path).toList
  ofNames ['/'] (there.foldl climb [])

/-- The format that the last name of a path announces: what follows its last dot, dots at its front
not counting. -/
def format (path : String) : String :=
  let name := ((names path.toList).getLastD []).dropWhile (· = '.')
  if name.contains '.' then String.ofList (name.reverse.takeWhile (· ≠ '.')).reverse else ""

end NetAtlas.Path
