import CodeReview.Text.Search

/-!
Paths of files: names with slashes between them. Several slashes count as one, a slash at the end says
nothing, and a dot is dropped unless the path begins with it. Two dots are kept, because what they lead
to depends on the files.
-/

namespace CodeReview.Path

open Text

inductive Component
  | root
  /-- A dot at the beginning. -/
  | here
  /-- Two dots. -/
  | up
  | name (name : List Char)
  deriving DecidableEq, Repr

def ofPiece : List Char → Option Component
  | [] | ['.'] => none
  | ['.', '.'] => some .up
  | piece => some (.name piece)

def opening : List Char → List Component
  | '/' :: _ => [.root]
  | ['.'] | '.' :: '/' :: _ => [.here]
  | _ => []

def components (path : List Char) : List Component :=
  opening path ++ (splitAll path '/').filterMap ofPiece

def isAbsolute (path : List Char) : Bool := startsWith path ['/']

/-- The last name. A path that ends in two dots, or holds no name, has none. -/
def fileName? (path : List Char) : Option (List Char) :=
  match (components path).getLast? with
  | some (.name name) => some name
  | _ => none

section Names

/-- A name before and after its last dot. A dot at the beginning does not divide a name. -/
def divide (name : List Char) : List Char × Option (List Char) :=
  match splitLast name '.' with
  | some (c :: stem, extension) => (c :: stem, some extension)
  | _ => (name, none)

def stem (name : List Char) : List Char := (divide name).1

def extension? (name : List Char) : Option (List Char) := (divide name).2

end Names

/-- A path below another one, or the second path itself when it is absolute. -/
def join (base path : List Char) : List Char :=
  if isAbsolute path || base.isEmpty then path
  else if base.getLast? == some '/' then base ++ path
  else base ++ '/' :: path

def Component.text : Component → List Char
  | .root => ['/']
  | .here => ['.']
  | .up => ['.', '.']
  | .name text => text

def ofNames : List (List Char) → List Char
  | [] => []
  | [name] => name
  | name :: rest => name ++ '/' :: ofNames rest

end CodeReview.Path
