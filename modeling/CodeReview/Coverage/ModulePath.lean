import CodeReview.Files.Path

/-!
The place of a module inside a workspace. Only relative paths that never go up name a module, so the file
of a module and that of its tests always lie below the workspace.
-/

namespace CodeReview

open CodeReview.Path

structure ModulePath where
  /-- The directories, outermost first. -/
  parents : List (List Char)
  fileName : List Char
  deriving DecidableEq, Repr

inductive PathRefusal
  | goesUp
  | absolute
  | empty
  deriving DecidableEq, Repr

namespace PathRefusal

def reason : PathRefusal → String
  | .goesUp => "parent directory components are not allowed"
  | .absolute => "path must be relative"
  | .empty => "path is empty"

def message (r : PathRefusal) (path : String) : String :=
  "Invalid module path '" ++ path ++ "': " ++ r.reason

end PathRefusal

namespace ModulePath

/-- The names of a path, unless it leaves the directory it starts from. -/
def names : List Component → Except PathRefusal (List (List Char))
  | [] => .ok []
  | .here :: rest => names rest
  | .up :: _ => .error .goesUp
  | .root :: _ => .error .absolute
  | .name name :: rest => do
      let others ← names rest
      return name :: others

def parse (path : List Char) : Except PathRefusal ModulePath := do
  let found ← names (components path)
  match found.getLast? with
  | none => .error .empty
  | some fileName => .ok { parents := found.dropLast, fileName }

def stem (m : ModulePath) : List Char := Path.stem m.fileName

def relative (m : ModulePath) : List (List Char) := m.parents ++ [m.fileName]

def dotted (m : ModulePath) : List Char := ['.'].intercalate (m.parents ++ [m.stem])

def testFile (m : ModulePath) : List (List Char) :=
  ["tests".toList, "test_".toList ++ m.stem ++ ".py".toList]

end ModulePath

end CodeReview
