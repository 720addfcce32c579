import CodeReview.Shell.Run

/-!
A machine whose programs are scripts at known places in a tree of files. A coverage run starts whatever
program the settings name, and here a script stands in for the interpreter. Programs named without a slash
are looked for among the commands; all others must be scripts in the tree.
-/

namespace CodeReview.Shell

structure Host where
  files : Files := {}
  scripts : List (Place × List Char) := []
  /-- Directories that commands are looked for in. -/
  commandPlaces : List Place := [["bin".toList], ["usr".toList, "bin".toList]]
  /-- What the clock shows, in nanoseconds. -/
  clock : Nat := 1000000000000
  deriving Repr

namespace Host

def script? (h : Host) (place : Place) : Option (List Char) :=
  (h.scripts.find? fun s => s.1 == place).map (·.2)

def command? (h : Host) (name : List Char) : Option (List Char) :=
  h.commandPlaces.findSome? fun place => h.script? (place ++ [name])

/-- The script of a program. A relative path starts where the program is started. -/
def program? (h : Host) (program : List Char) (launched : Files) : FileResult (List Char) := do
  Files.checkPath program
  if !program.contains '/' then
    match h.command? program with
    | some script => return script
    | none => .error .notFound
  let files := if Path.isAbsolute program then h.files else launched
  match ← files.find program with
  | (place, .file _) =>
      match h.script? place with
      | some script => return script
      | none => .error .accessDenied
  | _ => .error .accessDenied

def install (h : Host) (place : Place) (script : String) : Host :=
  { h with
    files := h.files.put place (.file (Text.utf8 script.toList))
    scripts := (place, script.toList) :: h.scripts }

/-- Does nothing but start the scripts of the tree. -/
def machine (h : Host) : Machine where
  start program limit launch := do
    let script ← h.program? program.toList launch.files
    return runScript script limit launch
  clock := h.clock

/-- A host with the two commands that only succeed and fail, and directories that every host has. -/
def plain : Host :=
  let directories : List Place :=
    [["bin".toList], ["dev".toList], ["etc".toList], ["tmp".toList], ["usr".toList],
      ["usr".toList, "bin".toList]]
  let files : List (Place × Entry) :=
    [(["etc".toList, "hostname".toList], .file (Text.utf8 "host\n".toList)),
      (["dev".toList, "null".toList], .file [])]
  let bare : Host := { files := { entries := directories.map (fun p => (p, .directory)) ++ files } }
  bare.commandPlaces.foldl (fun h place =>
    (h.install (place ++ ["true".toList]) "exit 0").install (place ++ ["false".toList]) "exit 1") bare

end Host

end CodeReview.Shell
