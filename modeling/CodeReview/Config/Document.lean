import CodeReview.Config.Environment
import CodeReview.Files.Tree

/-!
Settings from a TOML document, and the settings a program starts with.
-/

namespace CodeReview

namespace Toml

open Json (Scan)

mutual

/-- The value as decoders see it; a date is of no type that is ever wanted. -/
def scan : Toml → Scan
  | .text s => .text s
  | .integer n => .integer n
  | .real => .double (.ofNat 0)
  | .flag b => .bool b
  | .moment => .flawed
  | .list items => .list (scanItems items) none
  | .table _ members => .object (scanMembers members) none
  | .tables items => .list (scanTables items).reverse none

def scanItems : List Toml → List Scan
  | [] => []
  | item :: rest => scan item :: scanItems rest

def scanMembers : List (String × Toml) → List (String × Scan)
  | [] => []
  | (name, value) :: rest => (name, scan value) :: scanMembers rest

def scanTables : List (List (String × Toml)) → List Scan
  | [] => []
  | members :: rest => .object (scanMembers members) none :: scanTables rest

end

end Toml

namespace Settings

def ofToml (text : String) : Except Failure Settings :=
  match Toml.read? text with
  | none => .error .toml
  | some members =>
      match decode (.object (Toml.scanMembers members) none) with
      | .error _ => .error .toml
      | .ok s => do
          s.validate
          return s

def unreadable (path : String) (reason : String) : Failure :=
  .configuration ("Failed to read " ++ path ++ ": " ++ reason)

def load (files : Files) (path : String) : Except Failure Settings :=
  match files.read path.toList with
  | .error e => .error (unreadable path e.message)
  | .ok bytes =>
      match Text.ofUtf8? bytes with
      | none => .error (unreadable path "stream did not contain valid UTF-8")
      | some cs => ofToml (String.ofList cs)

def resolve (files : Files) (path : Option String) (environment : Environment) :
    Except Failure Settings := do
  let start ← match path with
    | some path => load files path
    | none => .ok {}
  let (s, result) := start.applyEnvironment environment
  result
  return s

end Settings

end CodeReview
