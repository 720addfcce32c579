import CodeReview.Files.Path
import CodeReview.Text.Utf8

/-!
A tree of files: directories, files and symbolic links at places counted from the root, and the place
where relative paths start. Looking a path up follows links; each change is one step that either happens
as a whole or leaves an error and no change.

Permissions, times and devices are not modelled. The parent of the root is the root.
-/

namespace CodeReview

open CodeReview.Path (Component)

abbrev Place := List (List Char)

inductive Entry
  | directory
  | file (content : Bytes)
  | link (target : List Char)
  deriving DecidableEq, Repr

structure Files where
  entries : List (Place × Entry) := []
  /-- Where relative paths start. -/
  here : Place := []
  deriving DecidableEq, Repr

inductive FileError
  | notFound
  | alreadyExists
  | notDirectory
  | isDirectory
  | tooManyLinks
  | nameTooLong
  | accessDenied
  /-- The path has a character that no path can have. -/
  | invalidPath
  deriving DecidableEq, Repr

def FileError.message : FileError → String
  | .notFound => "No such file or directory (os error 2)"
  | .accessDenied => "Permission denied (os error 13)"
  | .alreadyExists => "File exists (os error 17)"
  | .notDirectory => "Not a directory (os error 20)"
  | .isDirectory => "Is a directory (os error 21)"
  | .nameTooLong => "File name too long (os error 36)"
  | .tooManyLinks => "Too many levels of symbolic links (os error 40)"
  | .invalidPath => "file name contained an unexpected NUL byte"

abbrev FileResult (α : Type) := Except FileError α

namespace Files

section Entries

def lookup (place : Place) : List (Place × Entry) → Option Entry
  | [] => none
  | (p, entry) :: rest => if p = place then some entry else lookup place rest

def entryAt (files : Files) (place : Place) : Option Entry :=
  if place.isEmpty then some .directory else lookup place files.entries

def insertEntry (place : Place) (entry : Entry) : List (Place × Entry) → List (Place × Entry)
  | [] => [(place, entry)]
  | (p, old) :: rest =>
      if p = place then (p, entry) :: rest else (p, old) :: insertEntry place entry rest

def put (files : Files) (place : Place) (entry : Entry) : Files :=
  { files with entries := insertEntry place entry files.entries }

def drop (files : Files) (place : Place) : Files :=
  { files with entries := files.entries.filter fun e => !place.isPrefixOf e.1 }

end Entries

section Paths

def ofPiece : List Char → Option Component
  | [] => none
  | ['.'] => some .here
  | ['.', '.'] => some .up
  | name => some (.name name)

/-- What a path says to do one after the other, from where it starts. A slash at the end asks for a
directory, like a dot. -/
def pieces (path : List Char) : List Component :=
  (if Path.isAbsolute path then [.root] else []) ++ (Text.splitAll path '/').filterMap ofPiece

def endsInSlash (path : List Char) : Bool := path.getLast? == some '/'

/-- How far a walk gets before it comes to a link. -/
inductive Walk
  /-- All was walked. There may be nothing at the place itself. -/
  | arrived (place : Place)
  | link (parent : Place) (target : List Char) (rest : List Component)
  | failed (error : FileError)
  deriving DecidableEq, Repr

def longestName : Nat := 255

def longestPath : Nat := 4095

/-- Walks from a directory. A link that is the last piece is followed only when asked. -/
def walk (files : Files) (followLast : Bool) (place : Place) : List Component → Walk
  | [] => .arrived place
  | .root :: rest => walk files followLast [] rest
  | .here :: rest => walk files followLast place rest
  | .up :: rest => walk files followLast place.dropLast rest
  | .name name :: rest =>
      let next := place ++ [name]
      if longestName < (Text.utf8 name).length then .failed .nameTooLong
      else
        match files.entryAt next with
        | none => if rest.isEmpty then .arrived next else .failed .notFound
        | some .directory => walk files followLast next rest
        | some (.file _) => if rest.isEmpty then .arrived next else .failed .notDirectory
        | some (.link target) =>
            if rest.isEmpty && !followLast then .arrived next else .link place target rest

def walkThrough (files : Files) (followLast : Bool) (links : Nat) (place : Place)
    (pieces : List Component) : FileResult Place :=
  match walk files followLast place pieces with
  | .arrived place => .ok place
  | .failed error => .error error
  | .link parent target rest =>
      match links with
      | 0 => .error .tooManyLinks
      | n + 1 => walkThrough files followLast n parent (Files.pieces target ++ rest)

def mostLinks : Nat := 40

def locatePieces (files : Files) (followLast : Bool) (pieces : List Component) : FileResult Place :=
  walkThrough files followLast mostLinks files.here pieces

def checkPath (path : List Char) : FileResult Unit :=
  if path.contains '\x00' then .error .invalidPath
  else if path.isEmpty then .error .notFound
  else if longestPath < (Text.utf8 path).length then .error .nameTooLong
  else .ok ()

def locate (files : Files) (path : List Char) (followLast : Bool) : FileResult Place := do
  checkPath path
  files.locatePieces followLast (pieces path ++ if endsInSlash path then [.here] else [])

def locateDirectory (files : Files) (pieces : List Component) : FileResult Place := do
  let place ← files.locatePieces true pieces
  match files.entryAt place with
  | some .directory => .ok place
  | some _ => .error .notDirectory
  | none => .error .notFound

end Paths

section Looking

def find (files : Files) (path : List Char) : FileResult (Place × Entry) := do
  let place ← files.locate path true
  match files.entryAt place with
  | some entry => .ok (place, entry)
  | none => .error .notFound

def read (files : Files) (path : List Char) : FileResult Bytes := do
  match ← files.find path with
  | (_, .file content) => .ok content
  | _ => .error .isDirectory

def isFile (files : Files) (path : List Char) : Bool :=
  match files.find path with
  | .ok (_, .file _) => true
  | _ => false

def isDirectory (files : Files) (path : List Char) : Bool :=
  match files.find path with
  | .ok (_, .directory) => true
  | _ => false

def place? (files : Files) (path : List Char) : Option Place :=
  match files.find path with
  | .ok (place, _) => some place
  | .error _ => none

def children (files : Files) (place : Place) : List (List Char × Entry) :=
  let below := files.entries.filterMap fun (p, entry) =>
    match p.getLast? with
    | some name => if p.dropLast = place then some (name, entry) else none
    | none => none
  below.mergeSort fun a b => !decide (b.1 < a.1)

def filePaths (files : Files) (place : Place) : List (List Char) :=
  let below := files.entries.filterMap fun (p, entry) =>
    match entry with
    | .file _ => if place.isPrefixOf p then some (Path.ofNames (p.drop place.length)) else none
    | _ => none
  below.mergeSort fun a b => !decide (b < a)

end Looking

section Changing

def placeForNew (files : Files) (pieces : List Component) : FileResult Place :=
  match pieces.getLast? with
  | none => .error .notFound
  | some (.name name) => do
      let parent ← files.locateDirectory pieces.dropLast
      if longestName < (Text.utf8 name).length then .error .nameTooLong
      else if (files.entryAt (parent ++ [name])).isSome then .error .alreadyExists
      else .ok (parent ++ [name])
  | some _ => do
      let _ ← files.locateDirectory pieces
      .error .alreadyExists

def makeDirectory (files : Files) (pieces : List Component) : FileResult Files := do
  let place ← files.placeForNew pieces
  .ok (files.put place .directory)

def settle (files : Files) (pieces : List Component) (error : FileError) : FileResult Files :=
  match files.locateDirectory pieces with
  | .ok _ => .ok files
  | .error _ => .error error

/-- Makes a directory and those above it that are missing. `above` holds the components of the path
before the last, last one first. -/
def makeDirectoriesFrom (files : Files) (pieces : List Component) :
    (above : List Component) → FileResult Files
  | [] =>
      match files.makeDirectory pieces with
      | .ok files => .ok files
      | .error error => files.settle pieces error
  | c :: above =>
      match files.makeDirectory pieces with
      | .ok files => .ok files
      | .error .notFound => do
          let files ← makeDirectoriesFrom files (c :: above).reverse above
          match files.makeDirectory pieces with
          | .ok files => .ok files
          | .error error => files.settle pieces error
      | .error error => files.settle pieces error

def makeDirectories (files : Files) (path : List Char) : FileResult Files :=
  if path.isEmpty then .ok files
  else do
    checkPath path
    makeDirectoriesFrom files (pieces path) (Path.components path).dropLast.reverse

def modify (files : Files) (path : List Char) (change : Bytes → Bytes) : FileResult Files := do
  checkPath path
  if endsInSlash path then .error .isDirectory
  let place ← files.locate path true
  match files.entryAt place with
  | some (.file content) => .ok (files.put place (.file (change content)))
  | none => .ok (files.put place (.file (change [])))
  | some _ => .error .isDirectory

def write (files : Files) (path : List Char) (content : Bytes) : FileResult Files :=
  files.modify path fun _ => content

def append (files : Files) (path : List Char) (content : Bytes) : FileResult Files :=
  files.modify path fun old => old ++ content

/-- Puts a file that was made elsewhere into a directory, in the place of what has its name. -/
def moveInto (files : Files) (directory : List Char) (name : List Char) (content : Bytes) :
    FileResult Files := do
  checkPath (Path.join directory name)
  let place ← files.locateDirectory (pieces directory)
  match files.entryAt (place ++ [name]) with
  | some .directory => .error .isDirectory
  | _ => .ok (files.put (place ++ [name]) (.file content))

def makeLink (files : Files) (path target : List Char) : FileResult Files := do
  checkPath path
  let place ← files.placeForNew (pieces path)
  .ok (files.put place (.link target))

def remove (files : Files) (path : List Char) : FileResult Files := do
  let place ← files.locate path false
  match files.entryAt place with
  | some _ => .ok (files.drop place)
  | none => .error .notFound

/-- A content with some bytes written over it at an offset; a gap before them is filled with zeros. -/
def overwritten (content : Bytes) (offset : Nat) (bytes : Bytes) : Bytes :=
  content.take offset ++ List.replicate (offset - content.length) 0 ++ bytes ++
    content.drop (offset + bytes.length)

def resized (content : Bytes) (length : Nat) : Bytes :=
  content.take length ++ List.replicate (length - content.length) 0

end Changing

end Files

end CodeReview
