import CodeReview.Files.Tree
import CodeReview.Index.Document
import CodeReview.Text.LetterCase

/-!
Collecting the text files of a repository: a walk through its directories in the order of names, which
passes over some directories and follows no links.
-/

namespace CodeReview

structure LoadedDocument where
  /-- The names on the way from the root of the repository. -/
  path : List (List Char)
  text : List Char
  deriving DecidableEq, Repr

namespace LoadedDocument

def source (d : LoadedDocument) : String := String.ofList (Path.ofNames d.path)

end LoadedDocument

namespace Loader

section Selecting

def extensions : List (List Char) := ["md".toList, "py".toList, "txt".toList]

def passedOver : List (List Char) :=
  [".git".toList, "__pycache__".toList, "node_modules".toList]

def leastBytes : Nat := 20

def mostBytes : Nat := 200000

def hasExtension (name : List Char) : Bool :=
  match Path.extension? name with
  | some extension => extensions.contains (Text.lower extension)
  | none => false

def textOf (content : Bytes) : Option (List Char) :=
  if content.length < leastBytes || mostBytes < content.length then none
  else Text.ofUtf8? content

def document? (path : List (List Char)) (name : List Char) (content : Bytes) :
    Option LoadedDocument :=
  if hasExtension name then (textOf content).map fun text => { path, text } else none

def isExcluded (excluded : List Place) (place : Place) (name : List Char) : Bool :=
  passedOver.contains name || excluded.contains place

end Selecting

section Walking

mutual

def walkDirectory (files : Files) (excluded : List Place) (depth : Nat) (place : Place)
    (path : List (List Char)) : List LoadedDocument :=
  match depth with
  | 0 => []
  | n + 1 => walkEntries files excluded n place path (files.children place)

def walkEntries (files : Files) (excluded : List Place) (depth : Nat) (place : Place)
    (path : List (List Char)) : List (List Char × Entry) → List LoadedDocument
  | [] => []
  | (name, entry) :: rest =>
      let found := match entry with
        | .file content => (document? (path ++ [name]) name content).toList
        | .link _ => []
        | .directory =>
            if isExcluded excluded (place ++ [name]) name then []
            else walkDirectory files excluded depth (place ++ [name]) (path ++ [name])
      found ++ walkEntries files excluded depth place path rest

end

/-- The place of an excluded path: what it leads to, or else the place below the root, which is compared
as it is written. -/
def excludedPlace? (files : Files) (root path : List Char) : Option Place :=
  match files.place? path with
  | some place => some place
  | none =>
      match Path.components (Path.join root path) with
      | .root :: rest =>
          rest.mapM fun
            | .name name => some name
            | _ => none
      | _ => none

def load (files : Files) (root : List Char) (exclude : List (List Char)) : List LoadedDocument :=
  let excluded := exclude.filterMap (excludedPlace? files root)
  match files.locate root false with
  | .error _ => []
  | .ok place =>
      match files.entryAt place with
      | some (.file content) =>
          ((Path.fileName? root).bind fun name => document? [] name content).toList
      | some _ =>
          match files.find root with
          | .ok (place, .directory) =>
              walkDirectory files excluded (files.entries.length + 1) place []
          | _ => []
      | none => []

end Walking

end Loader

end CodeReview
