import CodeReview.Index.Artifact

/-!
Writing a store to a directory and loading it again, step by step. Between two steps anyone else may
change or read the same files; one step happens as a whole. A writer prepares both files aside and then
moves them into place one after the other. A reader that finds the files damaged starts once more, in case
it came between the two moves.

The files prepared aside have names that nobody else asks for, and are not kept in the tree.
-/

namespace CodeReview

open Artifact

def indexFile : List Char := "embeddings.index".toList

def sidecarFile : List Char := "metadata.json".toList

def indexPath (directory : List Char) : List Char := Path.join directory indexFile

def sidecarPath (directory : List Char) : List Char := Path.join directory sidecarFile

section Persisting

/-- The next step of a writer, or how it ended. -/
inductive Persisting
  | makeDirectory
  | stageIndex
  | stageSidecar
  | placeIndex
  | placeSidecar
  | finished (result : FileResult Unit)
  deriving Repr

namespace Persisting

def goOn (files : Files) (next : Persisting) : FileResult Files → Files × Persisting
  | .ok changed => (changed, next)
  | .error e => (files, .finished (.error e))

def stage (files : Files) (directory : List Char) : FileResult Files := do
  let _ ← files.locateDirectory (Files.pieces directory)
  return files

def step (s : Store) (directory : List Char) (files : Files) : Persisting → Files × Persisting
  | .makeDirectory => goOn files .stageIndex (files.makeDirectories directory)
  | .stageIndex => goOn files .stageSidecar (stage files directory)
  | .stageSidecar => goOn files .placeIndex (stage files directory)
  | .placeIndex => goOn files .placeSidecar (files.moveInto directory indexFile (encodeIndex s))
  | .placeSidecar =>
      goOn files (.finished (.ok ())) (files.moveInto directory sidecarFile (encodeSidecar s))
  | .finished result => (files, .finished result)

def run (s : Store) (directory : List Char) (steps : Nat) (files : Files) (next : Persisting) :
    Files × Persisting :=
  match steps with
  | 0 => (files, next)
  | n + 1 =>
      let (files, next) := step s directory files next
      run s directory n files next

def result : Persisting → FileResult Unit
  | .finished result => result
  | _ => .ok ()

end Persisting

/-- Writes a store to a directory, which is made if it is missing. The files are those left in the end,
also after an error. -/
def Store.persist (s : Store) (directory : List Char) (files : Files) :
    Files × Except IndexError Unit :=
  let (files, last) := Persisting.run s directory 5 files .makeDirectory
  (files, last.result.mapError .file)

end Persisting

section Loading

/-- The next step of a reader, or how it ended; `again` says that it has started once more. -/
inductive Loading
  | look (again : Bool)
  | readIndex (again : Bool)
  | readSidecar (again : Bool) (index : IndexContent)
  | finished (result : Except IndexError Store)
  deriving Repr

namespace Loading

def damaged (again : Bool) (path : List Char) (d : Damage) : Loading :=
  if again then .finished (.error (.corrupt (String.ofList path) d)) else .look true

def tookIndex (directory : List Char) (again : Bool) (bytes : Bytes) : Loading :=
  match decodeIndex bytes with
  | .error d => damaged again (indexPath directory) d
  | .ok index => .readSidecar again index

def tookSidecar (directory : List Char) (again : Bool) (index : IndexContent) (bytes : Bytes) :
    Loading :=
  match (decodeSidecar bytes).bind (assemble index) with
  | .error d => damaged again (sidecarPath directory) d
  | .ok s => .finished (.ok s)

def step (directory : List Char) (files : Files) : Loading → Loading
  | .look again =>
      if files.isFile (indexPath directory) && files.isFile (sidecarPath directory) then
        .readIndex again
      else .finished (.error (.notFound (String.ofList directory)))
  | .readIndex again =>
      match files.read (indexPath directory) with
      | .error e => .finished (.error (.file e))
      | .ok bytes => tookIndex directory again bytes
  | .readSidecar again index =>
      match files.read (sidecarPath directory) with
      | .error e => .finished (.error (.file e))
      | .ok bytes => tookSidecar directory again index bytes
  | .finished result => .finished result

def run (directory : List Char) (files : Files) (steps : Nat) (next : Loading) : Loading :=
  match steps with
  | 0 => next
  | n + 1 => run directory files n (step directory files next)

def result (directory : List Char) : Loading → Except IndexError Store
  | .finished result => result
  | _ => .error (.notFound (String.ofList directory))

end Loading

def Store.load (directory : List Char) (files : Files) : Except IndexError Store :=
  (Loading.run directory files 6 (.look false)).result directory

end Loading

end CodeReview
