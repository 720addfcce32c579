import CodeReview.Config.Settings
import CodeReview.Index.Chunk
import CodeReview.Index.Directory
import CodeReview.Index.Loader
import CodeReview.Model.Provider

/-!
Building an index: the documents of a repository are cut into chunks, the chunks are embedded in batches,
and the store of both is written to its directory. Nothing is written before all of it is there.
-/

namespace CodeReview.IndexBuild

structure Stats where
  documents : Nat
  chunks : Nat
  dim : Nat
  embedder : String
  indexDir : String
  deriving DecidableEq, Repr

def Stats.toJson (s : Stats) : Json :=
  .object
    [("documents", .ofNat s.documents), ("chunks", .ofNat s.chunks), ("dim", .ofNat s.dim),
      ("embedder", .text s.embedder), ("index_dir", .text s.indexDir)]

def chunkRecords (limit : Nat) (documents : List LoadedDocument) : List Document :=
  documents.flatMap fun d =>
    (Chunk.chunks limit d.text).map fun chunk =>
      { source := d.source, chunk := some (String.ofList chunk) }

/-- Lists of at most `size` items. `fuel` is at least the number of items. -/
def batchesFrom {α : Type} (size : Nat) (fuel : Nat) (items : List α) : List (List α) :=
  match fuel with
  | 0 => []
  | n + 1 =>
      if items.isEmpty then []
      else items.take size :: batchesFrom size n (items.drop size)

def batches {α : Type} (size : Nat) (items : List α) : List (List α) :=
  batchesFrom (max size 1) items.length items

/-- What is answered to the calls of one build, by their number. The same texts need not get the same
vectors twice. -/
abbrev Answers := Nat → List String → Except Failure (List Vector32)

def embedBatches (answers : Answers) : List (List String) → Asked (Except Failure (List Vector32))
  | [] => pure (.ok [])
  | batch :: rest => do
      match ← Provider.embedCall (answers 0) batch with
      | .error failure => return .error failure
      | .ok vectors =>
          if vectors.length ≠ batch.length then
            return .error (.provider ("Expected " ++ toString batch.length ++ " embeddings, got " ++
              toString vectors.length))
          else
            match ← embedBatches (fun call => answers (call + 1)) rest with
            | .error failure => return .error failure
            | .ok more => return .ok (vectors ++ more)

def storeFrom (embedder : String) (answers : Answers) (s : RetrievalSettings)
    (documents : List LoadedDocument) : Asked (Except Failure Store) := do
  let records := chunkRecords s.chunkMaxChars documents
  let texts := records.filterMap Document.chunk
  match ← embedBatches answers (batches s.embedBatchSize texts) with
  | .error failure => return .error failure
  | .ok vectors => return (Store.build vectors records (some embedder)).mapError .index

def buildFrom (embedder : String) (answers : Answers) (s : RetrievalSettings) (root : String)
    (files : Files) : Asked (Files × Except Failure (Store × Stats)) := do
  let documents := Loader.load files root.toList [s.indexDir.toList]
  match ← storeFrom embedder answers s documents with
  | .error failure => return (files, .error failure)
  | .ok store =>
      let (files, written) := store.persist s.indexDir.toList files
      match written with
      | .error e => return (files, .error (.index e))
      | .ok _ =>
          return (files, .ok (store,
            { documents := documents.length, chunks := store.size, dim := store.dim
              embedder, indexDir := s.indexDir }))

def build (p : Provider) (s : RetrievalSettings) (root : String) (files : Files) :
    Asked (Files × Except Failure (Store × Stats)) :=
  buildFrom p.embedderId (fun _ => p.embed) s root files

end CodeReview.IndexBuild
