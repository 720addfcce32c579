import CodeReview.Decimal.Single
import CodeReview.Files.Tree
import CodeReview.Index.Document

/-!
A store of vectors, each with a document, and the exact search for the documents nearest to a query.
Documents at the same distance keep the order in which they were put in.

The distance is the square of the Euclidean one, in single precision and summed from the first coordinate
to the last.
-/

namespace CodeReview

open Decimal (Single)

abbrev Vector32 := List Single

inductive Damage
  | truncatedHeader
  | badMagic
  | unsupportedVersion (version : Nat)
  | sizeOverflow
  | wrongSize (expected found : Nat)
  | zeroDimension
  /-- The sidecar is not JSON of the right form. -/
  | unreadableSidecar
  | recordCount (records count : Nat)
  | dimensionConflict (sidecar index : Nat)
  deriving DecidableEq, Repr

def Damage.reason : Damage → String
  | .truncatedHeader => "truncated header"
  | .badMagic => "bad magic"
  | .unsupportedVersion v => "unsupported format version " ++ toString v
  | .sizeOverflow => "size overflows usize"
  | .wrongSize e f =>
      "expected " ++ toString e ++ " bytes of vectors, found " ++ toString f
  | .zeroDimension => "zero dimension"
  | .unreadableSidecar => "unreadable metadata"
  | .recordCount r c => toString r ++ " metadata records for " ++ toString c ++ " embeddings"
  | .dimensionConflict s i => "sidecar dim " ++ toString s ++ " != index dim " ++ toString i

inductive IndexError
  | lengthMismatch (embeddings documents : Nat)
  | inconsistentDimension (index expected found : Nat)
  | zeroDimension
  | dimensionMismatch (query index : Nat)
  | embedderMismatch (query index : String)
  /-- There is no index in the directory. -/
  | notFound (directory : String)
  | corrupt (path : String) (damage : Damage)
  | file (error : FileError)
  deriving DecidableEq, Repr

namespace IndexError

def message : IndexError → String
  | .lengthMismatch e d =>
      "Got " ++ toString e ++ " embeddings but " ++ toString d ++ " metadata records"
  | .inconsistentDimension i e f =>
      "Embedding " ++ toString i ++ " has dimension " ++ toString f ++ ", expected " ++ toString e
  | .zeroDimension => "Embeddings must have a non-zero dimension"
  | .dimensionMismatch q i =>
      "Query dim " ++ toString q ++ " != index dim " ++ toString i ++
        ". Rebuild the index with the same embedding model used at runtime."
  | .embedderMismatch q i =>
      "Embedding model mismatch: the index was built with '" ++ i ++ "' but the query uses '" ++ q ++
        "'. Rebuild the index."
  | .notFound d => "No index found at " ++ d
  | .corrupt path damage => "Corrupt index at " ++ path ++ ": " ++ damage.reason
  | .file e => "I/O error: " ++ e.message

def isNotFound : IndexError → Bool
  | .notFound _ => true
  | _ => false

end IndexError

structure Store where
  dim : Nat := 0
  /-- The coordinates of all vectors, one vector after the other. -/
  vectors : List Single := []
  documents : List Document := []
  /-- The name of what made the vectors, if it is known. -/
  embedder : Option String := none
  deriving BEq, Repr

namespace Store

def empty : Store := {}

def size (s : Store) : Nat := s.documents.length

def isEmpty (s : Store) : Bool := s.documents.isEmpty

def knownName (name : Option String) : Option String := name.filter fun n => !n.isEmpty

section Building

def firstMisfit (dim : Nat) (index : Nat) : List Vector32 → Option (Nat × Nat)
  | [] => none
  | v :: rest => if v.length = dim then firstMisfit dim (index + 1) rest else some (index, v.length)

/-- A store of embeddings with their documents; none of them give the empty store. -/
def build (embeddings : List Vector32) (documents : List Document) (embedder : Option String) :
    Except IndexError Store :=
  if embeddings.length ≠ documents.length then
    .error (.lengthMismatch embeddings.length documents.length)
  else
    match embeddings with
    | [] => .ok empty
    | first :: _ =>
        if first.length = 0 then .error .zeroDimension
        else
          match firstMisfit first.length 0 embeddings with
          | some (index, found) => .error (.inconsistentDimension index first.length found)
          | none =>
              .ok { dim := first.length, vectors := embeddings.flatten, documents
                    embedder := knownName embedder }

end Building

section Searching

def rowsOf (dim : Nat) (count : Nat) (vectors : List Single) : List Vector32 :=
  match count with
  | 0 => []
  | n + 1 => vectors.take dim :: rowsOf dim n (vectors.drop dim)

def rows (s : Store) : List Vector32 := rowsOf s.dim s.size s.vectors

def squaredDistance (row query : Vector32) : Single :=
  Single.sum (List.zipWith (fun x y => (x - y) * (x - y)) row query)

structure Hit where
  position : Nat
  distance : Single
  document : Document
  deriving BEq, Repr

def scored (s : Store) (query : Vector32) : List Hit :=
  ((s.documents.zip s.rows).zipIdx).map fun ((document, row), position) =>
    { position, distance := squaredDistance row query, document }

def Hit.isBefore (a b : Hit) : Bool := a.distance.orderKey ≤ b.distance.orderKey

/-- Whether a query embedded by one model may be put to vectors of another; an unknown model fits all. -/
def conflict? (s : Store) (embedder : Option String) : Option IndexError :=
  match knownName embedder, s.embedder with
  | some q, some i => if q = i then none else some (.embedderMismatch q i)
  | _, _ => none

def search (s : Store) (query : Vector32) (k : Nat) (embedder : Option String) :
    Except IndexError (List Hit) :=
  if s.isEmpty then .ok []
  else if query.length ≠ s.dim then .error (.dimensionMismatch query.length s.dim)
  else
    match s.conflict? embedder with
    | some e => .error e
    | none => .ok (((s.scored query).mergeSort Hit.isBefore).take k)

end Searching

end Store

end CodeReview
