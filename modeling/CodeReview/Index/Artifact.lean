import CodeReview.Index.Store
import CodeReview.Json.Print

/-!
The two files of a store. The index file has a mark, the version of the format, the dimension and the
number of vectors, and then their coordinates; all numbers begin with their lowest byte. The sidecar is a
JSON object with the documents; a bare list of documents is read as well.
-/

namespace CodeReview.Artifact

open Decimal (Single)
open Decode

section Numbers

def littleEndian (width n : Nat) : Bytes :=
  match width with
  | 0 => []
  | w + 1 => UInt8.ofNat (n % 256) :: littleEndian w (n / 256)

def ofLittleEndian : Bytes → Nat
  | [] => 0
  | b :: rest => b.toNat + 256 * ofLittleEndian rest

def singles : Bytes → List Single
  | a :: b :: c :: d :: rest => Single.ofBytes a b c d :: singles rest
  | _ => []

end Numbers

section Index

def magic : Bytes := [0x44, 0x56, 0x49, 0x58]

def version : Nat := 1

def headerLength : Nat := 20

def header (dim count : Nat) : Bytes :=
  magic ++ littleEndian 4 version ++ littleEndian 4 dim ++ littleEndian 8 count

def encodeIndex (s : Store) : Bytes := header s.dim s.size ++ s.vectors.flatMap Single.bytes

structure IndexContent where
  dim : Nat
  count : Nat
  vectors : List Single
  deriving DecidableEq, Repr

def decodeIndex (bytes : Bytes) : Except Damage IndexContent :=
  if bytes.length < headerLength then .error .truncatedHeader
  else if bytes.take 4 ≠ magic then .error .badMagic
  else
    let found := ofLittleEndian ((bytes.drop 4).take 4)
    let dim := ofLittleEndian ((bytes.drop 8).take 4)
    let count := ofLittleEndian ((bytes.drop 12).take 8)
    let body := bytes.drop headerLength
    if found ≠ version then .error (.unsupportedVersion found)
    else if wordLimit ≤ count * dim * 4 then .error .sizeOverflow
    else if body.length ≠ count * dim * 4 then .error (.wrongSize (count * dim * 4) body.length)
    else if 0 < count ∧ dim = 0 then .error .zeroDimension
    else .ok { dim, count, vectors := singles body }

end Index

section Sidecar

structure Sidecar where
  dim : Option Nat
  documents : List Document
  embedder : Option String
  deriving BEq, Repr

def sidecarJson (s : Store) : Json :=
  .object
    [("dim", .ofNat s.dim), ("documents", .list (s.documents.map Document.toJson)),
      ("embedder", .ofText? s.embedder)]

def encodeSidecar (s : Store) : Bytes := Text.utf8 (Json.pretty (sidecarJson s)).toList

def decodeRecord : Decoder Sidecar := fun scan => do
  let dim := word
  let documents := listOf (Document.decode 0)
  let r ← record
    [defaulted "dim" (optional dim), field "documents" documents,
      defaulted "embedder" (optional text)] scan
  return {
    dim := ← r.getOptional "dim" dim
    documents := ← r.get "documents" documents
    embedder := Store.knownName (← r.getOptional "embedder" text) }

/-- A sidecar without the name of the embedder. -/
def decodeBareList : Decoder Sidecar := fun scan => do
  let documents ← listOf (Document.decode 0) scan
  return { dim := none, documents, embedder := none }

/-- Members are looked for by name, not by position, so a list is one of documents. -/
def decodeScan : Decoder Sidecar := fun scan => do
  let _ ← anything 0 scan
  match scan with
  | .object _ _ => decodeRecord scan
  | _ => decodeBareList scan

def decodeSidecar (bytes : Bytes) : Except Damage Sidecar :=
  match Text.ofUtf8? bytes with
  | none => .error .unreadableSidecar
  | some cs =>
      match wholeText decodeScan (String.ofList cs) with
      | .ok sidecar => .ok sidecar
      | .error _ => .error .unreadableSidecar

end Sidecar

def assemble (index : IndexContent) (sidecar : Sidecar) : Except Damage Store :=
  if sidecar.documents.length ≠ index.count then
    .error (.recordCount sidecar.documents.length index.count)
  else
    let dim := sidecar.dim.getD index.dim
    if 0 < index.count ∧ dim ≠ index.dim then .error (.dimensionConflict dim index.dim)
    else if index.count = 0 then .ok .empty
    else
      .ok { dim := index.dim, vectors := index.vectors, documents := sidecar.documents
            embedder := sidecar.embedder }

end CodeReview.Artifact
