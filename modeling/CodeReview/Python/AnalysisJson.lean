import CodeReview.Json.Decode
import CodeReview.Python.Analysis

/-!
The JSON form of analyses.
-/

namespace CodeReview.Python

open Decode

namespace Signature

def toJson (s : Signature) : Json := .object [("name", .text s.name), ("args", .texts s.args)]

def decode : Decoder Signature := fun scan => do
  let r ← record [field "name" text, field "args" (listOf text)] scan
  return { name := ← r.get "name" text, args := ← r.get "args" (listOf text) }

end Signature

namespace Analysis

def toJson (a : Analysis) : Json :=
  .object
    [("signatures", .list (a.signatures.map Signature.toJson)),
      ("edge_cases", .texts (a.edgeCases.map EdgeCase.id)), ("complexity", .ofNat a.complexity),
      ("parsed", .bool a.parsed)]

def decode : Decoder Analysis := fun scan => do
  let signatures := listOf Signature.decode
  let edgeCases := listOf (choice EdgeCase.ofId?)
  let complexity := word
  let r ← record
    [field "signatures" signatures, field "edge_cases" edgeCases, field "complexity" complexity,
      field "parsed" boolean] scan
  return {
    signatures := ← r.get "signatures" signatures
    edgeCases := ← r.get "edge_cases" edgeCases
    complexity := ← r.get "complexity" complexity
    parsed := ← r.get "parsed" boolean }

end Analysis

end CodeReview.Python
