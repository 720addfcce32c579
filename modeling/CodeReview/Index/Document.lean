import CodeReview.Json.Decode

/-!
What is known about one indexed piece of text. Besides its source and the text itself a document may
carry members of any kind, which are kept sorted by name.
-/

namespace CodeReview

open Decode Json

structure Document where
  source : String
  chunk : Option String := none
  extra : List (String × Json) := []
  deriving BEq, Repr

namespace Document

def toJson (d : Document) : Json :=
  .object
    (("source", .text d.source) ::
      ((match d.chunk with
        | some chunk => [("chunk", Json.text chunk)]
        | none => []) ++ d.extra))

/-- Reads the members of a document up to where it stops. `depth` is the number of containers around
them. That the source is missing is noticed only at the end of the object. -/
def readMembers (depth : Nat) (stop : Option Fault) (source : Option String)
    (chunk : Option (Option String)) (extra : List (String × Json)) :
    List (String × Scan) → Decoded Document
  | [] => do
      stopped stop
      match source with
      | some source => return { source, chunk := chunk.join, extra }
      | none => .error .mismatch
  | (_, .unnamed read _) :: _ => refuse read
  | (name, value) :: rest =>
      if name == "source" then
        match source with
        | some _ => .error .mismatch
        | none => do
            let s ← text value
            readMembers depth stop (some s) chunk extra rest
      else if name == "chunk" then
        match chunk with
        | some _ => .error .mismatch
        | none => do
            let c ← optional text value
            readMembers depth stop source (some c) extra rest
      else do
        let v ← anything depth value
        readMembers depth stop source chunk (insertMember name v extra) rest

def decode (depth : Nat) : Decoder Document
  | .object members stop => readMembers (depth + 1) stop none none [] members
  | scan => mistyped scan

end Document

end CodeReview
