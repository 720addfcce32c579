import CodeReview.Review.Finding

/-!
What is reviewed, and the answer. A file counts only when it has new code that is not empty.
-/

namespace CodeReview

open Decode

structure FileDiff where
  filename : String
  oldCode : Option String := none
  newCode : Option String := none
  deriving DecidableEq, Repr

namespace FileDiff

def newText (d : FileDiff) : Option String := d.newCode.filter fun code => !code.isEmpty

def toJson (d : FileDiff) : Json :=
  .object [("filename", .text d.filename), ("old_code", .ofText? d.oldCode),
    ("new_code", .ofText? d.newCode)]

def decode : Decoder FileDiff := fun scan => do
  let r ← record
    [field "filename" text, defaulted "old_code" (optional text),
      defaulted "new_code" (optional text)] scan
  return {
    filename := ← r.get "filename" text
    oldCode := ← r.getOptional "old_code" text
    newCode := ← r.getOptional "new_code" text }

end FileDiff

structure ReviewRequest where
  prNumber : Option Nat := none
  prTitle : Option String := none
  repoName : Option String := none
  diffs : List FileDiff := []
  deriving DecidableEq, Repr

namespace ReviewRequest

def identifier (r : ReviewRequest) : String :=
  match r.prNumber with
  | some n => toString n
  | none => "local"

def toJson (r : ReviewRequest) : Json :=
  .object
    [("pr_number", match r.prNumber with
        | some n => .ofNat n
        | none => .null),
      ("pr_title", .ofText? r.prTitle), ("repo_name", .ofText? r.repoName),
      ("diffs", .list (r.diffs.map FileDiff.toJson))]

def decode : Decoder ReviewRequest := fun scan => do
  let number := word
  let r ← record
    [defaulted "pr_number" (optional number), defaulted "pr_title" (optional text),
      defaulted "repo_name" (optional text), defaulted "diffs" (listOf FileDiff.decode)] scan
  return {
    prNumber := ← r.getOptional "pr_number" number
    prTitle := ← r.getOptional "pr_title" text
    repoName := ← r.getOptional "repo_name" text
    diffs := ← r.getD "diffs" (listOf FileDiff.decode) [] }

end ReviewRequest

structure ReviewResponse where
  findings : List Finding
  deriving DecidableEq, Repr

namespace ReviewResponse

def toJson (r : ReviewResponse) : Json :=
  .object [("findings", .list (r.findings.map Finding.toJson))]

def decode : Decoder ReviewResponse := fun scan => do
  let r ← record [field "findings" (listOf Finding.decode)] scan
  return { findings := ← r.get "findings" (listOf Finding.decode) }

end ReviewResponse

end CodeReview
