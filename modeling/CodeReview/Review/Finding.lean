import CodeReview.Json.Decode
import CodeReview.Text.Blank
import CodeReview.Text.LetterCase

/-!
Findings, the unit of every review: where, how bad, what, and who says so. Two findings are about the
same thing when they agree in file, line and message; white space around the message does not count.
-/

namespace CodeReview

open Decode

inductive Severity
  | info
  | warning
  | critical
  deriving DecidableEq, Repr

namespace Severity

def name : Severity → String
  | .info => "info"
  | .warning => "warning"
  | .critical => "critical"

def rank : Severity → Nat
  | .info => 0
  | .warning => 1
  | .critical => 2

instance : LT Severity := ⟨fun a b => a.rank < b.rank⟩

instance (a b : Severity) : Decidable (a < b) := inferInstanceAs (Decidable (a.rank < b.rank))

def ofName? : String → Option Severity
  | "info" => some .info
  | "warning" => some .warning
  | "critical" => some .critical
  | _ => none

def normalLabel (label : String) : String := Text.lowerCase (Text.trimmed label)

/-- Reads a label as people write it; `warn` stands for `warning`. -/
def parse? (label : String) : Option Severity :=
  if normalLabel label == "warn" then some .warning else ofName? (normalLabel label)

def lenient (label : String) : Severity := (parse? label).getD .info

def unknownMessage (label : String) : String := "Unknown severity: " ++ normalLabel label

end Severity

inductive Author
  | lint
  | llm
  deriving DecidableEq, Repr

namespace Author

def name : Author → String
  | .lint => "lint"
  | .llm => "llm"

def ofName? : String → Option Author
  | "lint" => some .lint
  | "llm" => some .llm
  | _ => none

end Author

structure Finding where
  filename : String
  line : Nat
  severity : Severity
  message : String
  source : Author
  model : Option String := none
  deriving DecidableEq, Repr

namespace Finding

/-- Lines count from 1; line 0 is taken for line 1. -/
def lint (filename : String) (line : Nat) (severity : Severity) (message : String) : Finding :=
  { filename, line := max line 1, severity, message, source := .lint }

def llm (filename : String) (line : Nat) (severity : Severity) (message : String) : Finding :=
  { lint filename line severity message with source := .llm }

def withModel (f : Finding) (model : String) : Finding := { f with model := some model }

def identity (f : Finding) : String × Nat × String := (f.filename, f.line, Text.trimmed f.message)

def summaryLine (f : Finding) : String :=
  "- " ++ f.filename ++ ":" ++ toString f.line ++ " [" ++ f.severity.name ++ "] " ++ f.message

def toJson (f : Finding) : Json :=
  .object
    ([("filename", .text f.filename), ("line", .ofNat f.line), ("severity", .text f.severity.name),
        ("message", .text f.message), ("source", .text f.source.name)] ++
      match f.model with
      | some model => [("model", .text model)]
      | none => [])

def decode : Decoder Finding := fun scan => do
  let line := naturalBelow 0x100000000
  let r ← record
    [field "filename" text, field "line" line, field "severity" (choice Severity.ofName?),
      field "message" text, field "source" (choice Author.ofName?),
      defaulted "model" (optional text)] scan
  return {
    filename := ← r.get "filename" text
    line := ← r.get "line" line
    severity := ← r.get "severity" (choice Severity.ofName?)
    message := ← r.get "message" text
    source := ← r.get "source" (choice Author.ofName?)
    model := ← r.getOptional "model" text }

end Finding

end CodeReview
