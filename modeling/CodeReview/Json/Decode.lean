import CodeReview.Json.Scan

/-!
Decoding a scanned text as a wanted type. Decoders go through the scan from left to right and stop at
the first problem, be it that the text makes no sense there or that it is not of the wanted type.

A record may be written as an object, where unknown members are passed over and a known one may stand
only once, or as the list of its fields in order, where fields that have a default may be missing from
the end.
-/

namespace CodeReview.Decode

open Json (Fault Scan)

inductive Refusal
  | fault (fault : Fault)
  /-- Sensible so far, but not of the wanted type. -/
  | mismatch
  deriving DecidableEq, Repr

abbrev Decoded (α : Type) := Except Refusal α

abbrev Decoder (α : Type) := Scan → Decoded α

def refuse {α : Type} (f : Fault) : Decoded α := .error (.fault f)

def mistyped {α : Type} : Decoder α
  | .broken read _ => refuse read
  | .unnamed read _ => refuse read
  | .flawed => refuse .malformed
  | _ => .error .mismatch

def stopped : Option Fault → Decoded Unit
  | some f => refuse f
  | none => .ok ()

section Plain

def text : Decoder String
  | .text s => .ok s
  | scan => mistyped scan

def boolean : Decoder Bool
  | .bool b => .ok b
  | scan => mistyped scan

def wholeBetween (low high : Int) : Decoder Int
  | .integer n => if low ≤ n && n ≤ high then .ok n else .error .mismatch
  | scan => mistyped scan

def naturalBelow (limit : Nat) : Decoder Nat := fun scan => do
  let n ← wholeBetween 0 (limit - 1 : Int) scan
  return n.toNat

def word : Decoder Nat := naturalBelow wordLimit

def real : Decoder Decimal.Double
  | .integer n =>
      let d := Decimal.Double.ofNat n.natAbs
      .ok (if n < 0 then d.negate else d)
  | .double d => .ok d
  | scan => mistyped scan

def optional {α : Type} (decode : Decoder α) : Decoder (Option α)
  | .null => .ok none
  | scan => do return some (← decode scan)

def all {α : Type} (decode : Decoder α) (stop : Option Fault) : List Scan → Decoded (List α)
  | [] => do
      stopped stop
      return []
  | item :: items => do
      let first ← decode item
      let rest ← all decode stop items
      return first :: rest

def listOf {α : Type} (decode : Decoder α) : Decoder (List α)
  | .list items stop => all decode stop items
  | scan => mistyped scan

/-- One of a fixed set of names, written as a string or as an object with that one member and no
content. -/
def choice {α : Type} (find : String → Option α) : Decoder α
  | .text s =>
      match find s with
      | some a => .ok a
      | none => .error .mismatch
  | .object members stop =>
      match members with
      | [] => refuse (stop.getD .malformed)
      | (_, .unnamed read _) :: _ => refuse read
      | (name, content) :: more =>
          match find name with
          | none => .error .mismatch
          | some a =>
              match content with
              | .null =>
                  if more.isEmpty then do
                    stopped stop
                    return a
                  else refuse .malformed
              | other => mistyped other
  | .broken read _ => refuse read
  | _ => refuse .malformed

end Plain

section Open

mutual

/-- Passes over a value that nobody wants; flaws in its strings and numbers do not matter. -/
def skip : Scan → Decoded Unit
  | .broken _ passed => refuse passed
  | .unnamed _ value => skip value
  | .list items stop => do
      skipItems items
      stopped stop
  | .object members stop => do
      skipMembers members
      stopped stop
  | _ => .ok ()

def skipItems : List Scan → Decoded Unit
  | [] => .ok ()
  | item :: items => do
      skip item
      skipItems items

def skipMembers : List (String × Scan) → Decoded Unit
  | [] => .ok ()
  | (_, value) :: members => do
      skip value
      skipMembers members

end

def insertMember (name : String) (value : Json) : List (String × Json) → List (String × Json)
  | [] => [(name, value)]
  | (other, old) :: rest =>
      if name == other then (name, value) :: rest
      else if name < other then (name, value) :: (other, old) :: rest
      else (other, old) :: insertMember name value rest

def depthLimit : Nat := 128

mutual

/-- Any value. `depth` is the number of containers around it. The members of objects are sorted by
name, and of several with one name the last is kept. -/
def anything (depth : Nat) : Scan → Decoded Json
  | .null => .ok .null
  | .bool b => .ok (.bool b)
  | .integer n => .ok (.integer n)
  | .double d => .ok (.double d)
  | .text s => .ok (.text s)
  | .flawed => refuse .malformed
  | .broken read _ => refuse read
  | .unnamed read _ => refuse read
  | .list items stop =>
      if depthLimit ≤ depth + 1 then refuse .malformed
      else do
        let items ← openItems (depth + 1) items
        stopped stop
        return .list items
  | .object members stop =>
      if depthLimit ≤ depth + 1 then refuse .malformed
      else do
        let members ← openMembers (depth + 1) members
        stopped stop
        return .object (members.foldl (fun sorted m => insertMember m.1 m.2 sorted) [])

def openItems (depth : Nat) : List Scan → Decoded (List Json)
  | [] => .ok []
  | item :: items => do
      let first ← anything depth item
      let rest ← openItems depth items
      return first :: rest

def openMembers (depth : Nat) : List (String × Scan) → Decoded (List (String × Json))
  | [] => .ok []
  | (name, value) :: members => do
      let first ← anything depth value
      let rest ← openMembers depth members
      return (name, first) :: rest

end

end Open

section Records

structure Field where
  name : String
  /-- Refuses a value that is not of the type of the field. -/
  check : Decoder Unit
  /-- Whether the field may be missing from the end of a list. -/
  default : Bool

def field {α : Type} (name : String) (decode : Decoder α) : Field :=
  { name, check := fun scan => do let _ ← decode scan; return (), default := false }

def defaulted {α : Type} (name : String) (decode : Decoder α) : Field :=
  { field name decode with default := true }

abbrev Fields := List (String × Scan)

def Fields.find? (fields : Fields) (name : String) : Option Scan :=
  (List.find? (fun m => m.1 == name) fields).map (·.2)

def recordMembers (fields : List Field) (found : Fields) : List (String × Scan) → Decoded Fields
  | [] => .ok found
  | (_, .unnamed read _) :: _ => refuse read
  | (name, value) :: members =>
      match fields.find? fun f => f.name == name with
      | none => do
          skip value
          recordMembers fields found members
      | some f =>
          if (found.find? name).isSome then .error .mismatch
          else do
            f.check value
            recordMembers fields (found ++ [(name, value)]) members

def recordItems (stop : Option Fault) (found : Fields) : List Field → List Scan → Decoded Fields
  | [], [] => do
      stopped stop
      return found
  | [], _ :: _ => refuse .malformed
  | f :: fields, [] => do
      stopped stop
      if (f :: fields).all Field.default then return found else .error .mismatch
  | f :: fields, value :: items => do
      f.check value
      recordItems stop (found ++ [(f.name, value)]) fields items

/-- The fields of a record that are present, each of the right type. -/
def record (fields : List Field) : Decoder Fields
  | .object members stop => do
      let found ← recordMembers fields [] members
      stopped stop
      return found
  | .list items stop => recordItems stop [] fields items
  | scan => mistyped scan

def Fields.get {α : Type} (fields : Fields) (name : String) (decode : Decoder α) : Decoded α :=
  match fields.find? name with
  | some scan => decode scan
  | none => .error .mismatch

def Fields.getOptional {α : Type} (fields : Fields) (name : String) (decode : Decoder α) :
    Decoded (Option α) :=
  match fields.find? name with
  | some scan => optional decode scan
  | none => .ok none

def Fields.getD {α : Type} (fields : Fields) (name : String) (decode : Decoder α) (default : α) :
    Decoded α :=
  match fields.find? name with
  | some scan => decode scan
  | none => .ok default

end Records

/-- Decodes a whole text: a value and nothing after it but space. -/
def wholeText {α : Type} (decode : Decoder α) (text : String) : Decoded α := do
  let found := Json.scanText text.toList
  let value ← decode found.scan
  match found.rest with
  | none => refuse .malformed
  | some rest => if (Json.skipSpace rest).isEmpty then return value else refuse .malformed

def json (text : String) : Decoded Json := wholeText (anything 0) text

end CodeReview.Decode
