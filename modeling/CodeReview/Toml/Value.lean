/-!
TOML values, and the rules by which the parts of a document come together in one table. A table that was
only named on the way to another one is open: its own header may still come, once. A table made by a dotted
key is closed to headers, and only dotted keys of the same part may add to it.
-/

namespace CodeReview

inductive TableOrigin
  /-- By its own header. -/
  | defined
  /-- Between braces, where all of it stands. -/
  | braced
  /-- On the way of a header. -/
  | named
  /-- By a dotted key. -/
  | dotted
  deriving DecidableEq, Repr

inductive Toml
  | text (value : String)
  | integer (value : Int)
  | real
  | flag (value : Bool)
  | moment
  | list (items : List Toml)
  | table (origin : TableOrigin) (members : List (String × Toml))
  /-- Tables under one double header, last one first. -/
  | tables (items : List (List (String × Toml)))
  deriving Repr

namespace Toml

abbrev Members := List (String × Toml)

def lookup (key : String) : Members → Option Toml
  | [] => none
  | (k, value) :: rest => if k == key then some value else lookup key rest

def replace (key : String) (value : Toml) : Members → Members
  | [] => [(key, value)]
  | (k, old) :: rest => if k == key then (k, value) :: rest else (k, old) :: replace key value rest

section Dotted

def addValue (members : Members) (value : Toml) : (key : List String) → Option Members
  | [] => none
  | [key] => if (lookup key members).isSome then none else some (members ++ [(key, value)])
  | key :: more =>
      match lookup key members with
      | none => do
          let inner ← addValue [] value more
          return members ++ [(key, .table .dotted inner)]
      | some (.table .dotted inner) => do
          let inner ← addValue inner value more
          return replace key (.table .dotted inner) members
      | some (.table .named inner) =>
          match more with
          | [_] => none
          | _ => do
              let inner ← addValue inner value more
              return replace key (.table .named inner) members
      | some _ => none

end Dotted

section Headers

def changeAt (members : Members) (change : Members → Option Members) :
    (way : List String) → Option Members
  | [] => change members
  | key :: more =>
      match lookup key members with
      | none => do
          let inner ← changeAt [] change more
          return members ++ [(key, .table .named inner)]
      | some (.table .braced _) => none
      | some (.table origin inner) => do
          let inner ← changeAt inner change more
          return replace key (.table origin inner) members
      | some (.tables (last :: before)) => do
          let inner ← changeAt last change more
          return replace key (.tables (inner :: before)) members
      | some _ => none

/-- Opens the table of a header, which keeps what earlier headers put below it. -/
def openTable (key : String) (members : Members) : Option Members :=
  match lookup key members with
  | none => some (members ++ [(key, .table .defined [])])
  | some (.table .named inner) => some (replace key (.table .defined inner) members)
  | some _ => none

def openNext (key : String) (members : Members) : Option Members :=
  match lookup key members with
  | none => some (members ++ [(key, .tables [[]])])
  | some (.tables items) => some (replace key (.tables ([] :: items)) members)
  | some _ => none

/-- Adds a value under a dotted key to the table that was opened last. -/
def addBelow (members : Members) (way key : List String) (value : Toml) : Option Members :=
  changeAt members (fun inner => addValue inner value key) way

end Headers

end Toml

end CodeReview
