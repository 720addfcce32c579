import CodeReview.Decimal.Double

/-!
JSON values. Whole numbers that fit sixty-four bits are kept as integers; all others are doubles.
Members of an object keep the order in which they stand.
-/

namespace CodeReview

def wordLimit : Nat := 0x10000000000000000

inductive Json
  | null
  | bool (value : Bool)
  | integer (value : Int)
  | double (value : Decimal.Double)
  | text (value : String)
  | list (items : List Json)
  | object (members : List (String × Json))
  deriving BEq, Repr

namespace Json

def ofText? : Option String → Json
  | some s => .text s
  | none => .null

def ofNat (n : Nat) : Json := .integer n

def texts (items : List String) : Json := .list (items.map .text)

def member? (name : String) : Json → Option Json
  | .object members => (members.find? fun m => m.1 == name).map (·.2)
  | _ => none

def asText? : Json → Option String
  | .text s => some s
  | _ => none

def asInt? : Json → Option Int
  | .integer n => some n
  | _ => none

def asBool? : Json → Option Bool
  | .bool b => some b
  | _ => none

def asList? : Json → Option (List Json)
  | .list items => some items
  | _ => none

end Json

end CodeReview
