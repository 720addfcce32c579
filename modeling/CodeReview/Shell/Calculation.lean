/-!
Whole numbers calculated from text: sums, products, comparisons and parentheses. A name stands for the
number it is set to, and for zero when it is not set.
-/

namespace CodeReview.Shell.Calculation

abbrev Step := Option (Int × List Char)

def skipBlanks (cs : List Char) : List Char := cs.dropWhile fun c => c == ' ' || c == '\t' || c == '\n'

def digitsValue (cs : List Char) : Int := cs.foldl (fun n c => n * 10 + ((c.toNat - 48 : Nat) : Int)) 0

def isNameChar (c : Char) : Bool := c.isAlphanum || c == '_'

abbrev Operators := List (List Char × (Int → Int → Option Int))

def truth (b : Bool) : Int := if b then 1 else 0

/-- From the weakest to the strongest. Division goes towards zero. -/
def levels : List Operators :=
  [[("==".toList, fun a b => some (truth (a == b))), ("!=".toList, fun a b => some (truth (a != b)))],
    [("<=".toList, fun a b => some (truth (a ≤ b))), (">=".toList, fun a b => some (truth (b ≤ a))),
      (['<'], fun a b => some (truth (a < b))), (['>'], fun a b => some (truth (b < a)))],
    [(['+'], fun a b => some (a + b)), (['-'], fun a b => some (a - b))],
    [(['*'], fun a b => some (a * b)),
      (['/'], fun a b => if b = 0 then none else some (a.tdiv b)),
      (['%'], fun a b => if b = 0 then none else some (a.tmod b))]]

def operator? (ops : Operators) (cs : List Char) :
    Option ((Int → Int → Option Int) × List Char) :=
  ops.findSome? fun (symbol, f) =>
    if symbol.isPrefixOf cs then some (f, cs.drop symbol.length) else none

mutual

def atom (fuel : Nat) (value : List Char → Int) (cs : List Char) : Step :=
  match fuel with
  | 0 => none
  | n + 1 =>
      match skipBlanks cs with
      | '(' :: rest => do
          let (x, rest) ← level n value levels rest
          match skipBlanks rest with
          | ')' :: rest => some (x, rest)
          | _ => none
      | '-' :: rest => do
          let (x, rest) ← atom n value rest
          some (-x, rest)
      | '+' :: rest => atom n value rest
      | cs =>
          match cs.span isNameChar with
          | ([], _) => none
          | (word, rest) =>
              some (if word.all Char.isDigit then digitsValue word else value word, rest)

def level (fuel : Nat) (value : List Char → Int) (left : List Operators) (cs : List Char) : Step :=
  match fuel with
  | 0 => none
  | n + 1 =>
      match left with
      | [] => atom n value cs
      | ops :: stronger => do
          let (x, rest) ← level n value stronger cs
          chain n value ops stronger x rest

def chain (fuel : Nat) (value : List Char → Int) (ops : Operators) (stronger : List Operators) (x : Int)
    (cs : List Char) : Step :=
  match fuel with
  | 0 => none
  | n + 1 =>
      match operator? ops (skipBlanks cs) with
      | none => some (x, cs)
      | some (f, rest) => do
          let (y, rest) ← level n value stronger rest
          chain n value ops stronger (← f x y) rest

end

def evaluate? (value : List Char → Int) (cs : List Char) : Option Int :=
  match level (8 * cs.length + 16) value levels cs with
  | some (x, rest) => if (skipBlanks rest).isEmpty then some x else none
  | none => none

end CodeReview.Shell.Calculation
