import CodeReview.Decimal.Double
import CodeReview.Text.Blank
import CodeReview.Text.LetterCase

/-!
Coverage goals: named percentages that the tests of a file should reach.
-/

namespace CodeReview

inductive CoverageGoal
  | smoke
  | basic
  | strong
  | max
  deriving DecidableEq, Repr

namespace CoverageGoal

def name : CoverageGoal → String
  | .smoke => "smoke"
  | .basic => "basic"
  | .strong => "strong"
  | .max => "max"

def ofName? : String → Option CoverageGoal
  | "smoke" => some .smoke
  | "basic" => some .basic
  | "strong" => some .strong
  | "max" => some .max
  | _ => none

def normalName (name : String) : String := Text.lowerCase (Text.trimmed name)

def parse? (name : String) : Option CoverageGoal := ofName? (normalName name)

def unknownMessage (name : String) : String := "Unknown coverage goal: " ++ normalName name

def floor : CoverageGoal → Nat
  | .smoke => 25
  | .basic => 50
  | .strong => 80
  | .max => 95

def isMet (g : CoverageGoal) (percent : Decimal.Double) : Bool :=
  (Decimal.Double.ofNat g.floor).toFloat ≤ percent.toFloat

end CoverageGoal

end CodeReview
