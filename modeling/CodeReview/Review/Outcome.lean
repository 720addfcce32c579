/-!
Answers of steps that a review can do without. A degraded answer says why, and whoever needs a value goes
on with an empty one.
-/

namespace CodeReview

inductive Outcome (α : Type)
  | success (value : α)
  | degraded (reason : String)
  deriving BEq, DecidableEq, Repr

namespace Outcome

variable {α β : Type}

def isDegraded : Outcome α → Bool
  | .success _ => false
  | .degraded _ => true

def reason? : Outcome α → Option String
  | .success _ => none
  | .degraded reason => some reason

def value? : Outcome α → Option α
  | .success value => some value
  | .degraded _ => none

def map (f : α → β) : Outcome α → Outcome β
  | .success value => .success (f value)
  | .degraded reason => .degraded reason

def getD (o : Outcome α) (default : α) : α := o.value?.getD default

end Outcome

end CodeReview
