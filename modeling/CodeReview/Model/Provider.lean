import CodeReview.Decimal.Single
import CodeReview.Failure

/-!
Providers of a model: they answer prompts and turn texts into vectors. A provider is known by its answers
alone, which may be anything. Every call made to one is recorded, in order.
-/

namespace CodeReview

inductive Reply
  | answer (text : String)
  | failed (failure : Failure)
  /-- No answer comes, ever. -/
  | stalled
  deriving DecidableEq, Repr

structure Provider where
  name : String
  /-- The model that answers prompts. -/
  model : String
  /-- The name of the embeddings, which are only comparable with those of the same name. -/
  embedderId : String
  review : String → Reply
  tests : String → Reply
  embed : List String → Except Failure (List Vector32)

inductive Call
  | review (prompt : String)
  | tests (prompt : String)
  | embed (texts : List String)
  deriving DecidableEq, Repr

/-- A value and the calls made on the way to it. -/
structure Asked (α : Type) where
  value : α
  calls : List Call := []

namespace Asked

instance : Monad Asked where
  pure a := { value := a }
  bind x f :=
    let y := f x.value
    { value := y.value, calls := x.calls ++ y.calls }

end Asked

namespace Provider

/-- The answer to a prompt, waited for at most some seconds. -/
def awaited (seconds : Nat) : Reply → Except Failure String
  | .answer text => .ok text
  | .failed failure => .error failure
  | .stalled => .error (.timeout seconds)

def askReview (p : Provider) (seconds : Nat) (prompt : String) : Asked (Except Failure String) :=
  { value := awaited seconds (p.review prompt), calls := [.review prompt] }

def askTests (p : Provider) (seconds : Nat) (prompt : String) : Asked (Except Failure String) :=
  { value := awaited seconds (p.tests prompt), calls := [.tests prompt] }

def embedCall (answer : List String → Except Failure (List Vector32)) (texts : List String) :
    Asked (Except Failure (List Vector32)) :=
  { value := answer texts, calls := [.embed texts] }

def askEmbed (p : Provider) (texts : List String) : Asked (Except Failure (List Vector32)) :=
  embedCall p.embed texts

end Provider

end CodeReview
