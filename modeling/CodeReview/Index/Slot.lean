import CodeReview.Index.Store

/-!
The slot that holds the published store. Every publication is numbered, so that one who kept what was
published can tell whether it still is.
-/

namespace CodeReview

structure Publication where
  number : Nat
  store : Store
  deriving BEq, Repr

structure Slot where
  current : Option Publication := none
  /-- How often a store was published. -/
  count : Nat := 0
  deriving BEq, Repr

namespace Slot

def store? (slot : Slot) : Option Store := slot.current.map Publication.store

def isPublished (slot : Slot) : Bool := slot.current.isSome

def publish (slot : Slot) (store : Store) : Slot :=
  { current := some { number := slot.count + 1, store }, count := slot.count + 1 }

/-- Whether what was taken from the slot earlier is what it holds. -/
def holds (slot : Slot) (taken : Option Publication) : Bool :=
  taken.map Publication.number == slot.current.map Publication.number

end Slot

end CodeReview
