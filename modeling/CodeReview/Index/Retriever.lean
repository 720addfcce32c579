import CodeReview.Index.Directory
import CodeReview.Index.Slot
import CodeReview.Model.Provider
import CodeReview.Review.Outcome
import CodeReview.Text.Quoted

/-!
Finding documents for a review. The store is loaded from its directory at the first use and then served
from the slot until another one is published. A missing index and a provider that does not embed the query
are no errors: the review goes on without context.
-/

namespace CodeReview

structure Retriever where
  directory : String
  provider : Provider

namespace Retriever

def describe (r : Retriever) (slot : Slot) : String :=
  "Retriever \x7b index_dir: " ++ Text.quoted r.directory ++ ", provider: " ++
    Text.quoted r.provider.name ++ ", published: " ++ toString slot.isPublished ++ " \x7d"

def reload (r : Retriever) (files : Files) (slot : Slot) : Slot × Except Failure Store :=
  match Store.load r.directory.toList files with
  | .ok store => (slot.publish store, .ok store)
  | .error e => (slot, .error (.index e))

def current (r : Retriever) (files : Files) (slot : Slot) : Slot × Except Failure Store :=
  match slot.store? with
  | some store => (slot, .ok store)
  | none => r.reload files slot

def nearest (r : Retriever) (store : Store) (query : String) (k : Nat) :
    Asked (Except Failure (Outcome (List Document))) :=
  if store.isEmpty || k == 0 then pure (.ok (.success []))
  else do
    match ← r.provider.askEmbed [query] with
    | .error failure => return .ok (.degraded failure.message)
    | .ok [vector] =>
        match store.search vector k (some r.provider.embedderId) with
        | .error e => return .error (.index e)
        | .ok hits => return .ok (.success (hits.map Store.Hit.document))
    | .ok vectors =>
        return .ok (.degraded ("Provider returned " ++ toString vectors.length ++
          " embeddings for one query"))

def retrieve (r : Retriever) (files : Files) (slot : Slot) (query : String) (k : Nat) :
    Asked (Slot × Except Failure (Outcome (List Document))) := do
  match r.current files slot with
  | (slot, .ok store) =>
      let result ← r.nearest store query k
      return (slot, result)
  | (slot, .error (.index e)) =>
      if e.isNotFound then return (slot, .ok (.degraded e.message))
      else return (slot, .error (.index e))
  | (slot, .error failure) => return (slot, .error failure)

end Retriever

end CodeReview
