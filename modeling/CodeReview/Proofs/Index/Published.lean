import CodeReview.Proofs.Index.Built
import CodeReview.Proofs.Index.RoundTrip
import Mathlib.Data.List.Induction

/-!
The published store over the life of a service. Four operations have to do with the slot: a retrieval, a
reload, a publication and the building of an index, each with whatever files it finds and whatever the
provider answers meanwhile. Which store an operation gives the slot, if any, is said by a relation with a
case for each of them, and the slot is found to hold what the latest of them gave. Another relation says
what a retrieval ends in, with a case for each of its ends in the order in which they are tried.
-/

namespace CodeReview

open Artifact

theorem asked_bind_calls {α β : Type} (x : Asked α) (f : α → Asked β) :
    (x >>= f).calls = x.calls ++ (f x.value).calls := rfl

section Loading

variable (directory : List Char) (files : Files)

theorem load_present (present : files.hasIndex directory = true) :
    (∃ path damage, Store.load directory files = .error (.corrupt path damage)) ∨
      ∃ store, Store.load directory files = .ok store := by
  rcases load_cases directory files with ⟨missing, -⟩ | ⟨index, sidecar, -, -, loaded⟩
  · cases missing.symm.trans present
  · rw [loaded]
    rcases restored_valid directory index sidecar with damaged | ⟨store, restored, -⟩
    · exact .inl damaged
    · exact .inr ⟨store, restored⟩

end Loading

section Reloading

variable (r : Retriever) (files : Files) (slot : Slot)

theorem reload_ok (store : Store) (loaded : Store.load r.directory.toList files = .ok store) :
    r.reload files slot = (slot.publish store, .ok store) := by
  unfold Retriever.reload
  rw [loaded]

theorem reload_error (e : IndexError) (failed : Store.load r.directory.toList files = .error e) :
    r.reload files slot = (slot, .error (.index e)) := by
  unfold Retriever.reload
  rw [failed]

theorem current_none (held : slot.store? = none) : r.current files slot = r.reload files slot := by
  rw [Retriever.current, held]

end Reloading

section Answering

inductive Consulted (p : Provider) (store : Store) (query : String) (k : Nat) :
    List Call → Except Failure (Outcome (List Document)) → Prop
  | idle : store.size = 0 ∨ k = 0 → Consulted p store query k [] (.ok (.success []))
  | refused (failure : Failure) : 0 < store.size → 0 < k → p.embed [query] = .error failure →
      Consulted p store query k [.embed [query]] (.ok (.degraded failure.message))
  | miscounted (vectors : List Vector32) : 0 < store.size → 0 < k → p.embed [query] = .ok vectors →
      vectors.length ≠ 1 →
      Consulted p store query k [.embed [query]]
        (.ok (.degraded ("Provider returned " ++ toString vectors.length ++
          " embeddings for one query")))
  | otherDimension (vector : Vector32) : 0 < store.size → 0 < k → p.embed [query] = .ok [vector] →
      vector.length ≠ store.dim →
      Consulted p store query k [.embed [query]]
        (.error (.index (.dimensionMismatch vector.length store.dim)))
  | otherEmbedder (vector : Vector32) (tag : String) : 0 < store.size → 0 < k →
      p.embed [query] = .ok [vector] → vector.length = store.dim → store.embedder = some tag →
      p.embedderId ≠ "" → p.embedderId ≠ tag →
      Consulted p store query k [.embed [query]]
        (.error (.index (.embedderMismatch p.embedderId tag)))
  | found (vector : Vector32) (hits : List Store.Hit) : 0 < store.size → 0 < k →
      p.embed [query] = .ok [vector] → vector.length = store.dim →
      (∀ tag, store.embedder = some tag → p.embedderId = "" ∨ p.embedderId = tag) →
      store.search vector k (some p.embedderId) = .ok hits →
      Consulted p store query k [.embed [query]] (.ok (.success (hits.map Store.Hit.document)))

/-- What a retrieval ends in, and what the provider is asked for it. A store is loaded only for a slot that
holds none. -/
inductive Answered (r : Retriever) (files : Files) (slot : Slot) (query : String) (k : Nat) :
    List Call → Except Failure (Outcome (List Document)) → Prop
  | missing : slot.store? = none → files.hasIndex r.directory.toList = false →
      Answered r files slot query k []
        (.ok (.degraded (IndexError.notFound r.directory).message))
  | unloadable (e : IndexError) : slot.store? = none → files.hasIndex r.directory.toList = true →
      Store.load r.directory.toList files = .error e →
      Answered r files slot query k [] (.error (.index e))
  | loaded (store : Store) (calls : List Call) (answer : Except Failure (Outcome (List Document))) :
      slot.store? = none → Store.load r.directory.toList files = .ok store →
      Consulted r.provider store query k calls answer → Answered r files slot query k calls answer
  | published (store : Store) (calls : List Call) (answer : Except Failure (Outcome (List Document))) :
      slot.store? = some store → Consulted r.provider store query k calls answer →
      Answered r files slot query k calls answer

theorem known_name_cases (name : String) :
    (name = "" ∧ Store.knownName (some name) = none) ∨
      (name ≠ "" ∧ Store.knownName (some name) = some name) := by
  by_cases empty : name = ""
  · exact .inl ⟨empty, by rw [empty]; rfl⟩
  · exact .inr ⟨empty, Store.known_name_kept (some name) fun same => empty (Option.some.inj same)⟩

theorem conflict_cases (store : Store) (name : String) :
    (∃ tag, store.embedder = some tag ∧ name ≠ "" ∧ name ≠ tag ∧
      store.conflict? (some name) = some (.embedderMismatch name tag)) ∨
      ((∀ tag, store.embedder = some tag → name = "" ∨ name = tag) ∧
        store.conflict? (some name) = none) := by
  unfold Store.conflict?
  rcases known_name_cases name with ⟨empty, known⟩ | ⟨filled, known⟩
  · rw [known]
    exact .inr ⟨fun _ _ => .inl empty, rfl⟩
  · rw [known]
    cases tagged : store.embedder with
    | none => exact .inr ⟨nofun, rfl⟩
    | some tag =>
        by_cases same : name = tag
        · refine .inr ⟨fun other this => .inr (same.trans (Option.some.inj this)), ?_⟩
          simp [same]
        · exact .inl ⟨tag, rfl, filled, same, by simp [same]⟩

theorem search_cases (store : Store) (vector : Vector32) (k : Nat) (name : String)
    (some_ : 0 < store.size) :
    (vector.length ≠ store.dim ∧ store.search vector k (some name) =
        .error (.dimensionMismatch vector.length store.dim)) ∨
      (vector.length = store.dim ∧ ∃ tag, store.embedder = some tag ∧ name ≠ "" ∧ name ≠ tag ∧
        store.search vector k (some name) = .error (.embedderMismatch name tag)) ∨
      (vector.length = store.dim ∧ (∀ tag, store.embedder = some tag → name = "" ∨ name = tag) ∧
        store.search vector k (some name) =
          .ok (((store.scored vector).mergeSort Store.Hit.isBefore).take k)) := by
  have filled : ¬ store.isEmpty = true := fun none =>
    Nat.ne_of_gt some_ (List.length_eq_zero_iff.mpr (List.isEmpty_iff.mp none))
  unfold Store.search
  rw [if_neg filled]
  by_cases fits : vector.length = store.dim
  · rw [if_neg (Decidable.not_not.mpr fits)]
    rcases conflict_cases store name with ⟨tag, tagged, known, other, conflict⟩ | ⟨agrees, conflict⟩
    · rw [conflict]
      exact .inr (.inl ⟨fits, tag, tagged, known, other, rfl⟩)
    · rw [conflict]
      exact .inr (.inr ⟨fits, agrees, rfl⟩)
  · rw [if_pos fits]
    exact .inl ⟨fits, rfl⟩

theorem search_ranked (store : Store) (vector : Vector32) (k : Nat) (name : Option String)
    (hits : List Store.Hit) (searched : store.search vector k name = .ok hits) :
    hits.Pairwise fun a b => a.isBefore b = true := by
  have sorted : ((store.scored vector).mergeSort Store.Hit.isBefore).Pairwise
      fun a b => a.isBefore b = true := by
    apply List.pairwise_mergeSort
    · intro a b c first second
      simp only [Store.Hit.isBefore, decide_eq_true_eq] at first second ⊢
      exact first.trans second
    · intro a b
      simpa [Store.Hit.isBefore] using Nat.le_total a.distance.orderKey b.distance.orderKey
  unfold Store.search at searched
  split at searched
  · cases searched
    exact List.Pairwise.nil
  split at searched
  · cases searched
  split at searched
  · cases searched
  · cases searched
    exact sorted.sublist (List.take_sublist k _)

variable (r : Retriever) (store : Store) (query : String) (k : Nat)

theorem nearest_idle (idle : store.size = 0 ∨ k = 0) :
    r.nearest store query k = pure (.ok (.success [])) := by
  have none : (store.isEmpty || k == 0) = true := by
    rcases idle with empty | zero
    · rw [Store.isEmpty, List.isEmpty_iff.mpr (List.length_eq_zero_iff.mp empty), Bool.true_or]
    · rw [zero]
      exact Bool.or_true _
  rw [Retriever.nearest, if_pos none]

theorem nearest_busy (some_ : 0 < store.size) (more : 0 < k) :
    ¬ (store.isEmpty || k == 0) = true := by
  rw [Store.isEmpty, Bool.or_eq_true_iff, List.isEmpty_iff, beq_iff_eq]
  rintro (none | zero)
  · exact Nat.ne_of_gt some_ (List.length_eq_zero_iff.mpr none)
  · exact Nat.ne_of_gt more zero

theorem nearest_searched (vector : Vector32) (some_ : 0 < store.size) (more : 0 < k)
    (embedded : r.provider.embed [query] = .ok [vector]) :
    r.nearest store query k =
      { value := match store.search vector k (some r.provider.embedderId) with
          | .error e => .error (.index e)
          | .ok hits => .ok (.success (hits.map Store.Hit.document))
        calls := [.embed [query]] } := by
  rw [Retriever.nearest, if_neg (nearest_busy store k some_ more)]
  simp only [Provider.askEmbed, Provider.embedCall, bind, embedded]
  cases store.search vector k (some r.provider.embedderId) <;> rfl

theorem consulted_nearest (calls : List Call) (answer : Except Failure (Outcome (List Document)))
    (consulted : Consulted r.provider store query k calls answer) :
    r.nearest store query k = { value := answer, calls } := by
  cases consulted with
  | idle idle => exact nearest_idle r store query k idle
  | refused failure some_ more embedded =>
      rw [Retriever.nearest, if_neg (nearest_busy store k some_ more)]
      simp only [Provider.askEmbed, Provider.embedCall, bind, embedded]
      rfl
  | miscounted vectors some_ more embedded count =>
      rw [Retriever.nearest, if_neg (nearest_busy store k some_ more)]
      simp only [Provider.askEmbed, Provider.embedCall, bind, embedded]
      rcases vectors with _ | ⟨first, _ | ⟨second, more⟩⟩
      · rfl
      · exact absurd rfl count
      · rfl
  | otherDimension vector some_ more embedded misfit =>
      rw [nearest_searched r store query k vector some_ more embedded]
      rcases search_cases store vector k r.provider.embedderId some_ with
        ⟨-, searched⟩ | ⟨fits, -⟩ | ⟨fits, -⟩
      · rw [searched]
      · exact absurd fits misfit
      · exact absurd fits misfit
  | otherEmbedder vector tag some_ more embedded fits tagged known other =>
      rw [nearest_searched r store query k vector some_ more embedded]
      rcases search_cases store vector k r.provider.embedderId some_ with
        ⟨misfit, -⟩ | ⟨-, tag', tagged', -, -, searched⟩ | ⟨-, agrees, -⟩
      · exact absurd fits misfit
      · cases tagged.symm.trans tagged'
        rw [searched]
      · exact ((agrees tag tagged).elim known other).elim
  | found vector hits some_ more embedded fits agrees searched =>
      rw [nearest_searched r store query k vector some_ more embedded, searched]

theorem nearest_consulted :
    Consulted r.provider store query k (r.nearest store query k).calls
      (r.nearest store query k).value := by
  by_cases idle : store.size = 0 ∨ k = 0
  · rw [nearest_idle r store query k idle]
    exact .idle idle
  obtain ⟨some_, more⟩ : 0 < store.size ∧ 0 < k := by omega
  cases embedded : r.provider.embed [query] with
  | error failure =>
      have refused := Consulted.refused (p := r.provider) failure some_ more embedded
      rw [consulted_nearest r store query k _ _ refused]
      exact refused
  | ok vectors =>
      by_cases count : vectors.length = 1
      · obtain ⟨vector, rfl⟩ := List.length_eq_one_iff.mp count
        rw [nearest_searched r store query k vector some_ more embedded]
        rcases search_cases store vector k r.provider.embedderId some_ with
          ⟨misfit, searched⟩ | ⟨fits, tag, tagged, known, other, searched⟩ | ⟨fits, agrees, searched⟩
        · rw [searched]
          exact .otherDimension vector some_ more embedded misfit
        · rw [searched]
          exact .otherEmbedder vector tag some_ more embedded fits tagged known other
        · rw [searched]
          exact .found vector _ some_ more embedded fits agrees searched
      · have miscounted := Consulted.miscounted (p := r.provider) vectors some_ more embedded count
        rw [consulted_nearest r store query k _ _ miscounted]
        exact miscounted

variable (files : Files) (slot : Slot)

theorem retrieve_current (slot' : Slot) (current : r.current files slot = (slot', .ok store)) :
    r.retrieve files slot query k =
      { value := (slot', (r.nearest store query k).value), calls := (r.nearest store query k).calls } := by
  rw [Retriever.retrieve, current]
  simp only [bind, pure, List.append_nil]

theorem retrieve_published (held : slot.store? = some store) :
    r.retrieve files slot query k =
      { value := (slot, (r.nearest store query k).value), calls := (r.nearest store query k).calls } := by
  have current : r.current files slot = (slot, .ok store) := by rw [Retriever.current, held]
  exact retrieve_current r store query k files slot slot current

theorem retrieve_loaded (empty : slot.store? = none)
    (loaded : Store.load r.directory.toList files = .ok store) :
    r.retrieve files slot query k =
      { value := (slot.publish store, (r.nearest store query k).value)
        calls := (r.nearest store query k).calls } := by
  have current : r.current files slot = (slot.publish store, .ok store) := by
    rw [current_none r files slot empty, reload_ok r files slot store loaded]
  exact retrieve_current r store query k files slot _ current

theorem retrieve_unloaded (e : IndexError) (empty : slot.store? = none)
    (failed : Store.load r.directory.toList files = .error e) :
    r.retrieve files slot query k =
      { value := (slot, if e.isNotFound then .ok (.degraded e.message) else .error (.index e))
        calls := [] } := by
  rw [Retriever.retrieve, current_none r files slot empty, reload_error r files slot e failed]
  dsimp only
  split <;> rfl

theorem retrieve_missing (empty : slot.store? = none)
    (missing : files.hasIndex r.directory.toList = false) :
    r.retrieve files slot query k =
      { value := (slot, .ok (.degraded (IndexError.notFound r.directory).message)), calls := [] } := by
  have failed := load_missing r.directory.toList files missing
  rw [String.ofList_toList] at failed
  rw [retrieve_unloaded r query k files slot _ empty failed]
  rfl

theorem retrieve_unloadable (e : IndexError) (empty : slot.store? = none)
    (present : files.hasIndex r.directory.toList = true)
    (failed : Store.load r.directory.toList files = .error e) :
    r.retrieve files slot query k = { value := (slot, .error (.index e)), calls := [] } := by
  rw [retrieve_unloaded r query k files slot e empty failed]
  rcases load_present r.directory.toList files present with ⟨path, damage, loaded⟩ | ⟨store, loaded⟩
  · cases loaded.symm.trans failed
    rfl
  · cases loaded.symm.trans failed

theorem retrieve_answered :
    Answered r files slot query k (r.retrieve files slot query k).calls
      (r.retrieve files slot query k).value.2 := by
  cases held : slot.store? with
  | some store =>
      rw [retrieve_published r store query k files slot held]
      exact .published store _ _ held (nearest_consulted r store query k)
  | none =>
      by_cases present : files.hasIndex r.directory.toList = true
      · cases loaded : Store.load r.directory.toList files with
        | ok store =>
            rw [retrieve_loaded r store query k files slot held loaded]
            exact .loaded store _ _ held loaded (nearest_consulted r store query k)
        | error e =>
            rw [retrieve_unloadable r query k files slot e held present loaded]
            exact .unloadable e held present loaded
      · have missing : files.hasIndex r.directory.toList = false := Bool.eq_false_iff.mpr present
        rw [retrieve_missing r query k files slot held missing]
        exact .missing held missing

theorem answered_retrieve (calls : List Call) (answer : Except Failure (Outcome (List Document)))
    (answered : Answered r files slot query k calls answer) :
    (r.retrieve files slot query k).calls = calls ∧
      (r.retrieve files slot query k).value.2 = answer := by
  cases answered with
  | missing held missing =>
      rw [retrieve_missing r query k files slot held missing]
      exact ⟨rfl, rfl⟩
  | unloadable e held present failed =>
      rw [retrieve_unloadable r query k files slot e held present failed]
      exact ⟨rfl, rfl⟩
  | loaded store _ _ held loaded consulted =>
      rw [retrieve_loaded r store query k files slot held loaded,
        consulted_nearest r store query k calls answer consulted]
      exact ⟨rfl, rfl⟩
  | published store _ _ held consulted =>
      rw [retrieve_published r store query k files slot held,
        consulted_nearest r store query k calls answer consulted]
      exact ⟨rfl, rfl⟩

end Answering

inductive Operation
  | retrieve (query : String) (k : Nat)
  | reload
  | publish (store : Store)
  | buildIndex (root : String)

/-- An operation with the files that it finds and the embeddings that the provider gives meanwhile. -/
structure Occasion where
  operation : Operation
  files : Files
  embed : List String → Except Failure (List Vector32)

namespace Engine

def answering (e : Engine) (embed : List String → Except Failure (List Vector32)) : Engine :=
  { e with provider := { e.provider with embed } }

def carryOut (e : Engine) (operation : Operation) (s : Session) : Session × Except Failure Unit :=
  match operation with
  | .retrieve query k =>
      ((e.retrieve query k s).value.1, (e.retrieve query k s).value.2.map fun _ => ())
  | .reload => ((e.reload s).1, (e.reload s).2.map fun _ => ())
  | .publish store => ({ s with slot := s.slot.publish store }, .ok ())
  | .buildIndex root =>
      ((e.buildIndex root s).value.1, (e.buildIndex root s).value.2.map fun _ => ())

/-- The session that an operation finds a slot in. -/
def found (slot : Slot) (occasion : Occasion) : Session := { files := occasion.files, slot }

def perform (e : Engine) (slot : Slot) (occasion : Occasion) : Session × Except Failure Unit :=
  (e.answering occasion.embed).carryOut occasion.operation (found slot occasion)

def history (e : Engine) (occasions : List Occasion) : Slot :=
  occasions.foldl (fun slot occasion => (e.perform slot occasion).1.slot) {}

/-- The store that an operation gives to a slot that holds some store or none. -/
inductive Gives (e : Engine) (held : Option Store) (occasion : Occasion) : Store → Prop
  | published (store : Store) : occasion.operation = .publish store → Gives e held occasion store
  | reloaded (store : Store) : occasion.operation = .reload →
      Store.load e.settings.retrieval.indexDir.toList occasion.files = .ok store →
      Gives e held occasion store
  | built (root : String) (store : Store) (stats : IndexBuild.Stats) :
      occasion.operation = .buildIndex root →
      (IndexBuild.build (e.answering occasion.embed).provider e.settings.retrieval root
        occasion.files).value.2 = .ok (store, stats) →
      Gives e held occasion store
  | firstUse (query : String) (k : Nat) (store : Store) : occasion.operation = .retrieve query k →
      held = none → Store.load e.settings.retrieval.indexDir.toList occasion.files = .ok store →
      Gives e held occasion store

section Operations

variable (e : Engine) (s : Session)

theorem retrieve_session (query : String) (k : Nat) :
    (e.retrieve query k s).value =
      ({ s with slot := (e.retriever.retrieve s.files s.slot query k).value.1 },
        (e.retriever.retrieve s.files s.slot query k).value.2) := by
  unfold Engine.retrieve
  rw [asked_bind_value]
  -- the pair is opened as a variable, since its value would be computed otherwise
  generalize (e.retriever.retrieve s.files s.slot query k).value = ended
  cases ended
  rfl

theorem retrieve_session_calls (query : String) (k : Nat) :
    (e.retrieve query k s).calls = (e.retriever.retrieve s.files s.slot query k).calls := by
  unfold Engine.retrieve
  rw [asked_bind_calls]
  generalize (e.retriever.retrieve s.files s.slot query k).value = ended
  cases ended
  exact List.append_nil _

theorem reload_session :
    e.reload s =
      ({ s with slot := (e.retriever.reload s.files s.slot).1 },
        (e.retriever.reload s.files s.slot).2) := by
  unfold Engine.reload
  generalize e.retriever.reload s.files s.slot = ended
  cases ended
  rfl

theorem build_index_ok (root : String) (store : Store) (stats : IndexBuild.Stats)
    (built : (IndexBuild.build e.provider e.settings.retrieval root s.files).value.2 =
      .ok (store, stats)) :
    (e.buildIndex root s).value =
      ({ s with
          files := (IndexBuild.build e.provider e.settings.retrieval root s.files).value.1
          slot := s.slot.publish store }, .ok stats) := by
  unfold Engine.buildIndex Engine.buildIndexFrom
  rw [asked_bind_value]
  unfold IndexBuild.build at built ⊢
  generalize (IndexBuild.buildFrom e.provider.embedderId (fun _ => e.provider.embed)
    e.settings.retrieval root s.files).value = ended at built ⊢
  obtain ⟨files, answer⟩ := ended
  cases built
  rfl

end Operations

section Steps

variable (e : Engine) (slot : Slot) (occasion : Occasion)

/-- A store that is given is published, and but for a retrieval that is all there is to it. -/
theorem perform_gives (store : Store) (gives : Gives e slot.store? occasion store) :
    (e.perform slot occasion).1.slot = slot.publish store ∧
      ((∀ query k, occasion.operation ≠ .retrieve query k) → (e.perform slot occasion).2 = .ok ()) := by
  unfold perform
  cases gives with
  | published _ operation =>
      rw [operation]
      exact ⟨rfl, fun _ => rfl⟩
  | reloaded _ operation loaded =>
      have reloaded := reload_ok (e.answering occasion.embed).retriever occasion.files slot store loaded
      rw [operation, carryOut, reload_session]
      exact ⟨congrArg Prod.fst reloaded, fun _ => congrArg (fun x => x.2.map fun _ => ()) reloaded⟩
  | built root _ stats operation built =>
      rw [operation, carryOut]
      rw [build_index_ok (e.answering occasion.embed) (found slot occasion) root store stats built]
      exact ⟨rfl, fun _ => rfl⟩
  | firstUse query k _ operation held loaded =>
      rw [operation, carryOut, retrieve_session]
      have retrieved := retrieve_loaded (e.answering occasion.embed).retriever store query k
        occasion.files slot held loaded
      exact ⟨congrArg (fun asked => asked.value.1) retrieved, fun other => absurd rfl (other query k)⟩

/-- An operation that gives no store leaves the slot as it was. -/
theorem perform_keeps (none : ∀ store, ¬ Gives e slot.store? occasion store) :
    (e.perform slot occasion).1.slot = slot := by
  unfold perform
  cases operation : occasion.operation with
  | retrieve query k =>
      rw [carryOut, retrieve_session]
      cases held : slot.store? with
      | some store =>
          exact congrArg (fun asked => asked.value.1) (retrieve_published
            (e.answering occasion.embed).retriever store query k occasion.files slot held)
      | none =>
          cases loaded : Store.load e.settings.retrieval.indexDir.toList occasion.files with
          | ok store => exact absurd (.firstUse query k store operation held loaded) (none store)
          | error failure =>
              exact congrArg (fun asked => asked.value.1) (retrieve_unloaded
                (e.answering occasion.embed).retriever query k occasion.files slot failure held loaded)
  | reload =>
      rw [carryOut, reload_session]
      cases loaded : Store.load e.settings.retrieval.indexDir.toList occasion.files with
      | ok store => exact absurd (.reloaded store operation loaded) (none store)
      | error refusal =>
          exact congrArg Prod.fst
            (reload_error (e.answering occasion.embed).retriever occasion.files slot refusal loaded)
  | publish store => exact absurd (.published store operation) (none store)
  | buildIndex root =>
      rw [carryOut]
      cases built : (IndexBuild.build (e.answering occasion.embed).provider e.settings.retrieval root
          occasion.files).value.2 with
      | ok given => exact absurd (.built root given.1 given.2 operation built) (none given.1)
      | error failure =>
          rw [IndexBuild.build_index_refused root (e.answering occasion.embed) (found slot occasion)
            failure _ (Prod.ext rfl built)]
          rfl

/-- An operation that fails leaves the slot as it was, unless it is a retrieval that had to load a store
first and came to fail with it. -/
theorem perform_failed (failure : Failure) (failed : (e.perform slot occasion).2 = .error failure) :
    (e.perform slot occasion).1.slot = slot ∨
      ∃ query k store, occasion.operation = .retrieve query k ∧ slot.store? = none ∧
        Store.load e.settings.retrieval.indexDir.toList occasion.files = .ok store ∧
        (e.perform slot occasion).1.slot = slot.publish store := by
  by_cases given : ∃ store, Gives e slot.store? occasion store
  · obtain ⟨store, gives⟩ := given
    obtain ⟨publishes, succeeds⟩ := perform_gives e slot occasion store gives
    cases gives with
    | firstUse query k _ operation held loaded =>
        exact .inr ⟨query, k, store, operation, held, loaded, publishes⟩
    | published _ operation | reloaded _ operation | built _ _ _ operation =>
        cases (succeeds fun query k => by rw [operation]; nofun).symm.trans failed
  · exact .inl (perform_keeps e slot occasion fun store gives => given ⟨store, gives⟩)

end Steps

section History

variable (e : Engine)

theorem history_more (occasions : List Occasion) (occasion : Occasion) :
    e.history (occasions ++ [occasion]) = (e.perform (e.history occasions) occasion).1.slot := by
  rw [history, List.foldl_append]
  rfl

theorem history_kept (store : Store) (before after : List Occasion)
    (held : (e.history before).store? = some store)
    (quiet : ∀ later ∈ after, ∀ other, ¬ Gives e (some store) later other) :
    e.history (before ++ after) = e.history before := by
  induction after generalizing before with
  | nil => rw [List.append_nil]
  | cons later rest ih =>
      have same : e.history (before ++ [later]) = e.history before := by
        rw [history_more]
        apply perform_keeps
        rw [held]
        exact quiet later List.mem_cons_self
      rw [← List.singleton_append, ← List.append_assoc, ih (before ++ [later]) (same ▸ held)
        fun occasion member => quiet occasion (List.mem_cons_of_mem later member), same]

/-- The store in the slot was given by one operation, and none of the later ones gave another. -/
theorem history_latest (occasions : List Occasion) (store : Store) :
    (e.history occasions).store? = some store ↔
      ∃ before occasion after, occasions = before ++ occasion :: after ∧
        Gives e (e.history before).store? occasion store ∧
        ∀ later ∈ after, ∀ other, ¬ Gives e (some store) later other := by
  constructor
  · intro held
    -- by the last operation: it gave the store, or else the store was there before it
    induction occasions using List.reverseRecOn with
    | nil => cases held
    | append_singleton occasions last ih =>
        by_cases given : ∃ other, Gives e (e.history occasions).store? last other
        · obtain ⟨other, gives⟩ := given
          rw [history_more, (perform_gives e _ last other gives).1] at held
          cases held
          exact ⟨occasions, last, [], rfl, gives, nofun⟩
        · have none : ∀ other, ¬ Gives e (e.history occasions).store? last other :=
            fun other gives => given ⟨other, gives⟩
          rw [history_more, perform_keeps e _ last none] at held
          obtain ⟨before, occasion, after, rfl, gives, quiet⟩ := ih held
          refine ⟨before, occasion, after ++ [last], by simp, gives, fun later member => ?_⟩
          rcases List.mem_append.mp member with earlier | final
          · exact quiet later earlier
          · rw [List.mem_singleton.mp final, ← held]
            exact none
  · rintro ⟨before, occasion, after, rfl, gives, quiet⟩
    have held : (e.history (before ++ [occasion])).store? = some store := by
      rw [history_more, (perform_gives e _ occasion store gives).1]
      rfl
    rw [← List.singleton_append, ← List.append_assoc, history_kept e store _ after held quiet, held]

theorem history_empty (occasions : List Occasion) :
    (e.history occasions).store? = none ↔
      ∀ occasion ∈ occasions, ∀ store, ¬ Gives e none occasion store := by
  induction occasions using List.reverseRecOn with
  | nil => exact ⟨fun _ => nofun, fun _ => rfl⟩
  | append_singleton occasions last ih =>
      rw [history_more]
      constructor
      · intro empty
        by_cases given : ∃ store, Gives e (e.history occasions).store? last store
        · obtain ⟨store, gives⟩ := given
          rw [(perform_gives e _ last store gives).1] at empty
          cases empty
        · have none : ∀ store, ¬ Gives e (e.history occasions).store? last store :=
            fun store gives => given ⟨store, gives⟩
          rw [perform_keeps e _ last none] at empty
          intro occasion member
          rcases List.mem_append.mp member with earlier | final
          · exact ih.mp empty occasion earlier
          · rw [List.mem_singleton.mp final, ← empty]
            exact none
      · intro quiet
        have before := ih.mpr fun occasion member => quiet occasion (List.mem_append_left [last] member)
        rw [perform_keeps e _ last (by rw [before]; exact quiet last (by simp)), before]

end History

section Published

variable (e : Engine)

/-- The relation says exactly what a retrieval ends in. -/
theorem retrieve_exact (query : String) (k : Nat) (s : Session) (calls : List Call)
    (answer : Except Failure (Outcome (List Document))) :
    Answered e.retriever s.files s.slot query k calls answer ↔
      (e.retrieve query k s).calls = calls ∧ (e.retrieve query k s).value.2 = answer := by
  rw [retrieve_session_calls, retrieve_session]
  constructor
  · exact answered_retrieve e.retriever query k s.files s.slot calls answer
  · rintro ⟨rfl, rfl⟩
    exact retrieve_answered e.retriever query k s.files s.slot

theorem filled_retrieve (slot : Slot) (store : Store) (filled : slot.store? = some store)
    (query : String) (k : Nat) (files others : Files) :
    e.retriever.retrieve files slot query k = e.retriever.retrieve others slot query k ∧
      (e.retriever.retrieve files slot query k).value.1 = slot := by
  rw [retrieve_published e.retriever store query k files slot filled,
    retrieve_published e.retriever store query k others slot filled]
  exact ⟨rfl, rfl⟩

/-- The slot of a service holds what the latest operation gave that gave a store, and nothing as long as
there was none. An operation that fails gives nothing, but a retrieval that fails may have loaded a store
before, which stays. With a store in the slot, retrievals leave the slot and the files alone; and what they
end in is one of the ends of the relation, each under its own condition, with the nearest documents first. -/
theorem published_history :
    (∀ occasions store, (e.history occasions).store? = some store ↔
      ∃ before occasion after, occasions = before ++ occasion :: after ∧
        Gives e (e.history before).store? occasion store ∧
        ∀ later ∈ after, ∀ other, ¬ Gives e (some store) later other) ∧
    (∀ occasions, (e.history occasions).store? = none ↔
      ∀ occasion ∈ occasions, ∀ store, ¬ Gives e none occasion store) ∧
    (∀ slot occasion failure, (e.perform slot occasion).2 = .error failure →
      (e.perform slot occasion).1.slot = slot ∨
        ∃ query k store, occasion.operation = .retrieve query k ∧ slot.store? = none ∧
          Store.load e.settings.retrieval.indexDir.toList occasion.files = .ok store ∧
          (e.perform slot occasion).1.slot = slot.publish store) ∧
    (∀ slot store, slot.store? = some store → ∀ query k files others,
      e.retriever.retrieve files slot query k = e.retriever.retrieve others slot query k ∧
        (e.retriever.retrieve files slot query k).value.1 = slot) ∧
    (∀ query k s calls answer, Answered e.retriever s.files s.slot query k calls answer ↔
      (e.retrieve query k s).calls = calls ∧ (e.retrieve query k s).value.2 = answer) ∧
    (∀ (store : Store) vector k name hits, store.search vector k name = .ok hits →
      hits.Pairwise fun a b => a.isBefore b = true) :=
  ⟨history_latest e, history_empty e, perform_failed e, filled_retrieve e, retrieve_exact e,
    search_ranked⟩

/-- A service whose index has one vector of one coordinate, and whose provider gives two. -/
def widened : Engine where
  settings := { retrieval := { indexDir := "d" } }
  provider :=
    { name := "m", model := "m", embedderId := "", review := fun _ => .stalled
      tests := fun _ => .stalled, embed := fun _ => .ok [[⟨0⟩, ⟨0⟩]] }
  sink := .discard
  machine := { start := fun _ _ _ => .error .notFound, clock := 0 }

def firstQuery : Occasion where
  operation := .retrieve "q" 1
  files :=
    { entries := [([['d']], .directory),
        ([['d'], indexFile], .file (header 1 1 ++ [0, 0, 0, 0])),
        ([['d'], sidecarFile], .file (Text.utf8 "[\x7b\"source\":\"a\"\x7d]".toList))] }
  embed := widened.provider.embed

theorem failed_retrieval_fills :
    (widened.perform {} firstQuery).2 = .error (.index (.dimensionMismatch 2 1)) ∧
      ({} : Slot).store?.map Store.size = none ∧
      (widened.perform {} firstQuery).1.slot.store?.map Store.size = some 1 := by
  decide +kernel

end Published

end Engine

end CodeReview
