import CodeReview.Engine.Service
import CodeReview.Proofs.Answer
import CodeReview.Proofs.Index.Invariant

/-!
What building an index puts into it. Texts are sent in batches and their vectors come back in batches, and
the store keeps both in one row each: the vector in a row is the one that was given for the text in it by the
call that sent it. That is an invariant of the batches sent so far, since each answer is checked to be as
long as its batch. When an answer cannot be used nothing is written and nothing is published.
-/

namespace CodeReview.IndexBuild

def passages (limit : Nat) (documents : List LoadedDocument) : List (String × String) :=
  documents.flatMap fun d => (Chunk.chunks limit d.text).map fun chunk => (d.source, String.ofList chunk)

def passageTexts (limit : Nat) (documents : List LoadedDocument) : List String :=
  (passages limit documents).map Prod.snd

/-- The text at a position and the vector at it stand at one place of a batch and of its answer. -/
structure Aligned (answers : Answers) (size : Nat) (texts : List String) (rows : List Vector32) :
    Prop where
  count : rows.length = texts.length
  row : ∀ i text, texts[i]? = some text → ∃ batch vectors,
    (batches size texts)[i / max size 1]? = some batch ∧
      answers (i / max size 1) batch = .ok vectors ∧ vectors.length = batch.length ∧
      batch[i % max size 1]? = some text ∧ rows[i]? = vectors[i % max size 1]?

inductive Unusable (answers : Answers) (size : Nat) (texts : List String) : Prop
  | failed (call : Nat) (batch : List String) (failure : Failure) :
      (batches size texts)[call]? = some batch → answers call batch = .error failure →
      Unusable answers size texts
  | miscounted (call : Nat) (batch : List String) (vectors : List Vector32) :
      (batches size texts)[call]? = some batch → answers call batch = .ok vectors →
      vectors.length ≠ batch.length → Unusable answers size texts
  | flat (call : Nat) (batch : List String) (vectors : List Vector32) (v : Vector32) :
      (batches size texts)[call]? = some batch → answers call batch = .ok vectors → v ∈ vectors →
      v.length = 0 → Unusable answers size texts
  | uneven (call call' : Nat) (batch batch' : List String) (vectors vectors' : List Vector32)
      (v v' : Vector32) : (batches size texts)[call]? = some batch →
      (batches size texts)[call']? = some batch' → answers call batch = .ok vectors →
      answers call' batch' = .ok vectors' → v ∈ vectors → v' ∈ vectors' → v.length ≠ v'.length →
      Unusable answers size texts

/-- A text gets its own vector, whatever else is in its batch and however many calls there were before.
Whether a batch is answered at all may still depend on all of that. -/
def Independent (answers : Answers) (vector : String → Vector32) : Prop :=
  ∀ call texts vectors, answers call texts = .ok vectors → vectors = texts.map vector

def OneByOne (answers : Answers) (vector : String → Except Failure Vector32) : Prop :=
  ∀ call texts, answers call texts = texts.mapM vector

section Batches

variable (answers : Answers)

theorem chunk_records_passages (limit : Nat) (documents : List LoadedDocument) :
    chunkRecords limit documents =
      (passages limit documents).map fun d => { source := d.1, chunk := some d.2 } := by
  simp [chunkRecords, passages, List.map_flatMap, Function.comp_def]

theorem chunk_records_texts (limit : Nat) (documents : List LoadedDocument) :
    (chunkRecords limit documents).filterMap Document.chunk = passageTexts limit documents := by
  rw [chunk_records_passages, passageTexts, List.filterMap_map]
  exact congrFun List.filterMap_eq_map (passages limit documents)

theorem batches_cons (size fuel : Nat) (texts : List String) (some_ : texts ≠ []) :
    batchesFrom size (fuel + 1) texts =
      texts.take size :: batchesFrom size fuel (texts.drop size) := by
  rw [batchesFrom, if_neg (by simpa using some_)]

/-- Batches take every text once and in order. -/
theorem batches_from_flatten (size fuel : Nat) (texts : List String) (positive : 0 < size)
    (enough : texts.length ≤ fuel) : (batchesFrom size fuel texts).flatten = texts := by
  induction fuel generalizing texts with
  | zero =>
      rw [List.eq_nil_of_length_eq_zero (Nat.le_zero.mp enough)]
      rfl
  | succ fuel ih =>
      by_cases none : texts = []
      · rw [none]
        rfl
      · rw [batches_cons size fuel texts none, List.flatten_cons,
          ih (texts.drop size) (by rw [List.length_drop]; omega), List.take_append_drop]

theorem batches_flatten (size : Nat) (texts : List String) : (batches size texts).flatten = texts :=
  batches_from_flatten (max size 1) texts.length texts (by omega) le_rfl

/-- Embedding succeeds when every batch is answered with a vector for each text, and only then. -/
theorem embed_cons_ok (batch : List String) (rest : List (List String)) (rows : List Vector32) :
    (embedBatches answers (batch :: rest)).value = .ok rows ↔
      ∃ vectors more, answers 0 batch = .ok vectors ∧ vectors.length = batch.length ∧
        (embedBatches (fun call => answers (call + 1)) rest).value = .ok more ∧
        rows = vectors ++ more := by
  rw [embedBatches, asked_bind_value, Provider.embedCall]
  cases answers 0 batch with
  | error failure => simp
  | ok vectors =>
      by_cases same : vectors.length = batch.length
      · simp only [same, ne_eq, not_true_eq_false, if_false, asked_bind_value]
        cases (embedBatches (fun call => answers (call + 1)) rest).value with
        | error failure => simp
        | ok more => simp [same, eq_comm]
      · simp [same]

theorem embed_from_aligned (size fuel : Nat) (texts : List String) (rows : List Vector32)
    (positive : 0 < size) (enough : texts.length ≤ fuel)
    (embedded : (embedBatches answers (batchesFrom size fuel texts)).value = .ok rows) :
    rows.length = texts.length ∧ ∀ i text, texts[i]? = some text → ∃ batch vectors,
      (batchesFrom size fuel texts)[i / size]? = some batch ∧ answers (i / size) batch = .ok vectors ∧
        vectors.length = batch.length ∧ batch[i % size]? = some text ∧
        rows[i]? = vectors[i % size]? := by
  induction fuel generalizing answers texts rows with
  | zero =>
      rw [List.eq_nil_of_length_eq_zero (Nat.le_zero.mp enough)]
      cases embedded
      exact ⟨rfl, nofun⟩
  | succ fuel ih =>
      by_cases none : texts = []
      · rw [none] at embedded ⊢
        cases embedded
        exact ⟨rfl, nofun⟩
      · rw [batches_cons size fuel texts none] at embedded ⊢
        obtain ⟨vectors, more, answer, same, later, rfl⟩ := (embed_cons_ok answers _ _ _).mp embedded
        have shorter : (texts.drop size).length ≤ fuel := by
          rw [List.length_drop]
          omega
        obtain ⟨count, row⟩ := ih _ (texts.drop size) more shorter later
        rw [List.length_take] at same
        rw [List.length_drop] at count
        refine ⟨by rw [List.length_append]; omega, ?_⟩
        intro i text found
        have inside : i < texts.length := (List.getElem?_eq_some_iff.mp found).1
        by_cases first : i < size
        · rw [Nat.div_eq_of_lt first]
          refine ⟨texts.take size, vectors, rfl, answer, by rw [List.length_take]; exact same, ?_⟩
          · rw [Nat.mod_eq_of_lt first, List.getElem?_take_of_lt first,
              List.getElem?_append_left (by omega)]
            exact ⟨found, rfl⟩
        · -- a later text stands as far into the texts that are left, one batch earlier
          obtain ⟨j, rfl⟩ := Nat.exists_eq_add_of_le (Nat.not_lt.mp first)
          have whole : vectors.length = size := by omega
          rw [Nat.add_div_left j positive, Nat.add_mod_left, List.getElem?_cons_succ,
            List.getElem?_append_right (by omega), whole, Nat.add_sub_cancel_left]
          exact row j text (by rw [List.getElem?_drop]; exact found)

theorem embed_aligned (size : Nat) (texts : List String) (rows : List Vector32)
    (embedded : (embedBatches answers (batches size texts)).value = .ok rows) :
    Aligned answers size texts rows := by
  obtain ⟨count, row⟩ :=
    embed_from_aligned answers (max size 1) texts.length texts rows (by omega) le_rfl embedded
  exact ⟨count, row⟩

theorem embed_ok_answers (all : List (List String)) (rows : List Vector32)
    (embedded : (embedBatches answers all).value = .ok rows) :
    ∀ call batch, all[call]? = some batch → ∃ vectors, answers call batch = .ok vectors ∧
      vectors.length = batch.length ∧ ∀ v ∈ vectors, v ∈ rows := by
  induction all generalizing answers rows with
  | nil => nofun
  | cons first rest ih =>
      obtain ⟨vectors, more, answer, same, later, rfl⟩ := (embed_cons_ok answers _ _ _).mp embedded
      intro call batch sent
      cases call with
      | zero =>
          cases sent
          exact ⟨vectors, answer, same, fun v there => List.mem_append_left more there⟩
      | succ call =>
          obtain ⟨vectors', answer', same', there⟩ := ih _ more later call batch sent
          exact ⟨vectors', answer', same',
            fun v found => List.mem_append_right vectors (there v found)⟩

end Batches

section Batching

variable (answers : Answers)

theorem embed_independent (vector : String → Vector32) (independent : Independent answers vector)
    (all : List (List String)) (rows : List Vector32)
    (embedded : (embedBatches answers all).value = .ok rows) : rows = all.flatten.map vector := by
  induction all generalizing answers rows with
  | nil =>
      cases embedded
      rfl
  | cons batch rest ih =>
      obtain ⟨vectors, more, answer, -, later, rfl⟩ := (embed_cons_ok answers _ _ _).mp embedded
      have others := ih _ (fun call => independent (call + 1)) more later
      rw [List.flatten_cons, List.map_append, ← others, ← independent 0 batch vectors answer]

theorem map_m_length {ε α β : Type} (f : α → Except ε β) (items : List α) (results : List β)
    (mapped : items.mapM f = .ok results) : results.length = items.length := by
  induction items generalizing results with
  | nil =>
      cases mapped
      rfl
  | cons item rest ih =>
      rw [List.mapM_cons] at mapped
      obtain ⟨result, -, mapped⟩ := bind_ok mapped
      obtain ⟨more, later, mapped⟩ := bind_ok mapped
      cases mapped
      rw [List.length_cons, List.length_cons, ih more later]

/-- Where the batches end makes no difference to a provider that embeds one by one. -/
theorem embed_one_by_one (vector : String → Except Failure Vector32) (each : OneByOne answers vector)
    (all : List (List String)) : (embedBatches answers all).value = all.flatten.mapM vector := by
  induction all generalizing answers with
  | nil => rfl
  | cons batch rest ih =>
      have others := ih _ fun call => each (call + 1)
      rw [List.flatten_cons, List.mapM_append, embedBatches, asked_bind_value, Provider.embedCall]
      simp only [each 0 batch]
      cases answer : batch.mapM vector with
      | error failure => rfl
      | ok vectors =>
          have same : vectors.length = batch.length := map_m_length vector batch vectors answer
          simp only [same, ne_eq, not_true_eq_false, if_false, asked_bind_value, others]
          cases rest.flatten.mapM vector <;> rfl

end Batching

section Stores

theorem rows_of_flatten (dim : Nat) (embeddings : List Vector32)
    (fits : ∀ v ∈ embeddings, v.length = dim) :
    Store.rowsOf dim embeddings.length embeddings.flatten = embeddings := by
  induction embeddings with
  | nil => rfl
  | cons v rest ih =>
      have length : v.length = dim := fits v List.mem_cons_self
      rw [List.length_cons, List.flatten_cons, Store.rowsOf, ← length, List.take_left, List.drop_left,
        length, ih fun u member => fits u (List.mem_cons_of_mem v member)]

/-- A store that was built has a row for each embedding and a document for each row. -/
theorem store_build_rows (embeddings : List Vector32) (documents : List Document)
    (embedder : Option String) (store : Store)
    (built : Store.build embeddings documents embedder = .ok store) :
    store.documents = documents ∧ store.rows = embeddings ∧
      ∀ v ∈ embeddings, v.length = store.dim ∧ v.length ≠ 0 := by
  unfold Store.build at built
  split at built
  · cases built
  next same =>
  have same : embeddings.length = documents.length := Decidable.not_not.mp same
  split at built
  · cases built
    exact ⟨(List.eq_nil_of_length_eq_zero same.symm).symm, rfl, nofun⟩
  next first rest _ =>
  split at built
  · cases built
  next positive =>
  split at built
  · cases built
  next fits =>
  cases built
  have each := Store.first_misfit_none first.length 0 (first :: rest) fits
  refine ⟨rfl, ?_, fun v member => ⟨each v member, by rw [each v member]; exact positive⟩⟩
  rw [Store.rows, Store.size, ← same]
  exact rows_of_flatten first.length (first :: rest) each

variable (embedder : String) (answers : Answers) (s : RetrievalSettings)
  (documents : List LoadedDocument)

theorem store_from_ok (store : Store) :
    (storeFrom embedder answers s documents).value = .ok store ↔ ∃ rows,
      (embedBatches answers
          (batches s.embedBatchSize (passageTexts s.chunkMaxChars documents))).value = .ok rows ∧
        Store.build rows (chunkRecords s.chunkMaxChars documents) (some embedder) = .ok store := by
  rw [storeFrom, chunk_records_texts, asked_bind_value]
  cases (embedBatches answers
      (batches s.embedBatchSize (passageTexts s.chunkMaxChars documents))).value with
  | error failure => simp
  | ok rows =>
      constructor
      · intro built
        exact ⟨rows, rfl, map_error_ok built⟩
      · rintro ⟨_, same, built⟩
        cases same
        exact congrArg (Except.mapError Failure.index) built

theorem store_from_aligned (store : Store)
    (built : (storeFrom embedder answers s documents).value = .ok store) :
    (store.documents = (passages s.chunkMaxChars documents).map fun d =>
        { source := d.1, chunk := some d.2 }) ∧
      Aligned answers s.embedBatchSize (passageTexts s.chunkMaxChars documents) store.rows := by
  obtain ⟨rows, embedded, built⟩ := (store_from_ok embedder answers s documents store).mp built
  obtain ⟨same, whole, -⟩ := store_build_rows _ _ _ store built
  rw [same, whole, chunk_records_passages]
  exact ⟨rfl, embed_aligned answers s.embedBatchSize _ rows embedded⟩

theorem unusable_no_store
    (unusable : Unusable answers s.embedBatchSize (passageTexts s.chunkMaxChars documents))
    (store : Store) : (storeFrom embedder answers s documents).value ≠ .ok store := by
  intro built
  obtain ⟨rows, embedded, built⟩ := (store_from_ok embedder answers s documents store).mp built
  obtain ⟨-, -, each⟩ := store_build_rows _ _ _ store built
  have given := embed_ok_answers answers _ rows embedded
  cases unusable with
  | failed call batch failure sent refused =>
      obtain ⟨vectors, answer, -⟩ := given call batch sent
      cases refused.symm.trans answer
  | miscounted call batch vectors sent answer wrong =>
      obtain ⟨vectors', answer', same, -⟩ := given call batch sent
      cases answer.symm.trans answer'
      exact wrong same
  | flat call batch vectors v sent answer there empty =>
      obtain ⟨vectors', answer', -, among⟩ := given call batch sent
      cases answer.symm.trans answer'
      exact (each v (among v there)).2 empty
  | uneven call call' batch batch' vectors vectors' v v' sent sent' answer answer' there there'
      differ =>
      obtain ⟨_, found, -, among⟩ := given call batch sent
      obtain ⟨_, found', -, among'⟩ := given call' batch' sent'
      cases answer.symm.trans found
      cases answer'.symm.trans found'
      exact differ ((each v (among v there)).1.trans (each v' (among' v' there')).1.symm)

end Stores

section Built

variable (embedder : String) (answers : Answers) (s : RetrievalSettings) (root : String) (files : Files)

def loaded (s : RetrievalSettings) (root : String) (files : Files) : List LoadedDocument :=
  Loader.load files root.toList [s.indexDir.toList]

theorem build_stored (store : Store) (stats : Stats)
    (built : (buildFrom embedder answers s root files).value.2 = .ok (store, stats)) :
    (storeFrom embedder answers s (loaded s root files)).value = .ok store ∧
      stats =
        { documents := (loaded s root files).length, chunks := store.size, dim := store.dim
          embedder, indexDir := s.indexDir } := by
  simp only [buildFrom, asked_bind_value] at built
  unfold loaded
  cases stored : (storeFrom embedder answers s
      (Loader.load files root.toList [s.indexDir.toList])).value with
  | error failure =>
      rw [stored] at built
      cases built
  | ok given =>
      rw [stored] at built
      dsimp only at built
      split at built
      · cases built
      · cases built
        exact ⟨rfl, rfl⟩

theorem build_refused (failure : Failure)
    (refused : (storeFrom embedder answers s (loaded s root files)).value = .error failure) :
    (buildFrom embedder answers s root files).value = (files, .error failure) := by
  simp only [buildFrom, asked_bind_value]
  unfold loaded at refused
  rw [refused]
  rfl

theorem build_index_from_refused (e : Engine) (session : Session) (failure : Failure) (left : Files)
    (refused : (buildFrom e.provider.embedderId answers e.settings.retrieval root session.files).value =
      (left, .error failure)) :
    (e.buildIndexFrom answers root session).value =
      ({ session with files := left }, .error failure) := by
  simp only [Engine.buildIndexFrom, asked_bind_value]
  rw [refused]
  rfl

theorem build_index_refused (e : Engine) (session : Session) (failure : Failure) (left : Files)
    (refused : (build e.provider e.settings.retrieval root session.files).value =
      (left, .error failure)) :
    (e.buildIndex root session).value = ({ session with files := left }, .error failure) :=
  build_index_from_refused (fun _ => e.provider.embed) root e session failure left refused

/-- Building an index lines up texts, sources and vectors. A store has one document for each chunk, in the
order of the documents and of the chunks in them, and the vector in its row is the one that was given for
that chunk by the call that sent it. Of a provider that does not mix the texts of a batch, the size of the
batches cannot be told from the store and its numbers. When an answer cannot be used the build fails, no
file has changed, and the service goes on with what was published before. -/
theorem index_build_exact :
    (∀ documents store, (storeFrom embedder answers s documents).value = .ok store →
      (store.documents = (passages s.chunkMaxChars documents).map fun d =>
          { source := d.1, chunk := some d.2 }) ∧
        Aligned answers s.embedBatchSize (passageTexts s.chunkMaxChars documents) store.rows) ∧
    (∀ root files store stats, (buildFrom embedder answers s root files).value.2 = .ok (store, stats) →
      (storeFrom embedder answers s (loaded s root files)).value = .ok store ∧
        stats =
          { documents := (loaded s root files).length, chunks := store.size, dim := store.dim
            embedder, indexDir := s.indexDir }) ∧
    (∀ vector answers', Independent answers vector → Independent answers' vector →
      ∀ size root files store stats store' stats',
        (buildFrom embedder answers s root files).value.2 = .ok (store, stats) →
        (buildFrom embedder answers' { s with embedBatchSize := size } root files).value.2 =
          .ok (store', stats') →
        store' = store ∧ stats' = stats) ∧
    (∀ vector answers', OneByOne answers vector → OneByOne answers' vector → ∀ size root files,
      (buildFrom embedder answers' { s with embedBatchSize := size } root files).value =
        (buildFrom embedder answers s root files).value) ∧
    (∀ e : Engine, e.provider.embedderId = embedder → e.settings.retrieval = s → ∀ root session,
      Unusable answers s.embedBatchSize
        (passageTexts s.chunkMaxChars (loaded s root session.files)) →
      ∃ failure, (buildFrom embedder answers s root session.files).value =
          (session.files, .error failure) ∧
        (e.buildIndexFrom answers root session).value = (session, .error failure)) := by
  refine ⟨store_from_aligned embedder answers s, build_stored embedder answers s, ?_, ?_, ?_⟩
  · intro vector answers' independent independent' size root files store stats store' stats' built built'
    obtain ⟨stored, rfl⟩ := build_stored embedder answers s root files store stats built
    obtain ⟨stored', rfl⟩ := build_stored embedder answers' _ root files store' stats' built'
    obtain ⟨rows, embedded, same⟩ := (store_from_ok embedder answers s _ store).mp stored
    obtain ⟨rows', embedded', same'⟩ := (store_from_ok embedder answers' _ _ store').mp stored'
    have each := embed_independent answers vector independent _ rows embedded
    have each' := embed_independent answers' vector independent' _ rows' embedded'
    rw [batches_flatten] at each each'
    have stores : store' = store := by
      rw [each] at same
      rw [each'] at same'
      exact Except.ok.inj (same'.symm.trans same)
    rw [stores]
    exact ⟨rfl, rfl⟩
  · intro vector answers' each each' size root files
    have stores : ∀ documents,
        (storeFrom embedder answers' { s with embedBatchSize := size } documents).value =
          (storeFrom embedder answers s documents).value := by
      intro documents
      simp only [storeFrom, asked_bind_value, embed_one_by_one answers vector each,
        embed_one_by_one answers' vector each', batches_flatten]
    simp only [buildFrom, asked_bind_value, stores]
  · rintro e rfl rfl root session unusable
    cases stored : (storeFrom e.provider.embedderId answers e.settings.retrieval
        (loaded e.settings.retrieval root session.files)).value with
    | ok store => exact absurd stored (unusable_no_store _ _ _ _ unusable store)
    | error failure =>
        have refused :=
          build_refused e.provider.embedderId answers e.settings.retrieval root session.files failure stored
        exact ⟨failure, refused, build_index_from_refused answers root e session failure _ refused⟩

/-- A vector tells the length of its text and the number of its call, until no more calls are answered. -/
def counting (most : Nat) : Answers := fun call texts =>
  if call < most then .ok (texts.map fun text => [⟨text.length.toUInt32⟩, ⟨call.toUInt32⟩])
  else .error (.network "")

def oneByOne : Engine where
  settings := { retrieval := { indexDir := "i", embedBatchSize := 1, chunkMaxChars := 12 } }
  provider :=
    { name := "m", model := "m", embedderId := "m", review := fun _ => .stalled
      tests := fun _ => .stalled, embed := fun _ => .ok [] }
  sink := .discard
  machine := { start := fun _ _ _ => .error .notFound, clock := 0 }

def repository : Files where
  entries :=
    [([['r']], .directory), ([['r'], "a.md".toList], .file (Text.utf8 "twelve chars\n\nand more".toList))]

structure OneFile (files : Files) : Prop where
  located : files.locate ['r'] false = .ok [['r']]
  there : files.entryAt [['r']] = some .directory
  found : files.find ['r'] = .ok ([['r']], .directory)
  inside : files.children [['r']] =
    [("a.md".toList, .file (Text.utf8 "twelve chars\n\nand more".toList))]

theorem one_file_loaded (files : Files) (one : OneFile files) (excluded : List (List Char)) :
    Loader.load files ['r'] excluded = [⟨["a.md".toList], "twelve chars\n\nand more".toList⟩] := by
  have document : Loader.document? ([] ++ ["a.md".toList]) "a.md".toList
      (Text.utf8 "twelve chars\n\nand more".toList) =
        some ⟨["a.md".toList], "twelve chars\n\nand more".toList⟩ := by
    decide +kernel
  unfold Loader.load
  rw [one.located]
  dsimp only
  rw [one.there]
  dsimp only
  rw [one.found]
  dsimp only
  rw [Loader.walkDirectory, one.inside, Loader.walkEntries, Loader.walkEntries, document]
  rfl

theorem repository_loaded : loaded oneByOne.settings.retrieval "r" repository =
    [⟨["a.md".toList], "twelve chars\n\nand more".toList⟩] :=
  one_file_loaded repository ⟨by decide +kernel, by decide +kernel, by decide +kernel, by decide +kernel⟩ _

theorem repository_built :
    (buildFrom "m" (counting 2) oneByOne.settings.retrieval "r" repository).value.2.isOk = true := by
  have documents := repository_loaded
  unfold loaded at documents
  simp only [buildFrom, asked_bind_value]
  rw [documents]
  decide +kernel

/-- Two calls are made for two chunks. When the second call is not answered, nothing comes of the first. -/
theorem index_build_exact_calls :
    (∃ store stats,
      (buildFrom "m" (counting 2) oneByOne.settings.retrieval "r" repository).value.2 =
          .ok (store, stats) ∧
        store.documents.map Document.chunk = [some "twelve chars", some "and more"] ∧
        store.rows[1]? = some [⟨8⟩, ⟨1⟩]) ∧
      ∃ failure, (oneByOne.buildIndexFrom (counting 1) "r" { files := repository }).value =
        ({ files := repository }, .error failure) := by
  have texts : passageTexts 12 (loaded oneByOne.settings.retrieval "r" repository) =
      ["twelve chars", "and more"] := by
    rw [repository_loaded]
    decide +kernel
  constructor
  · have ends := repository_built
    obtain ⟨aligns, stores, -⟩ := index_build_exact "m" (counting 2) oneByOne.settings.retrieval
    cases built : (buildFrom "m" (counting 2) oneByOne.settings.retrieval "r" repository).value.2 with
    | error failure =>
        rw [built] at ends
        cases ends
    | ok given =>
        obtain ⟨documents, aligned⟩ := aligns _ given.1 (stores "r" repository given.1 given.2 built).1
        refine ⟨given.1, given.2, rfl, ?_, ?_⟩
        · rw [documents, repository_loaded]
          decide +kernel
        · obtain ⟨batch, vectors, sent, answer, -, -, row⟩ :=
            aligned.row 1 "and more" (congrArg (·[1]?) texts)
          have second : some batch = some ["and more"] :=
            sent.symm.trans (congrArg (fun texts => (batches 1 texts)[1]?) texts)
          obtain rfl := Option.some.inj second
          obtain rfl : [[⟨8⟩, ⟨1⟩]] = vectors := Except.ok.inj answer
          exact row
  · obtain ⟨-, -, -, -, refuses⟩ := index_build_exact "m" (counting 1) oneByOne.settings.retrieval
    obtain ⟨failure, -, failed⟩ := refuses oneByOne rfl rfl "r" { files := repository }
      (.failed 1 ["and more"] (.network "") (congrArg (fun texts => (batches 1 texts)[1]?) texts) rfl)
    exact ⟨failure, failed⟩

end Built

end CodeReview.IndexBuild
