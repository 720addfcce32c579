import CodeReview.Proofs.Index.Published

/-!
What the builder writes, the retriever can use. The dimension and the name that are recorded with an index
pass the checks of a search for the same provider, whatever documents there were, so that every search ends
in hits. The files of an index make the store again that was built, so that it is the same whether a search
is put to the one or to the other.
-/

namespace CodeReview

open Artifact

/-- Texts that are sent are answered with a vector for each, and all vectors are of one dimension. -/
structure Provider.Embeds (p : Provider) (dim : Nat) : Prop where
  narrow : dim < 2 ^ 32
  answers : ∀ texts, texts ≠ [] → ∃ vectors, p.embed texts = .ok vectors ∧
    vectors.length = texts.length ∧ ∀ v ∈ vectors, v.length = dim

structure Drawn (all : List Document) (count : Nat) (positions : List Nat) (records : List Document) :
    Prop where
  count : records.length = count
  apart : positions.Nodup
  placed : (positions.map fun position => all[position]?) = records.map some

namespace Store

section Drawing

variable (s : Store) (query : Vector32)

theorem scored_positions : (s.scored query).map Hit.position = List.range s.size := by
  have length : s.rows.length = s.documents.length := rows_length s.dim s.size s.vectors
  have whole : (s.documents.zip s.rows).length = s.size := by
    rw [List.length_zip, length, Nat.min_self, size]
  rw [scored, List.map_map, List.range_eq_range', ← whole, ← List.zipIdx_map_snd]
  rfl

theorem nearest_hits_drawn (k : Nat) (hits : List Hit)
    (taken : hits = ((s.scored query).mergeSort Hit.isBefore).take k) :
    Drawn s.documents (min k s.size) (hits.map Hit.position) (hits.map Hit.document) where
  count := by
    rw [taken, List.length_map, List.length_take, List.length_mergeSort, scored_length]
  apart := by
    -- sorting permutes the positions, of which each row has one
    have all : (((s.scored query).mergeSort Hit.isBefore).map Hit.position).Nodup := by
      have order := (List.mergeSort_perm (s.scored query) Hit.isBefore).map Hit.position
      rw [scored_positions] at order
      exact order.nodup_iff.mpr List.nodup_range
    rw [taken]
    exact all.sublist ((List.take_sublist k _).map Hit.position)
  placed := by
    rw [List.map_map, List.map_map]
    refine List.map_congr_left fun hit member => ?_
    rw [taken] at member
    exact scored_documents s query hit (List.mem_mergeSort.mp (List.mem_of_mem_take member))

end Drawing

theorem build_name (embeddings : List Vector32) (documents : List Document) (embedder : Option String)
    (s : Store) (built : build embeddings documents embedder = .ok s) :
    s.embedder = none ∨ s.embedder = knownName embedder := by
  unfold build at built
  split at built
  · cases built
  split at built
  · cases built
    exact .inl rfl
  split at built
  · cases built
  split at built
  · cases built
  · cases built
    exact .inr rfl

end Store

/-- A store whose dimension and name are those of a provider, as far as it has any. -/
structure Store.Suits (store : Store) (p : Provider) (dim : Nat) : Prop where
  width : 0 < store.size → store.dim = dim
  name : ∀ tag, store.embedder = some tag → p.embedderId = "" ∨ p.embedderId = tag

/-- What is put to a store that suits the provider is answered with documents of the store. -/
theorem nearest_drawn (r : Retriever) (store : Store) (dim : Nat) (embeds : r.provider.Embeds dim)
    (suits : store.Suits r.provider dim) (query : String) (k : Nat) :
    ∃ positions records, Drawn store.documents (min k store.size) positions records ∧
      (r.nearest store query k).value = .ok (.success records) := by
  by_cases idle : store.size = 0 ∨ k = 0
  · refine ⟨[], [], ⟨by simp; omega, List.nodup_nil, rfl⟩, ?_⟩
    rw [nearest_idle r store query k idle]
    rfl
  obtain ⟨some_, more⟩ : 0 < store.size ∧ 0 < k := by omega
  obtain ⟨vectors, answer, count, width⟩ := embeds.answers [query] (List.cons_ne_nil query [])
  obtain ⟨vector, rfl⟩ := List.length_eq_one_iff.mp count
  have fits : vector.length = store.dim :=
    (width vector List.mem_cons_self).trans (suits.width some_).symm
  -- neither the dimension nor the name can be in conflict
  rcases search_cases store vector k r.provider.embedderId some_ with
    ⟨misfit, -⟩ | ⟨-, tag, tagged, known, other, -⟩ | ⟨-, -, searched⟩
  · exact absurd fits misfit
  · exact ((suits.name tag tagged).elim known other).elim
  · refine ⟨_, _, Store.nearest_hits_drawn store vector k _ rfl, ?_⟩
    rw [nearest_searched r store query k vector some_ more answer, searched]

namespace IndexBuild

theorem embed_width (p : Provider) (dim : Nat) (embeds : p.Embeds dim) (all : List (List String))
    (rows : List Vector32) (embedded : (embedBatches (fun _ => p.embed) all).value = .ok rows) :
    ∀ v ∈ rows, v.length = dim := by
  induction all generalizing rows with
  | nil =>
      cases embedded
      nofun
  | cons batch rest ih =>
      obtain ⟨vectors, more, answer, same, later, rfl⟩ := (embed_cons_ok _ _ _ _).mp embedded
      intro v member
      rcases List.mem_append.mp member with here | there
      · -- an empty batch would have been answered with no vector
        have filled : batch ≠ [] := by
          rintro rfl
          rw [List.length_eq_zero_iff.mp same] at here
          cases here
        obtain ⟨vectors', answer', -, width⟩ := embeds.answers batch filled
        cases answer.symm.trans answer'
        exact width v here
      · exact ih more later v there

section Building

variable (p : Provider) (s : RetrievalSettings) (documents : List LoadedDocument) (store : Store)
  (built : (storeFrom p.embedderId (fun _ => p.embed) s documents).value = .ok store)

include built

/-- The documents of an index are plain ones, so that its files make the store again. -/
theorem store_from_restorable : store.Valid ∧ store.documents = chunkRecords s.chunkMaxChars documents ∧
    ∀ d ∈ store.documents, d.Restorable := by
  obtain ⟨rows, -, built⟩ := (store_from_ok _ _ s documents store).mp built
  obtain ⟨same, -, -⟩ := store_build_rows _ _ _ store built
  refine ⟨(Store.build_valid _ _ _ store built).1, same, fun d member => ?_⟩
  rw [same, chunk_records_passages] at member
  obtain ⟨passage, -, rfl⟩ := List.mem_map.mp member
  exact Document.plain_restorable _ rfl

/-- A store that was built suits the provider that it was built with. -/
theorem store_from_suits (dim : Nat) (embeds : p.Embeds dim) : store.Suits p dim := by
  obtain ⟨rows, embedded, built⟩ := (store_from_ok _ _ s documents store).mp built
  obtain ⟨-, whole, each⟩ := store_build_rows _ _ _ store built
  have width := embed_width p dim embeds _ rows embedded
  constructor
  · intro some_
    have count : rows.length = store.size := by
      rw [← whole]
      exact Store.rows_length store.dim store.size store.vectors
    obtain ⟨first, member⟩ := List.exists_mem_of_length_pos (count ▸ some_)
    exact (each first member).1.symm.trans (width first member)
  · -- an empty name is not recorded, so that a name which is recorded is the provider's
    intro tag tagged
    rcases Store.build_name _ _ _ store built with none | named
    · cases none.symm.trans tagged
    rcases known_name_cases p.embedderId with ⟨empty, -⟩ | ⟨-, known⟩
    · exact .inl empty
    · rw [named, known] at tagged
      exact .inr (Option.some.inj tagged)

end Building

section Persisting

variable (p : Provider) (s : RetrievalSettings) (root : String) (files later : Files) (store : Store)

theorem build_persisted (stats : Stats)
    (built : (build p s root files).value = (later, .ok (store, stats))) :
    store.persist s.indexDir.toList files = (later, .ok ()) := by
  simp only [build, buildFrom, asked_bind_value] at built
  cases stored : (storeFrom p.embedderId (fun _ => p.embed) s
      (Loader.load files root.toList [s.indexDir.toList])).value with
  | error failure =>
      rw [stored] at built
      cases built
  | ok given =>
      rw [stored] at built
      dsimp only at built
      cases persisted : given.persist s.indexDir.toList files with
      | mk left ended =>
          rw [persisted] at built
          cases ended with
          | error e => cases built
          | ok u =>
              cases built
              exact persisted

theorem build_made
    (stored : (storeFrom p.embedderId (fun _ => p.embed) s (loaded s root files)).value = .ok store)
    (persisted : store.persist s.indexDir.toList files = (later, .ok ())) :
    (build p s root files).value = (later, .ok (store,
      { documents := (loaded s root files).length, chunks := store.size, dim := store.dim
        embedder := p.embedderId, indexDir := s.indexDir })) := by
  unfold loaded at stored ⊢
  simp only [build, buildFrom, asked_bind_value, stored, persisted, asked_pure_value]

end Persisting

end IndexBuild

namespace Engine

theorem build_index_built (e : Engine) (root : String) (session after : Session)
    (stats : IndexBuild.Stats) (built : (e.buildIndex root session).value = (after, .ok stats)) :
    ∃ store, (IndexBuild.build e.provider e.settings.retrieval root session.files).value =
        (after.files, .ok (store, stats)) ∧
      after = { session with files := after.files, slot := session.slot.publish store } := by
  cases ended : (IndexBuild.build e.provider e.settings.retrieval root session.files).value with
  | mk left answer =>
      cases answer with
      | error failure =>
          rw [IndexBuild.build_index_refused root e session failure left ended] at built
          cases built
      | ok given =>
          obtain ⟨store, numbers⟩ := given
          have indexed := build_index_ok e session root store numbers (congrArg Prod.snd ended)
          rw [ended] at indexed
          cases indexed.symm.trans built
          exact ⟨store, rfl, rfl⟩

section Serving

variable (e : Engine) (query : String) (k : Nat) (s : Session)

theorem published_retrieve (store : Store) (filled : s.slot.store? = some store) :
    (e.retrieve query k s).value = (s, (e.retriever.nearest store query k).value) := by
  rw [retrieve_session, retrieve_published e.retriever store query k s.files s.slot filled]

theorem loaded_retrieve (store : Store) (empty : s.slot.store? = none)
    (loaded : Store.load e.settings.retrieval.indexDir.toList s.files = .ok store) :
    (e.retrieve query k s).value.2 = (e.retriever.nearest store query k).value := by
  rw [retrieve_session, retrieve_loaded e.retriever store query k s.files s.slot empty loaded]

theorem missing_retrieve (empty : s.slot.store? = none)
    (missing : Store.load e.settings.retrieval.indexDir.toList s.files =
      .error (.notFound e.settings.retrieval.indexDir)) :
    (e.retrieve query k s).value.2 =
      .ok (.degraded (IndexError.notFound e.settings.retrieval.indexDir).message) := by
  rw [retrieve_session, retrieve_unloaded e.retriever query k s.files s.slot _ empty missing]
  rfl

/-- What a service has built it can retrieve from, and so can another service with the same provider that
finds the files only. Whatever the documents, the query and the number asked for, as many records come as
there can, from different chunks. The other service gives the same ones in the same order as long as the
path of the index leads to a directory; where it does not any more, no index is found. Its vectors have to
fit into memory. -/
theorem built_index_serves (e : Engine) (dim : Nat) (embeds : e.provider.Embeds dim) (root : String)
    (session after : Session) (stats : IndexBuild.Stats)
    (built : (e.buildIndex root session).value = (after, .ok stats)) (query : String) (k : Nat) :
    let chunks := IndexBuild.chunkRecords e.settings.retrieval.chunkMaxChars
      (IndexBuild.loaded e.settings.retrieval root session.files)
    stats.chunks = chunks.length ∧ ∃ positions records,
      Drawn chunks (min k chunks.length) positions records ∧
      (e.retrieve query k after).value = (after, .ok (.success records)) ∧
      (stats.chunks * stats.dim * 4 < wordLimit → ∀ (fresh : Engine) (start : Session),
        fresh.provider = e.provider →
        fresh.settings.retrieval.indexDir = e.settings.retrieval.indexDir →
        start.files = after.files → start.slot.store? = none →
        (after.files.Reaches e.settings.retrieval.indexDir.toList →
          (fresh.retrieve query k start).value.2 = .ok (.success records)) ∧
        ((fresh.retrieve query k start).value.2 = .ok (.success records) ∨
          (fresh.retrieve query k start).value.2 =
            .ok (.degraded (IndexError.notFound e.settings.retrieval.indexDir).message))) := by
  intro chunks
  obtain ⟨store, indexed, same⟩ := build_index_built e root session after stats built
  have persisted := IndexBuild.build_persisted e.provider e.settings.retrieval root session.files
    after.files store stats indexed
  obtain ⟨stored, numbers⟩ := IndexBuild.build_stored e.provider.embedderId
    (fun _ => e.provider.embed) e.settings.retrieval root session.files store stats
    (congrArg Prod.snd indexed)
  obtain ⟨valid, documents, restorable⟩ := IndexBuild.store_from_restorable e.provider
    e.settings.retrieval _ store stored
  have suits := IndexBuild.store_from_suits e.provider e.settings.retrieval _ store stored dim embeds
  have size : store.size = chunks.length := congrArg List.length documents
  obtain ⟨positions, records, drawn, served⟩ := nearest_drawn e.retriever store dim embeds suits query k
  rw [documents, size] at drawn
  have count : stats.chunks = store.size := by rw [numbers]
  have width : stats.dim = store.dim := by rw [numbers]
  refine ⟨count.trans size, positions, records, drawn, ?_, ?_⟩
  · have filled : after.slot.store? = some store := by
      rw [same]
      rfl
    rw [published_retrieve e query k after store filled, served]
  · -- what the other service loads is the store itself, if it finds it
    intro addressable fresh start provider directory found empty
    rw [count, width] at addressable
    have narrow : store.dim < 2 ^ 32 := by
      by_cases none : store.size = 0
      · rw [valid.flat.mpr none]
        decide
      · rw [suits.width (Nat.pos_of_ne_zero none)]
        exact embeds.narrow
    have retriever : fresh.retriever = e.retriever := by
      rw [Engine.retriever, Engine.retriever, provider, directory]
    have made := Store.restored_same store valid addressable narrow restorable
      e.settings.retrieval.indexDir.toList
    have serves : Store.load e.settings.retrieval.indexDir.toList after.files = .ok store →
        (fresh.retrieve query k start).value.2 = .ok (.success records) := by
      intro loaded
      rw [← found, ← directory] at loaded
      rw [loaded_retrieve fresh query k start store empty loaded, retriever, served]
    constructor
    · intro reaches
      obtain ⟨place, holds⟩ := persisted_holds store _ session.files after.files persisted reaches
      apply serves
      rw [load_restored _ after.files _ _ (holds_index holds) (holds_sidecar holds), made]
    · rcases Store.persisted_load store _ session.files after.files persisted with missing | loaded
      · right
        rw [String.ofList_toList, ← found, ← directory] at missing
        rw [missing_retrieve fresh query k start empty missing, directory]
      · exact .inl (serves (loaded.trans made))

def indexedUnder (directory : String) : Engine where
  settings := { retrieval := { indexDir := directory, chunkMaxChars := 12 } }
  provider :=
    { name := "m", model := "m", embedderId := "m", review := fun _ => .stalled
      tests := fun _ => .stalled
      embed := fun texts => .ok (texts.map fun text => [⟨text.length.toUInt32⟩]) }
  sink := .discard
  machine := { start := fun _ _ _ => .error .notFound, clock := 0 }

theorem indexed_under_embeds (directory : String) : (indexedUnder directory).provider.Embeds 1 where
  narrow := by decide
  answers := by
    intro texts _
    refine ⟨_, rfl, List.length_map _, fun v member => ?_⟩
    obtain ⟨text, -, rfl⟩ := List.mem_map.mp member
    rfl

/-- A repository of one file, and a directory with a link to itself that is called like the sidecar. -/
def linkedRepository : Files where
  entries :=
    [([['d']], .directory), ([['d'], sidecarFile], .link ['.']), ([['r']], .directory),
      ([['r'], "a.md".toList], .file (Text.utf8 "twelve chars\n\nand more".toList))]

def twoChunks : Store where
  dim := 1
  vectors := [⟨12⟩, ⟨8⟩]
  documents := [{ source := "a.md", chunk := some "twelve chars" },
    { source := "a.md", chunk := some "and more" }]
  embedder := some "m"

theorem one_file_built (directory : String) (files later : Files) (one : IndexBuild.OneFile files)
    (persisted : twoChunks.persist directory.toList files = (later, .ok ())) :
    (IndexBuild.build (indexedUnder directory).provider (indexedUnder directory).settings.retrieval "r"
      files).value =
        (later, .ok (twoChunks,
          { documents := 1, chunks := 2, dim := 1, embedder := "m", indexDir := directory })) := by
  have whole : IndexBuild.loaded (indexedUnder directory).settings.retrieval "r" files =
      [⟨["a.md".toList], "twelve chars\n\nand more".toList⟩] := IndexBuild.one_file_loaded files one _
  have stored : (IndexBuild.storeFrom (indexedUnder directory).provider.embedderId
      (fun _ => (indexedUnder directory).provider.embed) (indexedUnder directory).settings.retrieval
      [⟨["a.md".toList], "twelve chars\n\nand more".toList⟩]).value = .ok twoChunks := rfl
  have made := IndexBuild.build_made (indexedUnder directory).provider
    (indexedUnder directory).settings.retrieval "r" files later twoChunks (by rw [whole, stored])
    persisted
  rw [whole] at made
  exact made

theorem linked_repository_built (directory : String) (later : Files)
    (persisted : twoChunks.persist directory.toList linkedRepository = (later, .ok ())) :
    ((indexedUnder directory).buildIndex "r" { files := linkedRepository }).value =
      ({ files := later, slot := ({} : Slot).publish twoChunks },
        .ok { documents := 1, chunks := 2, dim := 1, embedder := "m", indexDir := directory }) := by
  have one : IndexBuild.OneFile linkedRepository :=
    ⟨by decide +kernel, by decide +kernel, by decide +kernel, by decide +kernel⟩
  have made := one_file_built directory linkedRepository later one persisted
  rw [build_index_ok _ { files := linkedRepository } "r" _ _ (congrArg Prod.snd made), made]

theorem built_index_serves_both :
    ∃ after stats,
      ((indexedUnder "i").buildIndex "r" { files := linkedRepository }).value = (after, .ok stats) ∧
        stats.chunks = 2 ∧ ∃ records, records.length = 2 ∧
          ((indexedUnder "i").retrieve "chars" 3 after).value.2 = .ok (.success records) ∧
          ((indexedUnder "i").retrieve "chars" 3 { files := after.files }).value.2 =
            .ok (.success records) := by
  obtain ⟨later, persisted, reaches⟩ : ∃ later,
      twoChunks.persist "i".toList linkedRepository = (later, .ok ()) ∧ later.Reaches "i".toList :=
    ⟨_, Prod.ext rfl (by decide +kernel), [['i']], by decide +kernel⟩
  have built := linked_repository_built "i" later persisted
  obtain ⟨count, positions, records, drawn, served, others⟩ :=
    built_index_serves (indexedUnder "i") 1 (indexed_under_embeds "i") "r" _ _ _ built "chars" 3
  refine ⟨_, _, built, rfl, records, ?_, congrArg Prod.snd served, ?_⟩
  · rw [drawn.count, ← count]
    rfl
  · have addressable : 2 * 1 * 4 < wordLimit := by decide
    exact (others addressable (indexedUnder "i") { files := later } rfl rfl rfl rfl).1 reaches

/-- Under a path through the link, the sidecar takes the place of the link, and the other service finds no
index. -/
theorem built_index_lost :
    (indexedUnder "d/metadata.json").provider.Embeds 1 ∧ ∃ after stats,
      ((indexedUnder "d/metadata.json").buildIndex "r" { files := linkedRepository }).value =
        (after, .ok stats) ∧
      stats.chunks = 2 ∧
      ((indexedUnder "d/metadata.json").retrieve "chars" 3 { files := after.files }).value.2 =
        .ok (.degraded "No index found at d/metadata.json") := by
  obtain ⟨later, persisted, missing⟩ : ∃ later,
      twoChunks.persist "d/metadata.json".toList linkedRepository = (later, .ok ()) ∧
        later.hasIndex "d/metadata.json".toList = false :=
    ⟨_, Prod.ext rfl (by decide +kernel), by decide +kernel⟩
  have built := linked_repository_built "d/metadata.json" later persisted
  refine ⟨indexed_under_embeds _, _, _, built, rfl, ?_⟩
  have lost := load_missing "d/metadata.json".toList later missing
  exact missing_retrieve (indexedUnder "d/metadata.json") "chars" 3 { files := later } rfl lost

end Serving

end Engine

end CodeReview
