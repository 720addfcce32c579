import CodeReview.Proofs.Index.IndexFile
import CodeReview.Proofs.Index.Loading

/-!
What holds of every store, whether it was built or loaded, and why a search may rely on it. A search takes
rows off the list of coordinates and documents by their position without asking whether they are there;
the guarded search here asks, and on a valid store comes to the same hits.
-/

namespace CodeReview

open Decimal (Single)
open Decode Artifact

namespace Store

structure Valid (s : Store) : Prop where
  rectangular : s.vectors.length = s.size * s.dim
  flat : s.dim = 0 ↔ s.size = 0
  untagged : s.size = 0 → s.embedder = none
  named : s.embedder ≠ some ""

theorem empty_valid : empty.Valid where
  rectangular := rfl
  flat := Iff.rfl
  untagged := fun _ => rfl
  named := nofun

theorem known_name_named (name : Option String) : knownName name ≠ some "" := by
  intro same
  obtain ⟨-, kept⟩ := Option.filter_eq_some_iff.mp same
  cases kept

section Building

theorem first_misfit_none (dim index : Nat) (embeddings : List Vector32)
    (fits : firstMisfit dim index embeddings = none) : ∀ v ∈ embeddings, v.length = dim := by
  induction embeddings generalizing index with
  | nil => nofun
  | cons v rest ih =>
      rw [firstMisfit] at fits
      split at fits
      · next same =>
          intro u member
          rcases List.mem_cons.mp member with rfl | member
          · exact same
          · exact ih (index + 1) fits u member
      · cases fits

theorem flatten_length (dim : Nat) (embeddings : List Vector32)
    (fits : ∀ v ∈ embeddings, v.length = dim) : embeddings.flatten.length = embeddings.length * dim := by
  induction embeddings with
  | nil => simp
  | cons v rest ih =>
      rw [List.flatten_cons, List.length_append, fits v List.mem_cons_self,
        ih fun u member => fits u (List.mem_cons_of_mem _ member), List.length_cons, Nat.add_mul]
      omega

/-- What can be built is valid, and has the coordinates that were given. -/
theorem build_valid (embeddings : List Vector32) (documents : List Document) (embedder : Option String)
    (s : Store) (built : build embeddings documents embedder = .ok s) :
    s.Valid ∧ s.vectors = embeddings.flatten := by
  unfold build at built
  split at built
  · cases built
  next same =>
  split at built
  · cases built
    exact ⟨empty_valid, rfl⟩
  next first rest =>
  split at built
  · cases built
  next positive =>
  split at built
  · cases built
  next fits =>
  cases built
  have each := first_misfit_none first.length 0 (first :: rest) fits
  have length := flatten_length first.length (first :: rest) each
  have some_ : 0 < documents.length := by
    simp only [List.length_cons, ne_eq, Decidable.not_not] at same
    omega
  refine ⟨⟨?_, ?_, ?_, known_name_named embedder⟩, rfl⟩
  · rw [size, ← Decidable.not_not.mp same]
    exact length
  · exact ⟨fun flat => absurd flat positive, fun none => absurd none (Nat.ne_of_gt some_)⟩
  · exact fun none => absurd none (Nat.ne_of_gt some_)

theorem build_ends (embeddings : List Vector32) (documents : List Document) (embedder : Option String) :
    (∃ e d, build embeddings documents embedder = .error (.lengthMismatch e d)) ∨
      build embeddings documents embedder = .error .zeroDimension ∨
      (∃ i e f, build embeddings documents embedder = .error (.inconsistentDimension i e f)) ∨
      ∃ s, build embeddings documents embedder = .ok s := by
  unfold build
  split
  · exact .inl ⟨_, _, rfl⟩
  split
  · exact .inr (.inr (.inr ⟨_, rfl⟩))
  split
  · exact .inr (.inl rfl)
  split
  · exact .inr (.inr (.inl ⟨_, _, _, rfl⟩))
  · exact .inr (.inr (.inr ⟨_, rfl⟩))

end Building

end Store

namespace Artifact

section Loading

theorem whole_text_ok {α : Type} (decode : Decoder α) (text : String) (value : α)
    (read : wholeText decode text = .ok value) : decode (Json.scanText text.toList).scan = .ok value := by
  obtain ⟨found, decoded, read⟩ := bind_ok read
  split at read
  · cases read
  split at read
  · cases read
    exact decoded
  · cases read

theorem decode_scan_named (scan : Json.Scan) (parts : Sidecar) (read : decodeScan scan = .ok parts) :
    parts.embedder ≠ some "" := by
  obtain ⟨_, -, read⟩ := bind_ok read
  split at read
  · obtain ⟨r, -, read⟩ := bind_ok read
    obtain ⟨dim, -, read⟩ := bind_ok read
    obtain ⟨documents, -, read⟩ := bind_ok read
    obtain ⟨embedder, -, read⟩ := bind_ok read
    cases read
    exact Store.known_name_named embedder
  · obtain ⟨documents, -, read⟩ := bind_ok read
    cases read
    nofun

theorem sidecar_named (bytes : Bytes) (parts : Sidecar) (read : decodeSidecar bytes = .ok parts) :
    parts.embedder ≠ some "" := by
  unfold decodeSidecar at read
  split at read
  · cases read
  split at read
  · next decoded =>
      cases read
      exact decode_scan_named _ parts (whole_text_ok decodeScan _ parts decoded)
  · cases read

/-- An index and a sidecar that were read and fit together are a valid store of addressable size. -/
theorem assemble_valid (index : IndexContent) (parts : Sidecar) (s : Store) (sound : index.Sound)
    (named : parts.embedder ≠ some "") (fits : assemble index parts = .ok s) :
    s.Valid ∧ s.size * s.dim * 4 < wordLimit := by
  unfold assemble at fits
  split at fits
  · cases fits
  next same =>
  dsimp only at fits
  split at fits
  · cases fits
  split at fits
  · cases fits
    exact ⟨Store.empty_valid, by decide⟩
  next rows =>
  cases fits
  have count : parts.documents.length = index.count := Decidable.not_not.mp same
  have positive := sound.extended (Nat.pos_of_ne_zero rows)
  refine ⟨⟨?_, ?_, ?_, named⟩, ?_⟩
  · show index.vectors.length = parts.documents.length * index.dim
    rw [count, sound.whole]
  · show index.dim = 0 ↔ parts.documents.length = 0
    omega
  · show parts.documents.length = 0 → _
    omega
  · show parts.documents.length * index.dim * 4 < wordLimit
    rw [count]
    exact sound.addressable

theorem restored_valid (directory : List Char) (index sidecar : Bytes) :
    (∃ path damage, restored directory index sidecar = .error (.corrupt path damage)) ∨
      ∃ s, restored directory index sidecar = .ok s ∧ s.Valid ∧ s.size * s.dim * 4 < wordLimit := by
  cases ends : restored directory index sidecar with
  | ok s =>
      obtain ⟨content, parts, readIndex, readSidecar, fits⟩ := restored_ok directory index sidecar s ends
      have sound := ((decode_index_exact index content).mp readIndex).1
      exact .inr ⟨s, rfl, assemble_valid content parts s sound (sidecar_named sidecar parts readSidecar) fits⟩
  | error e =>
      unfold restored at ends
      split at ends
      · cases ends
        exact .inl ⟨_, _, rfl⟩
      split at ends
      · cases ends
        exact .inl ⟨_, _, rfl⟩
      · cases ends

end Loading

end Artifact

namespace Store

section Searching

/-- All rows of a flat list, if rows have a length at all; coordinates that make no whole row are left. -/
def rowsExactly (dim : Nat) (vectors : List Single) : Option (List Vector32) :=
  if dim = 0 then none else some (rowsOf dim (vectors.length / dim) vectors)

def guardedScores (s : Store) (query : Vector32) : Option (List (Nat × Single)) := do
  let rows ← rowsExactly s.dim s.vectors
  return rows.zipIdx.map fun (row, position) => (position, squaredDistance row query)

def guardedHit (s : Store) (score : Nat × Single) : Option Hit := do
  let document ← s.documents[score.1]?
  return { position := score.1, distance := score.2, document }

/-- A search that comes to nothing when there are no rows to take or a document is not there. -/
def guardedSearch (s : Store) (query : Vector32) (k : Nat) (embedder : Option String) :
    Option (Except IndexError (List Hit)) :=
  if s.isEmpty then some (.ok [])
  else if query.length ≠ s.dim then some (.error (.dimensionMismatch query.length s.dim))
  else
    match s.conflict? embedder with
    | some e => some (.error e)
    | none => do
        let scores ← s.guardedScores query
        let nearest := (scores.mergeSort fun a b => a.2.orderKey ≤ b.2.orderKey).take k
        let hits ← nearest.mapM s.guardedHit
        return .ok hits

def Hit.score (hit : Hit) : Nat × Single := (hit.position, hit.distance)

theorem rows_length (dim count : Nat) (vectors : List Single) :
    (rowsOf dim count vectors).length = count := by
  induction count generalizing vectors with
  | zero => rfl
  | succ n ih => rw [rowsOf, List.length_cons, ih]

variable (s : Store)

/-- The flat list of a valid store falls into as many rows as there are documents. -/
theorem rows_exact (valid : s.Valid) (some_ : 0 < s.size) : rowsExactly s.dim s.vectors = some s.rows := by
  have positive : s.dim ≠ 0 := fun flat => Nat.ne_of_gt some_ (valid.flat.mp flat)
  have count : s.vectors.length / s.dim = s.size := by
    rw [valid.rectangular, Nat.mul_div_cancel _ (Nat.pos_of_ne_zero positive)]
  rw [rowsExactly, if_neg positive, count, rows]

theorem scores_exact (valid : s.Valid) (some_ : 0 < s.size) (query : Vector32) :
    s.guardedScores query = some ((s.scored query).map Hit.score) := by
  have whole := rows_exact s valid some_
  have length : s.rows.length = s.documents.length := rows_length s.dim s.size s.vectors
  rw [guardedScores, whole]
  refine congrArg some (List.ext_getElem ?_ fun index inRows inHits => ?_)
  · simp [scored, length]
  · simp [scored, Hit.score]

theorem scored_documents (query : Vector32) (hit : Hit) (member : hit ∈ s.scored query) :
    s.documents[hit.position]? = some hit.document := by
  obtain ⟨⟨⟨document, row⟩, position⟩, among, rfl⟩ := List.mem_map.mp member
  have found := List.mem_zipIdx_iff_getElem?.mp among
  exact (List.getElem?_zip_eq_some.mp found).1

theorem guarded_hits (query : Vector32) (hits : List Hit) (members : ∀ hit ∈ hits, hit ∈ s.scored query) :
    (hits.map Hit.score).mapM s.guardedHit = some hits := by
  induction hits with
  | nil => rfl
  | cons hit rest ih =>
      have document := scored_documents s query hit (members hit List.mem_cons_self)
      rw [List.map_cons, List.mapM_cons, ih fun h member => members h (List.mem_cons_of_mem _ member),
        guardedHit, Hit.score, document]
      rfl

/-- What is searched in a valid store is there. -/
theorem search_guarded (valid : s.Valid) (query : Vector32) (k : Nat) (embedder : Option String) :
    s.guardedSearch query k embedder = some (s.search query k embedder) := by
  unfold guardedSearch search
  split
  · rfl
  next filled =>
  split
  · rfl
  cases s.conflict? embedder with
  | some e => rfl
  | none =>
      have some_ : 0 < s.size := List.length_pos_iff.mpr fun none => filled (by rw [isEmpty, none]; rfl)
      -- positions and distances are sorted as the hits are, since only distances are compared
      have sorted : ((s.scored query).map Hit.score).mergeSort
          (fun a b => a.2.orderKey ≤ b.2.orderKey) =
            ((s.scored query).mergeSort Hit.isBefore).map Hit.score := by
        symm
        apply List.map_mergeSort
        intro a _ b _
        rfl
      rw [scores_exact s valid some_ query]
      show (do
        let hits ← ((((s.scored query).map Hit.score).mergeSort _).take k).mapM s.guardedHit
        return Except.ok hits) = _
      rw [sorted, ← List.map_take, guarded_hits s query]
      · rfl
      · exact fun hit member => List.mem_mergeSort.mp (List.mem_of_mem_take member)

theorem scores_inside (query : Vector32) (score : Nat × Single)
    (member : score ∈ (s.scored query).map Hit.score) : score.1 < s.size := by
  obtain ⟨hit, among, rfl⟩ := List.mem_map.mp member
  exact (List.getElem?_eq_some_iff.mp (scored_documents s query hit among)).1

theorem scored_length (query : Vector32) : (s.scored query).length = s.size := by
  have length : s.rows.length = s.documents.length := rows_length s.dim s.size s.vectors
  simp [scored, length, size]

end Searching

section Every

/-- Building ends in one of three errors or in a valid store, and loading two files of any bytes in damage
or in a valid store. A search of a valid store scores each of its rows once and reads no document that is
not there. -/
theorem every_store_valid :
    (∀ embeddings documents embedder,
      (∃ e d, build embeddings documents embedder = .error (.lengthMismatch e d)) ∨
      build embeddings documents embedder = .error .zeroDimension ∨
      (∃ i e f, build embeddings documents embedder = .error (.inconsistentDimension i e f)) ∨
      ∃ s, build embeddings documents embedder = .ok s ∧ s.Valid ∧
        s.size * s.dim * 4 = 4 * embeddings.flatten.length) ∧
    (∀ directory files index sidecar, Files.read files (indexPath directory) = .ok index →
      files.read (sidecarPath directory) = .ok sidecar →
      (∃ path damage, load directory files = .error (.corrupt path damage)) ∨
      ∃ s, load directory files = .ok s ∧ s.Valid ∧ s.size * s.dim * 4 < wordLimit) ∧
    (∀ s : Store, s.Valid → ∀ query k embedder,
      s.guardedSearch query k embedder = some (s.search query k embedder) ∧
      (0 < s.size → ∃ scores, s.guardedScores query = some scores ∧ scores.length = s.size ∧
        ∀ score ∈ scores, score.1 < s.size)) := by
  refine ⟨fun embeddings documents embedder => ?_, fun directory files index sidecar => ?_, ?_⟩
  · rcases build_ends embeddings documents embedder with mismatch | flat | misfit | ⟨s, built⟩
    · exact .inl mismatch
    · exact .inr (.inl flat)
    · exact .inr (.inr (.inl misfit))
    · obtain ⟨valid, coordinates⟩ := build_valid embeddings documents embedder s built
      refine .inr (.inr (.inr ⟨s, built, valid, ?_⟩))
      rw [← coordinates, valid.rectangular, Nat.mul_comm]
  · intro readIndex readSidecar
    rw [load_restored directory files index sidecar readIndex readSidecar]
    exact restored_valid directory index sidecar
  · intro s valid query k embedder
    refine ⟨search_guarded s valid query k embedder, fun some_ => ?_⟩
    refine ⟨_, scores_exact s valid some_ query, ?_, scores_inside s query⟩
    rw [List.length_map, scored_length]

def oneRow : Files where
  entries := [([indexFile], .file (header 1 1 ++ [0, 0, 0, 0])),
    ([sidecarFile], .file (Text.utf8 "[\x7b\"source\":\"a\"\x7d]".toList))]

theorem every_store_valid_one_row :
    (load [] oneRow).toOption.map size = some 1 ∧
      ((∃ path damage, load [] oneRow = .error (.corrupt path damage)) ∨
        ∃ s, load [] oneRow = .ok s ∧ s.Valid ∧ s.size * s.dim * 4 < wordLimit) ∧
      empty.guardedSearch [] 1 none = some (empty.search [] 1 none) := by
  have readIndex : oneRow.read (indexPath []) = .ok (header 1 1 ++ [0, 0, 0, 0]) := by decide
  have readSidecar : oneRow.read (sidecarPath []) =
      .ok (Text.utf8 "[\x7b\"source\":\"a\"\x7d]".toList) := by decide
  refine ⟨by decide +kernel, ?_, ?_⟩
  · exact every_store_valid.2.1 [] oneRow _ _ readIndex readSidecar
  · exact (every_store_valid.2.2 empty empty_valid [] 1 none).1

end Every

end Store

end CodeReview
