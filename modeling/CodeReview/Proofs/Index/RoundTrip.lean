import CodeReview.Proofs.Index.Invariant
import CodeReview.Proofs.Index.Persisted
import CodeReview.Proofs.Index.Sidecar

/-!
Persisting and loading undo each other: a store comes back as it was, and the index file of a store that
was loaded is written again byte for byte.
-/

namespace CodeReview

open Artifact

namespace Store

/-- The stores there are: those that were built of embeddings in memory and those that were loaded. -/
inductive Obtained : Store → Prop
  | built (embeddings : List Vector32) (documents : List Document) (embedder : Option String) (s : Store)
      (held : 4 * embeddings.flatten.length < wordLimit)
      (ends : build embeddings documents embedder = .ok s) : Obtained s
  | loaded (directory : List Char) (files : Files) (s : Store)
      (ends : load directory files = .ok s) : Obtained s

theorem obtained_valid (s : Store) (obtained : s.Obtained) :
    s.Valid ∧ s.size * s.dim * 4 < wordLimit := by
  cases obtained with
  | built embeddings documents embedder _ held ends =>
      obtain ⟨valid, coordinates⟩ := build_valid embeddings documents embedder s ends
      refine ⟨valid, ?_⟩
      rw [← valid.rectangular, coordinates, Nat.mul_comm]
      exact held
  | loaded directory files _ ends =>
      obtain ⟨index, sidecar, -, -, ends⟩ := load_ok directory files s ends
      rcases restored_valid directory index sidecar with ⟨path, damage, corrupt⟩ | ⟨t, same, valid⟩
      · cases corrupt.symm.trans ends
      · cases same.symm.trans ends
        exact valid

theorem known_name_kept (name : Option String) (named : name ≠ some "") : knownName name = name := by
  cases name with
  | none => rfl
  | some n =>
      refine Option.filter_eq_some_iff.mpr ⟨rfl, ?_⟩
      have filled : n ≠ "" := fun same => named (congrArg some same)
      simpa using filled

def content (s : Store) : IndexContent := { dim := s.dim, count := s.size, vectors := s.vectors }

theorem encode_content (s : Store) : encodeIndex s = s.content.bytes := rfl

/-- Factors that are no greater but have the same product are the same. -/
theorem factors_same (rows width count dim : Nat) (countLe : count ≤ rows) (dimLe : dim ≤ width)
    (product : rows * width = count * dim) (flat : width = 0 ↔ rows = 0) : count = rows ∧ dim = width := by
  by_cases none : rows = 0
  · have zero := flat.mpr none
    omega
  · have positive : 0 < width := Nat.pos_of_ne_zero fun zero => none (flat.mp zero)
    have wide : count * dim ≤ count * width := Nat.mul_le_mul_left count dimLe
    have all : count = rows := by
      by_contra fewer
      have less : count * width < rows * width := Nat.mul_lt_mul_of_pos_right (by omega) positive
      omega
    rw [← all] at product
    exact ⟨all, (Nat.eq_of_mul_eq_mul_left (by omega) product).symm⟩

/-- What is read from the index file of a valid store is its content, also when the header has no room
for its numbers: then nothing is read. -/
theorem content_only (s : Store) (valid : s.Valid) (index : IndexContent)
    (read : decodeIndex (encodeIndex s) = .ok index) : index = s.content := by
  obtain ⟨sound, same⟩ := (decode_index_exact _ index).mp read
  rw [encode_content] at same
  have header := congrArg (List.take headerLength) same
  have body := congrArg (List.drop headerLength) same
  rw [IndexContent.bytes, IndexContent.bytes, header_first, header_first] at header
  rw [IndexContent.bytes, IndexContent.bytes, (header_parts _ _ _).2.2.2.2,
    (header_parts _ _ _).2.2.2.2] at body
  have vectors : s.vectors = index.vectors := by
    rw [← singles_exact s.vectors, ← singles_exact index.vectors]
    exact congrArg singles body
  obtain ⟨dims, counts⟩ := header_alike _ _ _ _ header
  rw [Nat.mod_eq_of_lt sound.dim_small] at dims
  rw [Nat.mod_eq_of_lt sound.count_small] at counts
  -- the header keeps remainders only, but the rows themselves say how many coordinates there are
  have dimLe : index.dim ≤ s.dim := dims ▸ Nat.mod_le _ _
  have countLe : index.count ≤ s.size := counts ▸ Nat.mod_le _ _
  have product : s.size * s.dim = index.count * index.dim := by
    rw [← valid.rectangular, ← sound.whole, vectors]
  obtain ⟨count, dim⟩ := factors_same s.size s.dim index.count index.dim countLe dimLe product valid.flat
  rw [content, ← count, ← dim, vectors]

theorem content_sound (s : Store) (valid : s.Valid) (addressable : s.size * s.dim * 4 < wordLimit)
    (small : s.dim < 2 ^ 32) : s.content.Sound where
  dim_small := small
  whole := valid.rectangular
  addressable := addressable
  extended := fun rows => Nat.pos_of_ne_zero fun flat => Nat.ne_of_gt rows (valid.flat.mp flat)
  count_small := by
    show s.size < 2 ^ 64
    unfold wordLimit at addressable
    by_cases rows : s.size = 0
    · omega
    · have positive : 0 < s.dim := Nat.pos_of_ne_zero fun flat => rows (valid.flat.mp flat)
      have bound : s.size * 1 ≤ s.size * s.dim := Nat.mul_le_mul_left s.size positive
      omega

theorem empty_unique (s : Store) (valid : s.Valid) (none : s.size = 0) : s = empty := by
  obtain ⟨dim, vectors, documents, embedder⟩ := s
  have documents_ : documents = [] := List.length_eq_zero_iff.mp none
  have flat : dim = 0 := valid.flat.mpr none
  have vectors_ : vectors = [] := by
    apply List.length_eq_zero_iff.mp
    rw [show vectors.length = _ from valid.rectangular, none, Nat.zero_mul]
  have tag : embedder = Option.none := valid.untagged none
  subst documents_ flat vectors_ tag
  rfl

theorem assemble_same (s : Store) (valid : s.Valid) :
    assemble s.content { dim := some s.dim, documents := s.documents, embedder := s.embedder } = .ok s := by
  unfold assemble
  rw [if_neg (by simp [content, size])]
  dsimp only
  rw [if_neg (by simp [content])]
  split
  · next none => rw [empty_unique s valid none]
  · rfl

/-- The two files of a store make the store again. -/
theorem restored_same (s : Store) (valid : s.Valid) (addressable : s.size * s.dim * 4 < wordLimit)
    (small : s.dim < 2 ^ 32) (restorable : ∀ d ∈ s.documents, d.Restorable) (directory : List Char) :
    restored directory (encodeIndex s) (encodeSidecar s) = .ok s := by
  have sound := content_sound s valid addressable small
  have readIndex := content_read s.content sound
  have word : s.dim < wordLimit := Nat.lt_trans small (by decide)
  have readSidecar := sidecar_read s word (known_name_kept s.embedder valid.named) restorable
  simp only [encode_content, restored, readIndex, readSidecar, Except.bind, assemble_same s valid]

/-- Whatever is made of the two files of a store is the store, also when its header has no room for its
numbers. -/
theorem restored_only (s : Store) (valid : s.Valid) (addressable : s.size * s.dim * 4 < wordLimit)
    (restorable : ∀ d ∈ s.documents, d.Restorable) (directory : List Char) (t : Store)
    (ends : restored directory (encodeIndex s) (encodeSidecar s) = .ok t) : t = s := by
  obtain ⟨index, parts, readIndex, readSidecar, fits⟩ := restored_ok directory _ _ t ends
  cases content_only s valid index readIndex
  have word : s.dim < wordLimit := by
    by_cases none : s.size = 0
    · rw [valid.flat.mpr none]
      decide
    · have rows : 1 * s.dim ≤ s.size * s.dim := Nat.mul_le_mul_right s.dim (Nat.pos_of_ne_zero none)
      omega
  have whole := sidecar_read s word (known_name_kept s.embedder valid.named) restorable
  cases readSidecar.symm.trans whole
  exact Except.ok.inj (fits.symm.trans (assemble_same s valid))

theorem persisted_load (s : Store) (directory : List Char) (files later : Files)
    (persisted : s.persist directory files = (later, .ok ())) :
    load directory later = .error (.notFound (String.ofList directory)) ∨
      load directory later = restored directory (encodeIndex s) (encodeSidecar s) := by
  obtain ⟨sameIndex, sameSidecar⟩ := persisted_read s directory files later persisted
  rcases load_cases directory later with ⟨-, loaded⟩ | ⟨index, sidecar, readIndex, readSidecar, loaded⟩
  · exact .inl loaded
  · rw [loaded, sameIndex index readIndex, sameSidecar sidecar readSidecar]
    exact .inr rfl

theorem restored_index (s : Store) (filled : 0 < s.size) (directory : List Char) (index sidecar : Bytes)
    (ends : restored directory index sidecar = .ok s) : encodeIndex s = index := by
  obtain ⟨content, parts, readIndex, -, fits⟩ := restored_ok directory index sidecar s ends
  obtain ⟨-, same⟩ := (decode_index_exact index content).mp readIndex
  unfold assemble at fits
  split at fits
  · cases fits
  next count =>
  dsimp only at fits
  split at fits
  · cases fits
  split at fits
  · cases fits
    exact absurd filled (Nat.lt_irrefl 0)
  · cases fits
    rw [same, IndexContent.bytes, ← Decidable.not_not.mp count]
    rfl

section Exact

/-- A store whose files say all of it: the dimension fits the header, and the documents can be restored. -/
structure Storable (s : Store) : Prop where
  obtained : s.Obtained
  narrow : s.dim < 2 ^ 32
  restorable : ∀ d ∈ s.documents, d.Restorable

theorem storable_restored (s : Store) (storable : s.Storable) (directory : List Char) :
    restored directory (encodeIndex s) (encodeSidecar s) = .ok s := by
  obtain ⟨valid, addressable⟩ := obtained_valid s storable.obtained
  exact restored_same s valid addressable storable.narrow storable.restorable directory

/-- Persisting a store and loading it gives the store again, as long as the path still leads to a
directory; and an index file with rows that was loaded is written again byte for byte. -/
theorem persistence_exact :
    (∀ s : Store, s.Storable → ∀ directory files later,
      s.persist directory files = (later, .ok ()) → later.Reaches directory →
        load directory later = .ok s) ∧
    (∀ directory files s, load directory files = .ok s → 0 < s.size →
      ∃ bytes, files.read (indexPath directory) = .ok bytes ∧
        ∀ target others later, s.persist target others = (later, .ok ()) →
          ∃ place, others.target target = .ok place ∧
            later.entryAt (place ++ [indexFile]) = some (.file bytes)) := by
  constructor
  · intro s storable directory files later persisted reaches
    obtain ⟨place, holds⟩ := persisted_holds s directory files later persisted reaches
    rw [load_restored directory later _ _ (holds_index holds) (holds_sidecar holds)]
    exact storable_restored s storable directory
  · intro directory files s loaded filled
    obtain ⟨index, sidecar, readIndex, -, ends⟩ := load_ok directory files s loaded
    refine ⟨index, readIndex, fun target others later persisted => ?_⟩
    obtain ⟨place, led, written, -⟩ := persisted_places s target others later persisted
    refine ⟨place, led, ?_⟩
    rw [written, restored_index s filled directory index sidecar ends]

def selfLinked : Files where
  entries := [([['d']], .directory), ([['d'], sidecarFile], .link ['.'])]

def oneDocument : Store := { dim := 1, vectors := [⟨0x3f800000⟩], documents := [{ source := "a.md" }] }

theorem one_document_storable : oneDocument.Storable where
  obtained := .built [[⟨0x3f800000⟩]] [{ source := "a.md" }] none oneDocument (by decide) rfl
  narrow := by decide
  restorable := fun d member => d.plain_restorable (List.mem_singleton.mp member ▸ rfl)

/-- Persisting under the link puts the sidecar in the place of the link, and the path is lost. -/
theorem persisted_link_lost :
    oneDocument.Storable ∧
      (oneDocument.persist (Path.join ['d'] sidecarFile) selfLinked).2 = .ok () ∧
      load (Path.join ['d'] sidecarFile)
        (oneDocument.persist (Path.join ['d'] sidecarFile) selfLinked).1 =
          .error (.notFound "d/metadata.json") := by
  refine ⟨one_document_storable, by decide +kernel, ?_⟩
  have missing : Files.isFile (oneDocument.persist (Path.join ['d'] sidecarFile) selfLinked).1
      (indexPath (Path.join ['d'] sidecarFile)) = false := by
    decide +kernel
  rw [load, Loading.run, Loading.step, missing, Bool.false_and, if_neg (by decide), Loading.run_finished]
  rfl

theorem persistence_exact_plain :
    ∃ later, oneDocument.persist ['d'] selfLinked = (later, .ok ()) ∧ later.Reaches ['d'] ∧
      load ['d'] later = .ok oneDocument := by
  have persisted : oneDocument.persist ['d'] selfLinked =
      ((oneDocument.persist ['d'] selfLinked).1, .ok ()) := by
    decide +kernel
  have reaches : (oneDocument.persist ['d'] selfLinked).1.Reaches ['d'] := by
    refine ⟨[['d']], ?_⟩
    decide +kernel
  refine ⟨_, persisted, reaches, ?_⟩
  exact persistence_exact.1 oneDocument one_document_storable ['d'] selfLinked _ persisted reaches

end Exact

end Store

end CodeReview
