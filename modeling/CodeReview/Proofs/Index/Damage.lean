import CodeReview.Proofs.Index.Invariant
import CodeReview.Proofs.Index.Sidecar

/-!
Damage to an index file is noticed as long as the sidecar is whole. The sidecar says how many rows there
are and how long they are, so a file that is accepted has the header that was written, and with it the
length.
-/

namespace CodeReview

open Decimal (Single)

namespace Artifact

/-- What is left of an index file that was cut short, went on too long, or has another header. -/
inductive Damaged (whole : Bytes) : Bytes → Prop
  | cut (kept lost : Bytes) (shorter : lost ≠ []) (parts : kept ++ lost = whole) : Damaged whole kept
  | extended (more : Bytes) (longer : more ≠ []) : Damaged whole (whole ++ more)
  | overwritten (other : Bytes) (length : other.length = whole.length)
      (differs : other.take headerLength ≠ whole.take headerLength) : Damaged whole other

theorem encoded_length (s : Store) (valid : s.Valid) :
    (encodeIndex s).length = headerLength + 4 * (s.size * s.dim) := by
  rw [← valid.rectangular]
  exact content_length { dim := s.dim, count := s.size, vectors := s.vectors }

theorem assemble_fits (index : IndexContent) (parts : Sidecar) (s : Store)
    (fits : assemble index parts = .ok s) :
    parts.documents.length = index.count ∧ (0 < index.count → parts.dim.getD index.dim = index.dim) := by
  unfold assemble at fits
  split at fits
  · cases fits
  next same =>
  dsimp only at fits
  split at fits
  · cases fits
  next agrees =>
  refine ⟨Decidable.not_not.mp same, fun rows => ?_⟩
  by_contra differs
  exact agrees ⟨rows, differs⟩

/-- Beside the sidecar of a store no index is accepted but one of the same rows. -/
theorem accepted_header (s t : Store) (filled : 0 < s.size) (directory : List Char) (found : Bytes)
    (accepted : restored directory found (encodeSidecar s) = .ok t) :
    ∃ content : IndexContent, found = content.bytes ∧ content.Sound ∧ content.dim = s.dim ∧
      content.count = s.size := by
  obtain ⟨content, parts, readIndex, readSidecar, fits⟩ :=
    restored_ok directory found (encodeSidecar s) t accepted
  obtain ⟨sound, same⟩ := (decode_index_exact found content).mp readIndex
  obtain ⟨dim, count⟩ := sidecar_outline s parts readSidecar
  obtain ⟨records, dims⟩ := assemble_fits content parts t fits
  -- with no rows the dimension would not be compared, which is why the store must not be empty
  have rows : content.count = s.size := records.symm.trans count
  have width := dims (rows ▸ filled)
  rw [dim, Option.getD_some] at width
  exact ⟨content, same, sound, width.symm, rows⟩

/-- What is accepted beside the sidecar has the length and the header of the file that was written. -/
theorem accepted_outline (s t : Store) (valid : s.Valid) (filled : 0 < s.size) (directory : List Char)
    (found : Bytes) (accepted : restored directory found (encodeSidecar s) = .ok t) :
    found.length = (encodeIndex s).length ∧ found.take headerLength = (encodeIndex s).take headerLength := by
  obtain ⟨content, same, sound, dim, count⟩ := accepted_header s t filled directory found accepted
  rw [same, content_length, sound.whole, dim, count, encoded_length s valid]
  refine ⟨rfl, ?_⟩
  rw [IndexContent.bytes, encodeIndex, header_first, header_first, dim, count]

theorem damaged_refused (s t : Store) (valid : s.Valid) (filled : 0 < s.size) (directory : List Char)
    (found : Bytes) (damaged : Damaged (encodeIndex s) found) :
    restored directory found (encodeSidecar s) ≠ .ok t := by
  intro accepted
  obtain ⟨length, first⟩ := accepted_outline s t valid filled directory found accepted
  cases damaged with
  | cut _ lost shorter parts =>
      rw [← parts, List.length_append] at length
      exact shorter (List.length_eq_zero_iff.mp (by omega))
  | extended more longer =>
      rw [List.length_append] at length
      exact longer (List.length_eq_zero_iff.mp (by omega))
  | overwritten _ _ differs => exact differs first

theorem other_header_refused (s t : Store) (filled : 0 < s.size) (directory : List Char)
    (dim count : Nat) (body : Bytes) (dimSmall : dim < 2 ^ 32) (countSmall : count < 2 ^ 64)
    (other : (dim, count) ≠ (s.dim, s.size)) :
    restored directory (header dim count ++ body) (encodeSidecar s) ≠ .ok t := by
  intro accepted
  obtain ⟨content, same, sound, width, rows⟩ :=
    accepted_header s t filled directory (header dim count ++ body) accepted
  have first := congrArg (List.take headerLength) same
  rw [IndexContent.bytes, header_first, header_first] at first
  obtain ⟨sameDim, sameCount⟩ := header_alike dim count content.dim content.count first
  rw [Nat.mod_eq_of_lt dimSmall, Nat.mod_eq_of_lt sound.dim_small] at sameDim
  rw [Nat.mod_eq_of_lt countSmall, Nat.mod_eq_of_lt sound.count_small] at sameCount
  exact other (by rw [sameDim, sameCount, width, rows])

/-- With the sidecar of a store beside it, a damaged index file, or one with any other dimension or count
in its header, is noticed by every load. -/
theorem damage_noticed (s : Store) (valid : s.Valid) (filled : 0 < s.size) (directory : List Char)
    (files : Files) (found : Bytes) (readIndex : files.read (indexPath directory) = .ok found)
    (intact : files.read (sidecarPath directory) = .ok (encodeSidecar s))
    (harm : Damaged (encodeIndex s) found ∨
      ∃ dim count body, dim < 2 ^ 32 ∧ count < 2 ^ 64 ∧ (dim, count) ≠ (s.dim, s.size) ∧
        found = header dim count ++ body) :
    ∃ path damage, Store.load directory files = .error (.corrupt path damage) := by
  rw [load_restored directory files found (encodeSidecar s) readIndex intact]
  rcases restored_valid directory found (encodeSidecar s) with corrupt | ⟨t, accepted, -⟩
  · exact corrupt
  · rcases harm with damaged | ⟨dim, count, body, dimSmall, countSmall, other, rfl⟩
    · exact absurd accepted (damaged_refused s t valid filled directory found damaged)
    · exact absurd accepted
        (other_header_refused s t filled directory dim count body dimSmall countSmall other)

def wideRow : Store := { dim := 2, vectors := [⟨0⟩, ⟨1⟩], documents := [{ source := "a" }] }

/-- The files of it, where the index says that it is two rows of one coordinate. -/
def swapped : Files where
  entries := [([indexFile], .file (header 1 2 ++ wideRow.vectors.flatMap Single.bytes)),
    ([sidecarFile], .file (encodeSidecar wideRow))]

theorem damage_noticed_swapped :
    wideRow.Valid ∧ ∃ path damage, Store.load [] swapped = .error (.corrupt path damage) := by
  have valid : wideRow.Valid := ⟨rfl, by decide, nofun, nofun⟩
  have intact : swapped.read (sidecarPath []) = .ok (encodeSidecar wideRow) := by decide +kernel
  have readIndex : swapped.read (indexPath []) =
      .ok (header 1 2 ++ wideRow.vectors.flatMap Single.bytes) := by
    decide +kernel
  refine ⟨valid, damage_noticed wideRow valid (by decide) [] swapped _ readIndex intact ?_⟩
  exact .inr ⟨1, 2, _, by decide, by decide, by decide, rfl⟩

end Artifact

end CodeReview
