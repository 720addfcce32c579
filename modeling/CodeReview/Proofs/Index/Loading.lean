import CodeReview.Index.Directory
import CodeReview.Proofs.Answer

/-!
Loading with nobody else at work. What is loaded depends on the bytes of the two files only; to read them
once more makes no difference then.
-/

namespace CodeReview

open Artifact

namespace Files

theorem read_entry (files : Files) (path : List Char) (bytes : Bytes)
    (read : files.read path = .ok bytes) : ∃ place, files.find path = .ok (place, .file bytes) := by
  obtain ⟨⟨place, entry⟩, found, read⟩ := bind_ok read
  cases entry with
  | file content =>
      cases read
      exact ⟨place, found⟩
  | directory => cases read
  | link target => cases read

theorem read_is_file (files : Files) (path : List Char) (bytes : Bytes)
    (read : files.read path = .ok bytes) : files.isFile path = true := by
  obtain ⟨place, found⟩ := read_entry files path bytes read
  rw [isFile, found]

theorem is_file_read (files : Files) (path : List Char) (present : files.isFile path = true) :
    ∃ bytes, files.read path = .ok bytes := by
  unfold isFile at present
  cases found : files.find path with
  | error e =>
      rw [found] at present
      cases present
  | ok hit =>
      obtain ⟨place, entry⟩ := hit
      rw [found] at present
      cases entry with
      | file content => exact ⟨content, by rw [read, found]; rfl⟩
      | directory => cases present
      | link target => cases present

def hasIndex (files : Files) (directory : List Char) : Bool :=
  files.isFile (indexPath directory) && files.isFile (sidecarPath directory)

end Files

namespace Loading

section Steps

variable (directory : List Char) (files : Files) (again : Bool)

theorem look_step (index sidecar : Bytes) (readIndex : files.read (indexPath directory) = .ok index)
    (readSidecar : files.read (sidecarPath directory) = .ok sidecar) :
    step directory files (.look again) = .readIndex again := by
  have isIndex := Files.read_is_file files _ index readIndex
  have isSidecar := Files.read_is_file files _ sidecar readSidecar
  simp only [step, isIndex, isSidecar, Bool.and_self, ↓reduceIte]

theorem index_step (index : Bytes) (readIndex : files.read (indexPath directory) = .ok index) :
    step directory files (.readIndex again) = tookIndex directory again index := by
  simp only [step, readIndex]

theorem sidecar_step (content : IndexContent) (sidecar : Bytes)
    (readSidecar : files.read (sidecarPath directory) = .ok sidecar) :
    step directory files (.readSidecar again content) =
      tookSidecar directory again content sidecar := by
  simp only [step, readSidecar]

theorem run_finished (steps : Nat) (result : Except IndexError Store) :
    run directory files steps (.finished result) = .finished result := by
  induction steps with
  | zero => rfl
  | succ n ih => rw [run, step, ih]

end Steps

end Loading

def restored (directory : List Char) (index sidecar : Bytes) : Except IndexError Store :=
  match decodeIndex index with
  | .error d => .error (.corrupt (String.ofList (indexPath directory)) d)
  | .ok content =>
      match (decodeSidecar sidecar).bind (assemble content) with
      | .error d => .error (.corrupt (String.ofList (sidecarPath directory)) d)
      | .ok s => .ok s

section Loaded

theorem restored_ok (directory : List Char) (index sidecar : Bytes) (s : Store)
    (ends : restored directory index sidecar = .ok s) :
    ∃ content parts, decodeIndex index = .ok content ∧ decodeSidecar sidecar = .ok parts ∧
      assemble content parts = .ok s := by
  unfold restored at ends
  cases readIndex : decodeIndex index with
  | error d =>
      rw [readIndex] at ends
      cases ends
  | ok content =>
      rw [readIndex] at ends
      dsimp only at ends
      cases together : (decodeSidecar sidecar).bind (assemble content) with
      | error d =>
          rw [together] at ends
          cases ends
      | ok s' =>
          rw [together] at ends
          cases ends
          obtain ⟨parts, readSidecar, fits⟩ := bind_ok together
          exact ⟨content, parts, rfl, readSidecar, fits⟩

/-- A reader that finds damage starts again, and finds the same again. -/
theorem load_restored (directory : List Char) (files : Files) (index sidecar : Bytes)
    (readIndex : files.read (indexPath directory) = .ok index)
    (readSidecar : files.read (sidecarPath directory) = .ok sidecar) :
    Store.load directory files = restored directory index sidecar := by
  have look : ∀ again, Loading.step directory files (.look again) = .readIndex again :=
    fun again => Loading.look_step directory files again index sidecar readIndex readSidecar
  have first : ∀ again, Loading.step directory files (.readIndex again) =
      Loading.tookIndex directory again index :=
    fun again => Loading.index_step directory files again index readIndex
  have second : ∀ again content, Loading.step directory files (.readSidecar again content) =
      Loading.tookSidecar directory again content sidecar :=
    fun again content => Loading.sidecar_step directory files again content sidecar readSidecar
  unfold Store.load restored
  -- the cases are the three ends of one attempt; after damage the second attempt takes the same way
  rw [Loading.run, look, Loading.run, first]
  cases decoded : decodeIndex index with
  | error d =>
      simp only [Loading.tookIndex, decoded, Loading.damaged, Bool.false_eq_true, ↓reduceIte]
      rw [Loading.run, look, Loading.run, first]
      simp only [Loading.tookIndex, decoded, Loading.damaged, ↓reduceIte, Loading.run_finished]
      rfl
  | ok content =>
      simp only [Loading.tookIndex, decoded]
      rw [Loading.run, second]
      cases together : (decodeSidecar sidecar).bind (assemble content) with
      | error d =>
          simp only [Loading.tookSidecar, together, Loading.damaged, Bool.false_eq_true, ↓reduceIte]
          rw [Loading.run, look, Loading.run, first]
          simp only [Loading.tookIndex, decoded]
          rw [Loading.run, second]
          simp only [Loading.tookSidecar, together, Loading.damaged, ↓reduceIte, Loading.run]
          rfl
      | ok s =>
          simp only [Loading.tookSidecar, together, Loading.run_finished]
          rfl

theorem load_missing (directory : List Char) (files : Files)
    (missing : files.hasIndex directory = false) :
    Store.load directory files = .error (.notFound (String.ofList directory)) := by
  unfold Files.hasIndex at missing
  rw [Store.load, Loading.run, Loading.step, missing, if_neg (by decide), Loading.run_finished]
  rfl

theorem load_cases (directory : List Char) (files : Files) :
    (files.hasIndex directory = false ∧
      Store.load directory files = .error (.notFound (String.ofList directory))) ∨
    ∃ index sidecar, files.read (indexPath directory) = .ok index ∧
      files.read (sidecarPath directory) = .ok sidecar ∧
      Store.load directory files = restored directory index sidecar := by
  by_cases present : files.hasIndex directory = true
  · obtain ⟨isIndex, isSidecar⟩ := Bool.and_eq_true_iff.mp present
    obtain ⟨index, readIndex⟩ := Files.is_file_read files _ isIndex
    obtain ⟨sidecar, readSidecar⟩ := Files.is_file_read files _ isSidecar
    have loaded := load_restored directory files index sidecar readIndex readSidecar
    exact .inr ⟨index, sidecar, readIndex, readSidecar, loaded⟩
  · have missing : files.hasIndex directory = false := Bool.eq_false_iff.mpr present
    exact .inl ⟨missing, load_missing directory files missing⟩

/-- Whatever is loaded was in the two files. -/
theorem load_ok (directory : List Char) (files : Files) (s : Store)
    (ends : Store.load directory files = .ok s) :
    ∃ index sidecar, files.read (indexPath directory) = .ok index ∧
      files.read (sidecarPath directory) = .ok sidecar ∧ restored directory index sidecar = .ok s := by
  rcases load_cases directory files with ⟨-, loaded⟩ | ⟨index, sidecar, readIndex, readSidecar, loaded⟩
  · cases loaded.symm.trans ends
  · exact ⟨index, sidecar, readIndex, readSidecar, loaded.symm.trans ends⟩

end Loaded

end CodeReview
