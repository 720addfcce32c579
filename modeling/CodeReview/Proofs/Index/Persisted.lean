import CodeReview.Index.Directory
import CodeReview.Proofs.Files.Located

/-!
What persisting leaves behind. Each of the two moves puts one file of a directory in the place of what had
its name, and nothing else changes. A path may lead to the directory through a link that has the name of
one of the files; such a path leads nowhere afterwards, which is why a reader of the directory has to be
able to reach it still.
-/

namespace CodeReview

open Artifact

structure Holds (files : Files) (directory : List Char) (place : Place) (index sidecar : Bytes) :
    Prop where
  located : files.locateDirectory (Files.pieces directory) = .ok place
  index : files.entryAt (place ++ [indexFile]) = some (.file index)
  sidecar : files.entryAt (place ++ [sidecarFile]) = some (.file sidecar)
  indexPath : Files.checkPath (indexPath directory) = .ok ()
  sidecarPath : Files.checkPath (sidecarPath directory) = .ok ()

namespace Files

def Reaches (files : Files) (directory : List Char) : Prop :=
  ∃ place, files.locateDirectory (pieces directory) = .ok place

def target (files : Files) (directory : List Char) : FileResult Place := do
  let made ← files.makeDirectories directory
  made.locateDirectory (pieces directory)

end Files

section Reading

theorem index_plain : Files.Plain indexFile := ⟨by decide, by decide, by decide⟩

theorem sidecar_plain : Files.Plain sidecarFile := ⟨by decide, by decide, by decide⟩

variable {files : Files} {directory : List Char} {place : Place} {index sidecar : Bytes}

theorem holds_index (holds : Holds files directory place index sidecar) :
    files.read (indexPath directory) = .ok index :=
  Files.read_below directory indexFile index_plain index place holds.indexPath holds.located
    holds.index

theorem holds_sidecar (holds : Holds files directory place index sidecar) :
    files.read (sidecarPath directory) = .ok sidecar :=
  Files.read_below directory sidecarFile sidecar_plain sidecar place holds.sidecarPath
    holds.located holds.sidecar

end Reading

section Moving

theorem below_nonempty (place : Place) (name : List Char) : place ++ [name] ≠ [] := by simp

theorem files_apart (place : Place) : place ++ [indexFile] ≠ place ++ [sidecarFile] := by
  intro same
  have names := (List.append_right_inj place).mp same
  cases names

theorem move_into_ok (files later : Files) (directory name : List Char) (content : Bytes)
    (moved : files.moveInto directory name content = .ok later) :
    Files.checkPath (Path.join directory name) = .ok () ∧
      ∃ place, files.locateDirectory (Files.pieces directory) = .ok place ∧
        files.entryAt (place ++ [name]) ≠ some .directory ∧
        later = files.put (place ++ [name]) (.file content) := by
  obtain ⟨good, checked, moved⟩ := bind_ok moved
  obtain ⟨place, located, moved⟩ := bind_ok moved
  split at moved
  · cases moved
  · next noDirectory =>
      cases moved
      exact ⟨checked, place, located, noDirectory, rfl⟩

theorem move_over (files : Files) (directory name : List Char) (place : Place) (old content : Bytes)
    (good : Files.checkPath (Path.join directory name) = .ok ())
    (located : files.locateDirectory (Files.pieces directory) = .ok place)
    (there : files.entryAt (place ++ [name]) = some (.file old)) :
    ∃ later, files.moveInto directory name content = .ok later ∧
      later.locateDirectory (Files.pieces directory) = .ok place ∧
      ∀ other, later.entryAt other =
        if other = place ++ [name] then some (.file content) else files.entryAt other := by
  have below : place ++ [name] ≠ [] := below_nonempty place name
  have keeps : Files.Keeps files (files.put (place ++ [name]) (.file content)) := by
    apply Files.keeps_put files _ below
    · simp [there]
    · simp [there]
  refine ⟨files.put (place ++ [name]) (.file content), ?_, ?_, ?_⟩
  · rw [Files.moveInto, good, ok_bind, located, ok_bind, there]
  · exact Files.directory_kept keeps _ place located
  · exact fun other => Files.entry_put files _ other _ below

variable {files : Files} {directory : List Char} {place : Place} {index sidecar : Bytes}

theorem move_index (holds : Holds files directory place index sidecar) (content : Bytes) :
    ∃ later, files.moveInto directory indexFile content = .ok later ∧
      Holds later directory place content sidecar := by
  obtain ⟨later, moved, located, entries⟩ := move_over files directory indexFile place index content
    holds.indexPath holds.located holds.index
  refine ⟨later, moved, located, ?_, ?_, holds.indexPath, holds.sidecarPath⟩
  · rw [entries, if_pos rfl]
  · rw [entries, if_neg (files_apart place).symm, holds.sidecar]

theorem move_sidecar (holds : Holds files directory place index sidecar) (content : Bytes) :
    ∃ later, files.moveInto directory sidecarFile content = .ok later ∧
      Holds later directory place index content := by
  obtain ⟨later, moved, located, entries⟩ := move_over files directory sidecarFile place sidecar content
    holds.sidecarPath holds.located holds.sidecar
  refine ⟨later, moved, located, ?_, ?_, holds.indexPath, holds.sidecarPath⟩
  · rw [entries, if_neg (files_apart place), holds.index]
  · rw [entries, if_pos rfl]

end Moving

section Persisting

theorem stage_same (files later : Files) (directory : List Char)
    (staged : Persisting.stage files directory = .ok later) : later = files := by
  obtain ⟨_, -, staged⟩ := bind_ok staged
  cases staged
  rfl

theorem run_ended (s : Store) (directory : List Char) (steps : Nat) (files : Files)
    (result : FileResult Unit) :
    Persisting.run s directory steps files (.finished result) = (files, .finished result) := by
  induction steps with
  | zero => rfl
  | succ n ih => exact ih

theorem go_on_ok (s : Store) (directory : List Char) (steps : Nat) (files : Files) (next : Persisting)
    (outcome : FileResult Files)
    (ends : (Persisting.run s directory steps (Persisting.goOn files next outcome).1
      (Persisting.goOn files next outcome).2).2.result = .ok ()) :
    ∃ changed, outcome = .ok changed ∧ Persisting.goOn files next outcome = (changed, next) := by
  cases outcome with
  | ok changed => exact ⟨changed, rfl, rfl⟩
  | error e =>
      rw [Persisting.goOn, run_ended] at ends
      cases ends

theorem run_next (s : Store) (directory : List Char) (steps : Nat) (files : Files) (next : Persisting) :
    Persisting.run s directory (steps + 1) files next =
      Persisting.run s directory steps (Persisting.step s directory files next).1
        (Persisting.step s directory files next).2 := rfl

/-- A store was persisted when both moves came about. -/
theorem persist_ok (s : Store) (directory : List Char) (files later : Files)
    (persisted : s.persist directory files = (later, .ok ())) :
    ∃ made middle, files.makeDirectories directory = .ok made ∧
      made.moveInto directory indexFile (encodeIndex s) = .ok middle ∧
      middle.moveInto directory sidecarFile (encodeSidecar s) = .ok later := by
  have left : (Persisting.run s directory 5 files .makeDirectory).1 = later :=
    (Prod.mk.inj persisted).1
  have ends : (Persisting.run s directory 5 files .makeDirectory).2.result = .ok () :=
    map_error_ok (Prod.mk.inj persisted).2
  rw [run_next, Persisting.step] at ends left
  obtain ⟨made, makes, same⟩ := go_on_ok s directory 4 files _ _ ends
  rw [same, run_next, Persisting.step] at ends left
  obtain ⟨staged, stages, same⟩ := go_on_ok s directory 3 made _ _ ends
  rw [same, run_next, Persisting.step] at ends left
  obtain ⟨staged', stages', same⟩ := go_on_ok s directory 2 staged _ _ ends
  rw [same, run_next, Persisting.step] at ends left
  obtain ⟨middle, moves, same⟩ := go_on_ok s directory 1 staged' _ _ ends
  rw [same, run_next, Persisting.step] at ends left
  obtain ⟨last, moves', same⟩ := go_on_ok s directory 0 middle _ _ ends
  rw [same] at left
  cases left
  cases stage_same made staged directory stages
  cases stage_same _ staged' directory stages'
  exact ⟨_, middle, makes, moves, moves'⟩

/-- After a store was persisted its two files are in the directory that the path led to. -/
theorem persisted_places (s : Store) (directory : List Char) (files later : Files)
    (persisted : s.persist directory files = (later, .ok ())) :
    ∃ place, files.target directory = .ok place ∧
      later.entryAt (place ++ [indexFile]) = some (.file (encodeIndex s)) ∧
      later.entryAt (place ++ [sidecarFile]) = some (.file (encodeSidecar s)) ∧
      (∀ reached, later.locateDirectory (Files.pieces directory) = .ok reached → reached = place) ∧
      Files.checkPath (indexPath directory) = .ok () ∧
      Files.checkPath (sidecarPath directory) = .ok () ∧
      ∃ made, made.locateDirectory (Files.pieces directory) = .ok place ∧ Files.Overlays made later := by
  obtain ⟨made, middle, makes, first, second⟩ := persist_ok s directory files later persisted
  obtain ⟨indexGood, place, located, noIndex, rfl⟩ :=
    move_into_ok made middle directory indexFile _ first
  obtain ⟨sidecarGood, place', located', noSidecar, last⟩ :=
    move_into_ok _ later directory sidecarFile _ second
  -- the directory is where it was before either move, since no way to it passes the new files
  have back : ∀ reached, later.locateDirectory (Files.pieces directory) = .ok reached →
      reached = place' := by
    intro reached found
    rw [last] at found
    have same := Files.directory_kept (Files.put_keeps _ _ (below_nonempty place' sidecarFile) _) _ _
      found
    exact Except.ok.inj (same.symm.trans located')
  have same := Files.directory_kept
    (Files.put_keeps made _ (below_nonempty place indexFile) (encodeIndex s)) _ _ located'
  cases Except.ok.inj (same.symm.trans located)
  refine ⟨place, ?_, ?_, ?_, back, indexGood, sidecarGood, made, located, ?_⟩
  · rw [Files.target, makes]
    exact located
  · rw [last, Files.entry_put _ _ _ _ (below_nonempty place sidecarFile), if_neg (files_apart place),
      Files.entry_put _ _ _ _ (below_nonempty place indexFile), if_pos rfl]
  · rw [last, Files.entry_put _ _ _ _ (below_nonempty place sidecarFile), if_pos rfl]
  · rw [last]
    have first := Files.overlays_put made _ (below_nonempty place indexFile)
      (Files.keeps_overlays (Files.keeps_refl made)) (encodeIndex s) noIndex
    exact Files.overlays_put _ _ (below_nonempty place sidecarFile) first (encodeSidecar s) noSidecar

theorem persisted_holds (s : Store) (directory : List Char) (files later : Files)
    (persisted : s.persist directory files = (later, .ok ())) (reaches : later.Reaches directory) :
    ∃ place, Holds later directory place (encodeIndex s) (encodeSidecar s) := by
  obtain ⟨place, -, index, sidecar, only, indexGood, sidecarGood, -⟩ :=
    persisted_places s directory files later persisted
  obtain ⟨reached, located⟩ := reaches
  cases only reached located
  exact ⟨_, located, index, sidecar, indexGood, sidecarGood⟩

/-- Where a path leads to one of the two files after a store was persisted, it is the store's file. -/
theorem persisted_read (s : Store) (directory : List Char) (files later : Files)
    (persisted : s.persist directory files = (later, .ok ())) :
    (∀ bytes, later.read (indexPath directory) = .ok bytes → bytes = encodeIndex s) ∧
      ∀ bytes, later.read (sidecarPath directory) = .ok bytes → bytes = encodeSidecar s := by
  obtain ⟨place, -, index, sidecar, -, indexGood, sidecarGood, made, located, overlays⟩ :=
    persisted_places s directory files later persisted
  have found : ∀ name content, Files.Plain name → Files.checkPath (Path.join directory name) = .ok () →
      later.entryAt (place ++ [name]) = some (.file content) →
      ∀ bytes, later.read (Path.join directory name) = .ok bytes → bytes = content := by
    intro name content plain good there bytes read
    unfold Files.read at read
    rcases Files.find_overlaid directory name plain content place good located overlays there with
      same | ⟨-, fails⟩
    · rw [same] at read
      exact (Except.ok.inj read).symm
    · rw [fails] at read
      cases read
  exact ⟨found indexFile _ index_plain indexGood index, found sidecarFile _ sidecar_plain sidecarGood sidecar⟩

end Persisting

end CodeReview
