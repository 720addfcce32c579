import CodeReview.Proofs.Index.Damage
import CodeReview.Proofs.Index.RoundTrip

/-!
One writer and one reader at the same directory, in any order of their steps. The directory is there, so
the writer has come to its files; that it stops somewhere is the case of schedules in which it takes no
more steps.

A reader may get the index of one store and the sidecar of another. It notices when their counts or
dimensions differ, and only then.
-/

namespace CodeReview

open Artifact

inductive Actor
  | writer
  | reader
  deriving DecidableEq, Repr

structure Scene where
  files : Files
  writer : Persisting
  reader : Loading

namespace Scene

section Running

variable (s : Store) (directory : List Char)

def step (scene : Scene) : Actor → Scene
  | .writer =>
      { scene with
        files := (Persisting.step s directory scene.files scene.writer).1
        writer := (Persisting.step s directory scene.files scene.writer).2 }
  | .reader => { scene with reader := Loading.step directory scene.files scene.reader }

def run (scene : Scene) (schedule : List Actor) : Scene := schedule.foldl (step s directory) scene

end Running

def start (files : Files) : Scene := { files, writer := .stageIndex, reader := .look false }

/-- The stores whose index and whose sidecar are in the directory while one is written over another. -/
def shelf (old new : Store) : Persisting → Store × Store
  | .placeSidecar => (new, old)
  | .finished (.ok ()) => (new, new)
  | _ => (old, old)

def Seen (old new : Store) (directory : List Char) : Loading → Prop
  | .readSidecar _ content =>
      ∃ x, (x = old ∨ x = new) ∧ decodeIndex (encodeIndex x) = .ok content
  | .finished (.ok s) =>
      ∃ x y, (x = old ∨ x = new) ∧ (y = old ∨ y = new) ∧
        restored directory (encodeIndex x) (encodeSidecar y) = .ok s
  | _ => True

structure Invariant (old new : Store) (directory : List Char) (place : Place) (scene : Scene) : Prop where
  holds : Holds scene.files directory place (encodeIndex (shelf old new scene.writer).1)
    (encodeSidecar (shelf old new scene.writer).2)
  seen : Seen old new directory scene.reader

section Steps

variable (old new : Store) (directory : List Char) (place : Place)

theorem shelf_among (writer : Persisting) :
    ((shelf old new writer).1 = old ∨ (shelf old new writer).1 = new) ∧
      ((shelf old new writer).2 = old ∨ (shelf old new writer).2 = new) := by
  unfold shelf
  split <;> simp

theorem stage_there (files : Files) (index sidecar : Bytes)
    (holds : Holds files directory place index sidecar) :
    Persisting.stage files directory = .ok files := by
  rw [Persisting.stage, holds.located]
  rfl

theorem grows_holds (files later : Files) (index sidecar : Bytes) (grows : Files.Grows files later)
    (holds : Holds files directory place index sidecar) : Holds later directory place index sidecar where
  located := Files.directory_kept (Files.grows_keeps grows) _ place holds.located
  index := grows.entry _ _ holds.index
  sidecar := grows.entry _ _ holds.sidecar
  indexPath := holds.indexPath
  sidecarPath := holds.sidecarPath

/-- A step of the writer puts at most one of the new files in place, the index first. -/
theorem writer_step (files : Files) (writer : Persisting)
    (holds : Holds files directory place (encodeIndex (shelf old new writer).1)
      (encodeSidecar (shelf old new writer).2)) :
    Holds (Persisting.step new directory files writer).1 directory place
      (encodeIndex (shelf old new (Persisting.step new directory files writer).2).1)
      (encodeSidecar (shelf old new (Persisting.step new directory files writer).2).2) := by
  cases writer with
  | makeDirectory =>
      cases makes : files.makeDirectories directory with
      | error e =>
          simp only [Persisting.step, makes, Persisting.goOn]
          exact holds
      | ok made =>
          simp only [Persisting.step, makes, Persisting.goOn]
          exact grows_holds directory place files made _ _
            (Files.make_directories_grows files made directory makes) holds
  | stageIndex =>
      simp only [Persisting.step, stage_there directory place files _ _ holds, Persisting.goOn]
      exact holds
  | stageSidecar =>
      simp only [Persisting.step, stage_there directory place files _ _ holds, Persisting.goOn]
      exact holds
  | placeIndex =>
      obtain ⟨later, moved, after⟩ := move_index holds (encodeIndex new)
      simp only [Persisting.step, moved, Persisting.goOn]
      exact after
  | placeSidecar =>
      obtain ⟨later, moved, after⟩ := move_sidecar holds (encodeSidecar new)
      simp only [Persisting.step, moved, Persisting.goOn]
      exact after
  | finished result => exact holds

theorem damaged_seen (again : Bool) (path : List Char) (damage : Damage) :
    Seen old new directory (Loading.damaged again path damage) := by
  unfold Loading.damaged
  split <;> trivial

theorem reader_step (files : Files) (reader : Loading) (x y : Store) (amongX : x = old ∨ x = new)
    (amongY : y = old ∨ y = new)
    (holds : Holds files directory place (encodeIndex x) (encodeSidecar y))
    (seen : Seen old new directory reader) :
    Seen old new directory (Loading.step directory files reader) := by
  cases reader with
  | look again =>
      rw [Loading.look_step directory files again _ _ (holds_index holds) (holds_sidecar holds)]
      trivial
  | readIndex again =>
      rw [Loading.index_step directory files again _ (holds_index holds)]
      unfold Loading.tookIndex
      split
      · exact damaged_seen old new directory again _ _
      · next content read => exact ⟨x, amongX, read⟩
  | readSidecar again content =>
      -- the index may have been replaced since it was read; the sidecar is the one there now
      obtain ⟨earlier, among, read⟩ := seen
      rw [Loading.sidecar_step directory files again content _ (holds_sidecar holds)]
      unfold Loading.tookSidecar
      split
      · exact damaged_seen old new directory again _ _
      · next s together =>
          refine ⟨earlier, y, among, amongY, ?_⟩
          simp only [restored, read, together]
  | finished result => exact seen

theorem step_keeps (scene : Scene) (actor : Actor) (invariant : Invariant old new directory place scene) :
    Invariant old new directory place (step new directory scene actor) := by
  obtain ⟨holds, seen⟩ := invariant
  cases actor with
  | writer => exact ⟨writer_step old new directory place scene.files scene.writer holds, seen⟩
  | reader =>
      obtain ⟨amongX, amongY⟩ := shelf_among old new scene.writer
      exact ⟨holds, reader_step old new directory place scene.files scene.reader _ _ amongX amongY holds
        seen⟩

theorem run_keeps (scene : Scene) (schedule : List Actor)
    (invariant : Invariant old new directory place scene) :
    Invariant old new directory place (run new directory scene schedule) := by
  -- by the steps of the schedule: each keeps what is on the shelf and what the reader has
  induction schedule generalizing scene with
  | nil => exact invariant
  | cons actor rest ih => exact ih _ (step_keeps old new directory place scene actor invariant)

end Steps

/-- Whatever a reader ends with was made of one index and one sidecar. -/
theorem run_seen (old new : Store) (directory : List Char) (place : Place) (files : Files)
    (holds : Holds files directory place (encodeIndex old) (encodeSidecar old))
    (schedule : List Actor) (s : Store)
    (ends : (run new directory (start files) schedule).reader = .finished (.ok s)) :
    ∃ x y, (x = old ∨ x = new) ∧ (y = old ∨ y = new) ∧
      restored directory (encodeIndex x) (encodeSidecar y) = .ok s := by
  have invariant := run_keeps old new directory place (start files) schedule ⟨holds, trivial⟩
  have seen := invariant.seen
  rw [ends] at seen
  exact seen

end Scene

namespace Store

section Mixing

def mixed (x y : Store) : Store :=
  { dim := x.dim, vectors := x.vectors, documents := y.documents, embedder := y.embedder }

/-- Two stores that differ both in the vectors and in what goes with them, and in nothing that a reader
compares. -/
structure Confusable (a b : Store) : Prop where
  size : a.size = b.size
  dim : a.dim = b.dim
  vectors : a.vectors ≠ b.vectors
  others : a.documents ≠ b.documents ∨ a.embedder ≠ b.embedder

/-- An index and a sidecar go together only when they agree on the count and the dimension. -/
theorem restored_agree (x y s : Store) (validX : x.Valid) (validY : y.Valid) (directory : List Char)
    (ends : restored directory (encodeIndex x) (encodeSidecar y) = .ok s) :
    x.size = y.size ∧ x.dim = y.dim := by
  obtain ⟨index, parts, readIndex, readSidecar, fits⟩ := restored_ok directory _ _ s ends
  cases content_only x validX index readIndex
  obtain ⟨dim, count⟩ := sidecar_outline y parts readSidecar
  obtain ⟨records, dims⟩ := assemble_fits x.content parts s fits
  have size : x.size = y.size := records.symm.trans count
  refine ⟨size, ?_⟩
  by_cases rows : x.size = 0
  · rw [validX.flat.mpr rows, validY.flat.mpr (size ▸ rows)]
  · have same := dims (Nat.pos_of_ne_zero rows)
    rw [dim, Option.getD_some] at same
    exact same.symm

theorem mixed_valid (x y : Store) (validX : x.Valid) (validY : y.Valid) (size : x.size = y.size) :
    (mixed x y).Valid where
  rectangular := by
    show x.vectors.length = y.size * x.dim
    rw [validX.rectangular, size]
  flat := by
    show x.dim = 0 ↔ y.size = 0
    rw [validX.flat, size]
  untagged := validY.untagged
  named := validY.named

theorem restored_mixed (x y : Store) (storableX : x.Storable) (storableY : y.Storable)
    (size : x.size = y.size) (dim : x.dim = y.dim) (directory : List Char) :
    restored directory (encodeIndex x) (encodeSidecar y) = .ok (mixed x y) := by
  obtain ⟨validX, addressable⟩ := obtained_valid x storableX.obtained
  obtain ⟨validY, -⟩ := obtained_valid y storableY.obtained
  have index : encodeIndex x = encodeIndex (mixed x y) := by
    show header x.dim x.size ++ _ = header x.dim y.size ++ _
    rw [size]
    rfl
  have sidecar : encodeSidecar y = encodeSidecar (mixed x y) := by
    rw [encodeSidecar, encodeSidecar, sidecarJson, sidecarJson, ← dim]
    rfl
  rw [index, sidecar]
  refine restored_same (mixed x y) (mixed_valid x y validX validY size) ?_ storableX.narrow
    storableY.restorable directory
  show y.size * x.dim * 4 < wordLimit
  rw [← size]
  exact addressable

end Mixing

end Store

namespace Scene

section Whole

open Store

variable (old new : Store) (directory : List Char) (place : Place) (files : Files)

theorem whole_or_agree (holds : Holds files directory place (encodeIndex old) (encodeSidecar old))
    (validOld : old.Valid) (validNew : new.Valid) (schedule : List Actor) (s : Store)
    (ends : (run new directory (start files) schedule).reader = .finished (.ok s)) :
    restored directory (encodeIndex old) (encodeSidecar old) = .ok s ∨
      restored directory (encodeIndex new) (encodeSidecar new) = .ok s ∨
      (old.size = new.size ∧ old.dim = new.dim) := by
  obtain ⟨x, y, amongX, amongY, fits⟩ := run_seen old new directory place files holds schedule s ends
  rcases amongX with rfl | rfl <;> rcases amongY with rfl | rfl
  · exact .inl fits
  · exact .inr (.inr (restored_agree _ _ s validOld validNew directory fits))
  · obtain ⟨size, dim⟩ := restored_agree _ _ s validNew validOld directory fits
    exact .inr (.inr ⟨size.symm, dim.symm⟩)
  · exact .inr (.inl fits)

/-- A mixture of stores that are not confusable is one of them. -/
theorem mixed_whole (x y : Store) (size : x.size = y.size) (dim : x.dim = y.dim)
    (apart : ¬ Confusable x y) : mixed x y = x ∨ mixed x y = y := by
  by_cases vectors : x.vectors = y.vectors
  · right
    rw [mixed, vectors, dim]
  · left
    have others : ¬ (x.documents ≠ y.documents ∨ x.embedder ≠ y.embedder) := fun others =>
      apart ⟨size, dim, vectors, others⟩
    obtain ⟨documents, embedder⟩ := not_or.mp others
    rw [mixed, ← Decidable.not_not.mp embedder, ← Classical.not_not.mp documents]

theorem confusable_symm (a b : Store) (confusable : Confusable a b) : Confusable b a where
  size := confusable.size.symm
  dim := confusable.dim.symm
  vectors := confusable.vectors.symm
  others := confusable.others.imp Ne.symm Ne.symm

theorem unconfusable_whole (holds : Holds files directory place (encodeIndex old) (encodeSidecar old))
    (storableOld : old.Storable) (storableNew : new.Storable) (apart : ¬ Confusable old new)
    (schedule : List Actor) (s : Store)
    (ends : (run new directory (start files) schedule).reader = .finished (.ok s)) :
    s = old ∨ s = new := by
  have validOld := (obtained_valid old storableOld.obtained).1
  have validNew := (obtained_valid new storableNew.obtained).1
  obtain ⟨x, y, amongX, amongY, fits⟩ := run_seen old new directory place files holds schedule s ends
  rcases amongX with rfl | rfl <;> rcases amongY with rfl | rfl
  · have same := storable_restored _ storableOld directory
    exact .inl (Except.ok.inj (fits.symm.trans same))
  · obtain ⟨size, dim⟩ := restored_agree _ _ s validOld validNew directory fits
    have same := restored_mixed _ _ storableOld storableNew size dim directory
    rw [Except.ok.inj (fits.symm.trans same)]
    exact mixed_whole _ _ size dim apart
  · obtain ⟨size, dim⟩ := restored_agree _ _ s validNew validOld directory fits
    have same := restored_mixed _ _ storableNew storableOld size dim directory
    rw [Except.ok.inj (fits.symm.trans same)]
    exact (mixed_whole _ _ size dim fun confusable => apart (confusable_symm _ _ confusable)).symm
  · have same := storable_restored _ storableNew directory
    exact .inr (Except.ok.inj (fits.symm.trans same))

def betweenMoves : List Actor := [.writer, .writer, .writer, .reader, .reader, .reader]

theorem between_moves_read (holds : Holds files directory place (encodeIndex old) (encodeSidecar old))
    (s : Store) (fits : restored directory (encodeIndex new) (encodeSidecar old) = .ok s) :
    (run new directory (start files) betweenMoves).reader = .finished (.ok s) := by
  obtain ⟨later, moved, after⟩ := move_index holds (encodeIndex new)
  have staged := stage_there directory place files _ _ holds
  obtain ⟨index, parts, readIndex, readSidecar, together⟩ := restored_ok directory _ _ s fits
  simp only [run, betweenMoves, List.foldl_cons, List.foldl_nil, step, start, Persisting.step, staged,
    moved, Persisting.goOn]
  rw [Loading.look_step directory later false _ _ (holds_index after) (holds_sidecar after),
    Loading.index_step directory later false _ (holds_index after), Loading.tookIndex, readIndex]
  dsimp only
  rw [Loading.sidecar_step directory later false index _ (holds_sidecar after), Loading.tookSidecar,
    readSidecar]
  simp only [Except.bind, together]

theorem confusable_mixed (holds : Holds files directory place (encodeIndex old) (encodeSidecar old))
    (storableOld : old.Storable) (storableNew : new.Storable) (confusable : Confusable old new) :
    ∃ schedule s, (run new directory (start files) schedule).reader = .finished (.ok s) ∧
      s ≠ old ∧ s ≠ new := by
  refine ⟨betweenMoves, mixed new old, ?_, ?_, ?_⟩
  · apply between_moves_read old new directory place files holds
    exact restored_mixed new old storableNew storableOld confusable.size.symm confusable.dim.symm directory
  · intro same
    exact confusable.vectors (congrArg Store.vectors same).symm
  · intro same
    rcases confusable.others with documents | embedder
    · have kept := congrArg Store.documents same
      exact documents kept
    · have kept := congrArg Store.embedder same
      exact embedder kept

/-- A load beside a writer gets what a load of the one or of the other store alone gets, except when counts
and dimensions agree. Of stores that can be stored, it gets one or the other as a whole in every order of
the steps exactly when they are not confusable. -/
theorem whole_stores_exact (old new : Store) (directory : List Char) (before files : Files)
    (persisted : old.persist directory before = (files, .ok ())) (reaches : files.Reaches directory) :
    (old.Valid → new.Valid → ∀ schedule s,
      (run new directory (start files) schedule).reader = .finished (.ok s) →
        restored directory (encodeIndex old) (encodeSidecar old) = .ok s ∨
        restored directory (encodeIndex new) (encodeSidecar new) = .ok s ∨
        (old.size = new.size ∧ old.dim = new.dim)) ∧
    (old.Storable → new.Storable →
      ((∀ schedule s, (run new directory (start files) schedule).reader = .finished (.ok s) →
        s = old ∨ s = new) ↔ ¬ Confusable old new)) := by
  obtain ⟨place, holds⟩ := persisted_holds old directory before files persisted reaches
  refine ⟨whole_or_agree old new directory place files holds, fun storableOld storableNew => ?_⟩
  constructor
  · intro whole confusable
    obtain ⟨schedule, s, ends, other, another⟩ :=
      confusable_mixed old new directory place files holds storableOld storableNew confusable
    rcases whole schedule s ends with same | same
    · exact other same
    · exact another same
  · exact unconfusable_whole old new directory place files holds storableOld storableNew

def oneRowOf (first second : Decimal.Single) (source : String) : Store :=
  { dim := 2, vectors := [first, second], documents := [{ source }], embedder := some "mock-hash-2" }

theorem one_row_storable (first second : Decimal.Single) (source : String) :
    (oneRowOf first second source).Storable where
  obtained := .built [[first, second]] [{ source }] (some "mock-hash-2") _
    (show 8 < wordLimit by decide) rfl
  narrow := show 2 < 2 ^ 32 by decide
  restorable := fun d member => d.plain_restorable (List.mem_singleton.mp member ▸ rfl)

theorem whole_stores_exact_mixture :
    let old := oneRowOf ⟨0x3f800000⟩ ⟨0⟩ "old.md"
    let new := oneRowOf ⟨0⟩ ⟨0x3f800000⟩ "new.md"
    Confusable old new ∧ ¬ ∀ schedule s,
      (run new ['a'] (start (old.persist ['a'] {}).1) schedule).reader = .finished (.ok s) →
        s = old ∨ s = new := by
  have apart : Confusable (oneRowOf ⟨0x3f800000⟩ ⟨0⟩ "old.md") (oneRowOf ⟨0⟩ ⟨0x3f800000⟩ "new.md") :=
    ⟨rfl, rfl, by decide, .inl fun same => absurd (congrArg (List.map Document.source) same) (by decide)⟩
  have persisted : ((oneRowOf ⟨0x3f800000⟩ ⟨0⟩ "old.md").persist ['a'] {}).2 = .ok () := by
    decide +kernel
  have reaches : ((oneRowOf ⟨0x3f800000⟩ ⟨0⟩ "old.md").persist ['a'] {}).1.Reaches ['a'] := by
    refine ⟨[['a']], ?_⟩
    decide +kernel
  refine ⟨apart, fun whole => ?_⟩
  have exact_ := whole_stores_exact (oneRowOf ⟨0x3f800000⟩ ⟨0⟩ "old.md")
    (oneRowOf ⟨0⟩ ⟨0x3f800000⟩ "new.md") ['a'] {} _ (Prod.ext rfl persisted) reaches
  exact (exact_.2 (one_row_storable _ _ _) (one_row_storable _ _ _)).mp whole apart

end Whole

end Scene

end CodeReview
