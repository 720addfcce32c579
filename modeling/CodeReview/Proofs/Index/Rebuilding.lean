import CodeReview.Proofs.Index.Interleaving
import CodeReview.Proofs.Index.Serving

/-!
An index that is built while the first retrieval loads the one that is there already. The retrieval looks
at the slot, reads the directory and publishes what it has read; the rebuild persists its store and
publishes it. The retrieval does not look at the slot again before it publishes. So the older store takes
the place of the one that was built when the whole rebuild comes between the reading and the publishing,
and in no other order of the steps.
-/

namespace CodeReview

/-- The next step of a retrieval on its way to a store, or the store that it goes on with. -/
inductive FirstUse
  | look
  | read
  | publish (store : Store)
  | finished (result : Except Failure Store)

inductive Rebuild
  | persist
  | publish
  | finished (result : Except IndexError Unit)

structure Race where
  files : Files
  slot : Slot
  reader : FirstUse
  writer : Rebuild

namespace Race

section Running

variable (new : Store) (directory : List Char)

def readerStep (race : Race) : Race :=
  match race.reader with
  | .look =>
      match race.slot.store? with
      | some store => { race with reader := .finished (.ok store) }
      | none => { race with reader := .read }
  | .read =>
      match Store.load directory race.files with
      | .ok store => { race with reader := .publish store }
      | .error e => { race with reader := .finished (.error (.index e)) }
  | .publish store =>
      { race with slot := race.slot.publish store, reader := .finished (.ok store) }
  | .finished _ => race

def writerStep (race : Race) : Race :=
  match race.writer with
  | .persist =>
      match new.persist directory race.files with
      | (files, .ok _) => { race with files, writer := .publish }
      | (files, .error e) => { race with files, writer := .finished (.error e) }
  | .publish => { race with slot := race.slot.publish new, writer := .finished (.ok ()) }
  | .finished _ => race

def step (race : Race) : Actor → Race
  | .writer => writerStep new directory race
  | .reader => readerStep directory race

def run (race : Race) (schedule : List Actor) : Race := schedule.foldl (step new directory) race

theorem run_cons (race : Race) (actor : Actor) (rest : List Actor) :
    run new directory race (actor :: rest) = run new directory (step new directory race actor) rest := rfl

/-- What holds of a race and is kept by each step is kept by a schedule. -/
theorem run_keeps (keeps : Race → Prop)
    (one : ∀ race actor, keeps race → keeps (step new directory race actor)) (race : Race)
    (schedule : List Actor) (before : keeps race) : keeps (run new directory race schedule) := by
  induction schedule generalizing race with
  | nil => exact before
  | cons actor rest ih => exact ih _ (one race actor before)

end Running

def start (files : Files) (slot : Slot) : Race := { files, slot, reader := .look, writer := .persist }

def Over (race : Race) : Prop :=
  (∃ result, race.reader = .finished result) ∧ ∃ result, race.writer = .finished result

/-- The whole rebuild comes after the reading and before anything else that the reader does. -/
def overtaken : List Actor := [.reader, .reader, .writer, .writer]

section Alone

theorem reader_alone (r : Retriever) (new : Store) (files : Files) (slot : Slot) :
    (run new r.directory.toList (start files slot) [.reader, .reader, .reader]).slot =
        (r.current files slot).1 ∧
      (run new r.directory.toList (start files slot) [.reader, .reader, .reader]).reader =
        .finished (r.current files slot).2 := by
  simp only [run, start, List.foldl_cons, List.foldl_nil, step]
  cases held : slot.store? with
  | some store =>
      rw [Retriever.current, held]
      simp only [readerStep, held, and_self]
  | none =>
      rw [current_none r files slot held]
      cases loaded : Store.load r.directory.toList files with
      | ok store =>
          rw [reload_ok r files slot store loaded]
          simp only [readerStep, held, loaded, and_self]
      | error e =>
          rw [reload_error r files slot e loaded]
          simp only [readerStep, held, loaded, and_self]

/-- A writer with nobody else at work leaves the files and the slot that the service leaves. -/
theorem writer_alone (e : Engine) (root : String) (s : Session) (new : Store) (stats : IndexBuild.Stats)
    (built : (IndexBuild.build e.provider e.settings.retrieval root s.files).value.2 =
      .ok (new, stats)) :
    (run new e.settings.retrieval.indexDir.toList (start s.files s.slot) [.writer, .writer]).files =
        (e.buildIndex root s).value.1.files ∧
      (run new e.settings.retrieval.indexDir.toList (start s.files s.slot) [.writer, .writer]).slot =
        (e.buildIndex root s).value.1.slot := by
  have persisted := IndexBuild.build_persisted e.provider e.settings.retrieval root s.files _ new stats
    (Prod.ext rfl built)
  rw [Engine.build_index_ok e s root new stats built]
  simp only [run, start, List.foldl_cons, List.foldl_nil, step, writerStep, persisted, and_self]

end Alone

section Ending

variable (new : Store) (directory : List Char)

def readerLeft : FirstUse → Nat
  | .look => 3
  | .read => 2
  | .publish _ => 1
  | .finished _ => 0

def writerLeft : Rebuild → Nat
  | .persist => 2
  | .publish => 1
  | .finished _ => 0

theorem reader_progress (race : Race) :
    readerLeft (readerStep directory race).reader ≤ readerLeft race.reader - 1 ∧
      (readerStep directory race).writer = race.writer := by
  obtain ⟨files, slot, reader, writer⟩ := race
  cases reader with
  | look => cases held : slot.store? <;> simp [readerStep, held, readerLeft]
  | read => cases loaded : Store.load directory files <;> simp [readerStep, loaded, readerLeft]
  | publish store => simp [readerStep, readerLeft]
  | finished result => simp [readerStep, readerLeft]

theorem writer_progress (race : Race) :
    writerLeft (writerStep new directory race).writer ≤ writerLeft race.writer - 1 ∧
      (writerStep new directory race).reader = race.reader := by
  obtain ⟨files, slot, reader, writer⟩ := race
  cases writer with
  | persist =>
      cases persisted : new.persist directory files with
      | mk later ended => cases ended <;> simp [writerStep, persisted, writerLeft]
  | publish => simp [writerStep, writerLeft]
  | finished result => simp [writerStep, writerLeft]

theorem run_progress (race : Race) (schedule : List Actor) :
    readerLeft (run new directory race schedule).reader ≤
        readerLeft race.reader - schedule.count .reader ∧
      writerLeft (run new directory race schedule).writer ≤
        writerLeft race.writer - schedule.count .writer := by
  induction schedule generalizing race with
  | nil => exact ⟨le_rfl, le_rfl⟩
  | cons actor rest ih =>
      obtain ⟨reader, writer⟩ := ih (step new directory race actor)
      rw [run_cons]
      cases actor with
      | writer =>
          obtain ⟨less, same⟩ := writer_progress new directory race
          simp only [step, same] at reader writer ⊢
          simp only [List.count_cons]
          refine ⟨by simpa using reader, ?_⟩
          simp only [BEq.rfl, ↓reduceIte]
          omega
      | reader =>
          obtain ⟨less, same⟩ := reader_progress directory race
          simp only [step, same] at reader writer ⊢
          simp only [List.count_cons]
          refine ⟨?_, by simpa using writer⟩
          simp only [BEq.rfl, ↓reduceIte]
          omega

theorem enough_over (files : Files) (slot : Slot) (schedule : List Actor)
    (readerSteps : 3 ≤ schedule.count .reader) (writerSteps : 2 ≤ schedule.count .writer) :
    Over (run new directory (start files slot) schedule) := by
  obtain ⟨reader, writer⟩ := run_progress new directory (start files slot) schedule
  have readerDone : readerLeft (run new directory (start files slot) schedule).reader = 0 :=
    Nat.le_zero.mp (reader.trans (Nat.sub_eq_zero_of_le readerSteps).le)
  have writerDone : writerLeft (run new directory (start files slot) schedule).writer = 0 :=
    Nat.le_zero.mp (writer.trans (Nat.sub_eq_zero_of_le writerSteps).le)
  constructor
  · cases ended : (run new directory (start files slot) schedule).reader with
    | finished result => exact ⟨result, rfl⟩
    | look | read | publish => simp [ended, readerLeft] at readerDone
  · cases ended : (run new directory (start files slot) schedule).writer with
    | finished result => exact ⟨result, rfl⟩
    | persist | publish => simp [ended, writerLeft] at writerDone

end Ending

section Deciding

variable (old new : Store) (directory : List Char) (files later : Files)

def Fresh : FirstUse → Prop
  | .publish store => store = new
  | _ => True

/-- The races that the new store wins: nothing older is published any more once it can be, and before that
only by a reader that has come to its end. -/
inductive Sure (race : Race) : Prop
  | before (result : Except Failure Store) : race.writer = .persist → race.files = files →
      race.reader = .finished result → Sure race
  | between : race.writer = .publish → race.files = later → Fresh new race.reader → Sure race
  | after (result : Except IndexError Unit) : race.writer = .finished result → race.files = later →
      Fresh new race.reader → race.slot.store? = some new → Sure race

inductive Late (race : Race) : Prop
  | carrying (result : Except IndexError Unit) : race.writer = .finished result →
      race.reader = .publish old → Late race
  | published (result : Except IndexError Unit) (result' : Except Failure Store) :
      race.writer = .finished result → race.reader = .finished result' →
      race.slot.store? = some old → Late race

theorem late_step (race : Race) (actor : Actor) (late : Late old race) :
    Late old (step new directory race actor) := by
  obtain ⟨files, slot, reader, writer⟩ := race
  cases late with
  | carrying result ended carries =>
      cases ended
      cases carries
      cases actor with
      | writer => exact .carrying result rfl rfl
      | reader => exact .published result _ rfl rfl rfl
  | published result result' ended settled held =>
      cases ended
      cases settled
      cases actor with
      | writer => exact .published result result' rfl rfl held
      | reader => exact .published result result' rfl rfl held

theorem late_ends (race : Race) (schedule : List Actor) (late : Late old race)
    (settled : Over (run new directory race schedule)) :
    (run new directory race schedule).slot.store? = some old := by
  obtain ⟨⟨result, settled⟩, -⟩ := settled
  cases run_keeps new directory (Late old) (late_step old new directory) race schedule late with
  | carrying _ _ carries => cases carries.symm.trans settled
  | published _ _ _ _ held => exact held

variable (persisted : new.persist directory files = (later, .ok ()))
  (only : ∀ store, Store.load directory later = .ok store → store = new)

include only in
/-- Beside the new files a reader reads and publishes nothing but the new store. -/
theorem reader_fresh (race : Race) (written : race.files = later) (fresh : Fresh new race.reader) :
    (readerStep directory race).writer = race.writer ∧ (readerStep directory race).files = later ∧
      Fresh new (readerStep directory race).reader ∧
      ((readerStep directory race).slot = race.slot ∨
        (readerStep directory race).slot.store? = some new) := by
  obtain ⟨now, slot, reader, writer⟩ := race
  cases written
  cases reader with
  | look =>
      cases held : slot.store? with
      | some store => simp [readerStep, held, Fresh]
      | none => simp [readerStep, held, Fresh]
  | read =>
      cases loaded : Store.load directory now with
      | ok store =>
          have same : store = new := only store loaded
          simp [readerStep, loaded, Fresh, same]
      | error e => simp [readerStep, loaded, Fresh]
  | publish store =>
      cases fresh
      exact ⟨rfl, rfl, trivial, .inr rfl⟩
  | finished result => exact ⟨rfl, rfl, trivial, .inl rfl⟩

include persisted only

/-- A race that is sure stays so: the reader goes on beside the new files only, and each step of the writer
leads to the next case. -/
theorem sure_step (race : Race) (actor : Actor) (sure : Sure new files later race) :
    Sure new files later (step new directory race actor) := by
  cases actor with
  | reader =>
      cases sure with
      | before result waits found settled =>
          have same : readerStep directory race = race := by rw [readerStep, settled]
          rw [step, same]
          exact .before result waits found settled
      | between waits written fresh =>
          obtain ⟨writer, files_, fresh', -⟩ := reader_fresh new directory later only race written fresh
          exact .between (writer.trans waits) files_ fresh'
      | after result ended written fresh held =>
          obtain ⟨writer, files_, fresh', slot⟩ :=
            reader_fresh new directory later only race written fresh
          refine .after result (writer.trans ended) files_ fresh' ?_
          rcases slot with same | published
          · exact (congrArg Slot.store? same).trans held
          · exact published
  | writer =>
      obtain ⟨files', slot, reader, writer⟩ := race
      cases sure with
      | before result waits found settled =>
          cases waits
          cases found
          cases settled
          refine .between ?_ ?_ ?_
          · simp only [step, writerStep, persisted]
          · simp only [step, writerStep, persisted]
          · simp only [step, writerStep, persisted, Fresh]
      | between waits written fresh =>
          cases waits
          exact .after (.ok ()) rfl written fresh rfl
      | after result ended written fresh held =>
          cases ended
          exact .after result rfl written fresh held

theorem sure_ends (race : Race) (schedule : List Actor) (sure : Sure new files later race)
    (settled : Over (run new directory race schedule)) :
    (run new directory race schedule).slot.store? = some new := by
  obtain ⟨-, result, settled⟩ := settled
  have one := sure_step new directory files later persisted only
  cases run_keeps new directory (Sure new files later) one race schedule sure with
  | before _ waits => cases waits.symm.trans settled
  | between waits => cases waits.symm.trans settled
  | after _ _ _ _ held => exact held

theorem sure_next (race : Race) (actor : Actor) (rest losing : List Actor)
    (sure : Sure new files later (step new directory race actor)) (other : ¬ losing <+: actor :: rest)
    (settled : Over (run new directory race (actor :: rest))) :
    (run new directory race (actor :: rest)).slot.store? =
      some (if losing <+: actor :: rest then old else new) := by
  rw [if_neg other]
  exact sure_ends new directory files later persisted only _ rest sure settled

variable (slot : Slot) (schedule : List Actor)

theorem decided_written
    (settled : Over (run new directory
      { files := later, slot, reader := .publish old, writer := .publish } schedule)) :
    (run new directory { files := later, slot, reader := .publish old, writer := .publish }
      schedule).slot.store? = some (if [.writer] <+: schedule then old else new) := by
  rcases schedule with _ | ⟨_ | _, rest⟩
  · obtain ⟨⟨result, ended⟩, -⟩ := settled
    cases ended
  · rw [run_cons] at settled ⊢
    rw [if_pos (by simp)]
    exact late_ends old new directory _ rest (.carrying (.ok ()) rfl rfl) settled
  · refine sure_next old new directory files later persisted only _ _ rest _ ?_ (by simp) settled
    exact .between rfl rfl trivial

theorem decided_carried
    (settled : Over (run new directory
      { files, slot, reader := .publish old, writer := .persist } schedule)) :
    (run new directory { files, slot, reader := .publish old, writer := .persist }
      schedule).slot.store? = some (if [.writer, .writer] <+: schedule then old else new) := by
  rcases schedule with _ | ⟨_ | _, rest⟩
  · obtain ⟨⟨result, ended⟩, -⟩ := settled
    cases ended
  · have written : step new directory
        { files, slot, reader := .publish old, writer := .persist } .writer =
          { files := later, slot, reader := .publish old, writer := .publish } := by
      simp only [step, writerStep, persisted]
    rw [run_cons, written] at settled ⊢
    simp only [List.cons_prefix_cons, true_and]
    exact decided_written old new directory files later persisted only slot rest settled
  · -- the old store is published before anything is persisted, and is replaced later
    refine sure_next old new directory files later persisted only _ _ rest _ ?_ (by simp) settled
    exact .before _ rfl rfl rfl

theorem decided_looked (older : Store.load directory files = .ok old)
    (settled : Over (run new directory { files, slot, reader := .read, writer := .persist } schedule)) :
    (run new directory { files, slot, reader := .read, writer := .persist } schedule).slot.store? =
      some (if [.reader, .writer, .writer] <+: schedule then old else new) := by
  rcases schedule with _ | ⟨_ | _, rest⟩
  · obtain ⟨⟨result, ended⟩, -⟩ := settled
    cases ended
  · refine sure_next old new directory files later persisted only _ _ rest _ ?_ (by simp) settled
    simp only [step, writerStep, persisted]
    exact .between rfl rfl trivial
  · have carried : step new directory { files, slot, reader := .read, writer := .persist } .reader =
        { files, slot, reader := .publish old, writer := .persist } := by
      simp only [step, readerStep, older]
    rw [run_cons, carried] at settled ⊢
    simp only [List.cons_prefix_cons, true_and]
    exact decided_carried old new directory files later persisted only slot rest settled

/-- Which store wins is decided within four steps. -/
theorem decided_started (empty : slot.store? = none) (older : Store.load directory files = .ok old)
    (settled : Over (run new directory (start files slot) schedule)) :
    (run new directory (start files slot) schedule).slot.store? =
      some (if overtaken <+: schedule then old else new) := by
  rcases schedule with _ | ⟨_ | _, rest⟩
  · obtain ⟨⟨result, ended⟩, -⟩ := settled
    cases ended
  · -- the new files are there before anything is read
    refine sure_next old new directory files later persisted only _ _ rest _ ?_ (by simp [overtaken]) settled
    simp only [start, step, writerStep, persisted]
    exact .between rfl rfl trivial
  · have looked : step new directory (start files slot) .reader =
        { files, slot, reader := .read, writer := .persist } := by
      simp only [step, start, readerStep, empty]
    rw [run_cons, looked] at settled ⊢
    simp only [overtaken, List.cons_prefix_cons, true_and]
    exact decided_looked old new directory files later persisted only slot rest older settled

end Deciding

section Exact

open Artifact

/-- Both come to an end when they have taken their steps, and then the store that was built is the published
one, unless the whole rebuild has come between the reading and the publishing of the older store: then the
older store is published. Either of them alone does what the service does. The new vectors have to fit into
memory. -/
theorem rebuild_race_exact (e : Engine) (root : String) (s : Session) (old new : Store) (later : Files)
    (stats : IndexBuild.Stats) (unused : s.slot.store? = none)
    (older : Store.load e.settings.retrieval.indexDir.toList s.files = .ok old)
    (built : (IndexBuild.build e.provider e.settings.retrieval root s.files).value =
      (later, .ok (new, stats)))
    (held : new.size * new.dim * 4 < wordLimit) :
    let race := run new e.settings.retrieval.indexDir.toList (start s.files s.slot)
    ((race [.reader, .reader, .reader]).slot = (e.retriever.current s.files s.slot).1 ∧
      (race [.reader, .reader, .reader]).reader = .finished (e.retriever.current s.files s.slot).2) ∧
    ((race [.writer, .writer]).files = (e.buildIndex root s).value.1.files ∧
      (race [.writer, .writer]).slot = (e.buildIndex root s).value.1.slot) ∧
    (∀ schedule : List Actor, 3 ≤ schedule.count .reader → 2 ≤ schedule.count .writer →
      Over (race schedule)) ∧
    ∀ schedule, Over (race schedule) →
      (race schedule).slot.store? = some (if overtaken <+: schedule then old else new) := by
  intro race
  have persisted := IndexBuild.build_persisted e.provider e.settings.retrieval root s.files later new
    stats built
  obtain ⟨stored, -⟩ := IndexBuild.build_stored e.provider.embedderId (fun _ => e.provider.embed)
    e.settings.retrieval root s.files new stats (congrArg Prod.snd built)
  obtain ⟨valid, -, restorable⟩ := IndexBuild.store_from_restorable e.provider e.settings.retrieval _ new
    stored
  have only : ∀ store, Store.load e.settings.retrieval.indexDir.toList later = .ok store →
      store = new := by
    intro store loaded
    rcases Store.persisted_load new _ s.files later persisted with missing | made
    · cases missing.symm.trans loaded
    · exact Store.restored_only new valid held restorable _ store (made.symm.trans loaded)
  refine ⟨reader_alone e.retriever new s.files s.slot, ?_, ?_, ?_⟩
  · exact writer_alone e root s new stats (congrArg Prod.snd built)
  · exact enough_over new _ s.files s.slot
  · intro schedule settled
    exact decided_started old new _ s.files later persisted only s.slot schedule unused older settled

def oneChunk : Store where
  dim := 1
  vectors := [⟨5⟩]
  documents := [{ source := "a.md", chunk := some "stale" }]
  embedder := some "m"

theorem one_chunk_storable : oneChunk.Storable where
  obtained := .built [[⟨5⟩]] oneChunk.documents (some "m") oneChunk (by decide) rfl
  narrow := by decide
  restorable := fun d member => d.plain_restorable (List.mem_singleton.mp member ▸ rfl)

theorem older_index : ∃ files later,
    Store.load "i".toList files = .ok oneChunk ∧ IndexBuild.OneFile files ∧
      Engine.twoChunks.persist "i".toList files = (later, .ok ()) := by
  obtain ⟨files, persisted, reaches, one, again⟩ : ∃ files,
      oneChunk.persist "i".toList Engine.linkedRepository = (files, .ok ()) ∧
        files.Reaches "i".toList ∧ IndexBuild.OneFile files ∧
        (Engine.twoChunks.persist "i".toList files).2 = .ok () :=
    ⟨_, Prod.ext rfl (by decide +kernel), ⟨[['i']], by decide +kernel⟩,
      ⟨by decide +kernel, by decide +kernel, by decide +kernel, by decide +kernel⟩,
      by decide +kernel⟩
  obtain ⟨place, holds⟩ := persisted_holds oneChunk "i".toList _ files persisted reaches
  refine ⟨files, _, ?_, one, Prod.ext rfl again⟩
  rw [load_restored "i".toList files _ _ (holds_index holds) (holds_sidecar holds)]
  exact Store.storable_restored oneChunk one_chunk_storable "i".toList

/-- Overtaken by the rebuild, the reader publishes what it has read of the older index; when it comes to its
end before, it does not. -/
theorem rebuild_race_overtaken :
    ∃ files later stats, Store.load "i".toList files = .ok oneChunk ∧
      (IndexBuild.build (Engine.indexedUnder "i").provider
        (Engine.indexedUnder "i").settings.retrieval "r" files).value =
          (later, .ok (Engine.twoChunks, stats)) ∧
      let race := run Engine.twoChunks "i".toList (start files {})
      (Over (race [.reader, .reader, .writer, .writer, .reader]) ∧
        (race [.reader, .reader, .writer, .writer, .reader]).slot.store? = some oneChunk) ∧
      Over (race [.reader, .reader, .writer, .reader, .writer]) ∧
        (race [.reader, .reader, .writer, .reader, .writer]).slot.store? = some Engine.twoChunks := by
  obtain ⟨files, later, older, one, persisted⟩ := older_index
  have built := Engine.one_file_built "i" files later one persisted
  have addressable : 2 * 1 * 4 < wordLimit := by decide
  obtain ⟨-, -, ends, wins⟩ := rebuild_race_exact (Engine.indexedUnder "i") "r" { files } oneChunk
    Engine.twoChunks later _ rfl older built addressable
  have late := ends [.reader, .reader, .writer, .writer, .reader] (by decide) (by decide)
  have early := ends [.reader, .reader, .writer, .reader, .writer] (by decide) (by decide)
  refine ⟨files, later, _, older, built, ⟨late, ?_⟩, early, ?_⟩
  · exact wins [.reader, .reader, .writer, .writer, .reader] late
  · exact wins [.reader, .reader, .writer, .reader, .writer] early

end Exact

end Race

end CodeReview
