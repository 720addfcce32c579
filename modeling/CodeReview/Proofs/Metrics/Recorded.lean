import CodeReview.Metrics.Sink
import CodeReview.Proofs.Files.Rooted

/-!
Records written one after another into one file. As long as they are refused, nothing but directories comes.
From the first that is written on, all are, and each line stands behind what the file held before.
-/

namespace CodeReview

namespace Files

section Adding

/-- Bytes have come behind those of the file at a place, and directories may have come elsewhere. -/
structure Appended (files later : Files) (place : Place) (added : Bytes) : Prop where
  here : later.here = files.here
  isOpen : files.Open place
  stillOpen : later.Open place
  content : later.contentAt place = files.contentAt place ++ added
  entry : ∀ other entry, other ≠ place → files.entryAt other = some entry → later.entryAt other = some entry
  file : ∀ other content, other ≠ place → later.entryAt other = some (.file content) →
    files.entryAt other = some (.file content)

theorem appended_refl {files : Files} {place : Place} (isOpen : files.Open place) :
    Appended files files place [] where
  here := rfl
  isOpen := isOpen
  stillOpen := isOpen
  content := (List.append_nil _).symm
  entry := fun _ _ _ same => same
  file := fun _ _ _ same => same

theorem appended_trans {first second third : Files} {place : Place} {one two : Bytes}
    (before : Appended first second place one) (after : Appended second third place two) :
    Appended first third place (one ++ two) where
  here := after.here.trans before.here
  isOpen := before.isOpen
  stillOpen := after.stillOpen
  content := by rw [after.content, before.content, List.append_assoc]
  entry := fun other entry away same => after.entry other entry away (before.entry other entry away same)
  file := fun other content away same => before.file other content away (after.file other content away same)

theorem appended_put {files : Files} {place : Place} (isOpen : files.Open place) (added : Bytes) :
    Appended files (files.put place (.file (files.contentAt place ++ added))) place added := by
  have put := fun other => entry_put files place other (.file (files.contentAt place ++ added)) (open_below isOpen)
  have here := (put place).trans (if_pos rfl)
  constructor
  · rfl
  · exact isOpen
  · exact .inr ⟨_, here⟩
  · exact content_file here
  · intro other entry away same
    rw [put other, if_neg away, same]
  · intro other content away same
    rw [put other, if_neg away] at same
    exact same

theorem makes_appended {files made later : Files} {place : Place} {added : Bytes} (makes : Makes files made)
    (appended : Appended made later place added) : Appended files later place added := by
  obtain ⟨isOpen, same⟩ := makes_open makes appended.isOpen
  constructor
  · exact appended.here.trans makes.grows.here
  · exact isOpen
  · exact appended.stillOpen
  · rw [same]
    exact appended.content
  · intro other entry away there
    exact appended.entry other entry away (makes.grows.entry other entry there)
  · intro other content away there
    exact makes.file other content (appended.file other content away there)

theorem appended_file {files later : Files} {place : Place} {added : Bytes} (some_ : added ≠ [])
    (appended : Appended files later place added) :
    later.entryAt place = some (.file (files.contentAt place ++ added)) := by
  rcases appended.stillOpen with free | ⟨content, file⟩
  · have nothing := appended.content
    rw [content_none free] at nothing
    exact absurd (List.append_eq_nil_iff.mp nothing.symm).2 some_
  · rw [file, ← appended.content, content_file file]

end Adding

end Files

namespace MetricsSink

open Files

section Line

def prepared (path : List Char) (files : Files) : FileResult Files :=
  if (parent path).isEmpty then .ok files
  else do
    checkPath path
    files.makeDirectoriesFrom (parent path) (parent path).dropLast.reverse

variable {path : List Char} {files made later : Files} {place : Place}

theorem prepared_makes (prepares : prepared path files = .ok made) : Makes files made := by
  unfold prepared at prepares
  split at prepares
  · cases prepares
    exact makes_refl files
  · obtain ⟨checked, -, prepares⟩ := bind_ok prepares
    exact make_directories_from_makes prepares

theorem takes_prepared (rooted : Rooted files) (takes : files.Takes path place) :
    prepared path files = .ok files := by
  obtain ⟨front, name, middle, split, located⟩ := takes_above rooted takes
  have undotted := undotted_components path
  rw [split] at undotted
  obtain ⟨less, same, undotted⟩ := undotted_last undotted
  have above : parent path = less := by rw [parent, same, List.dropLast_concat]
  rw [prepared, above, takes.checked]
  by_cases empty : less = []
  · rw [if_pos (List.isEmpty_iff.mpr empty)]
  · rw [if_neg (fun none => empty (List.isEmpty_iff.mp none))]
    exact located_made rooted (located_undotted undotted located) empty _

theorem append_line_prepared (path : List Char) (line : Bytes) (files : Files) :
    appendLine path line files =
      match prepared path files with
      | .error refusal => (files, Except.error refusal)
      | .ok made =>
          match made.append path line with
          | .error refusal => (made, Except.error refusal)
          | .ok later => (later, Except.ok ()) := rfl

theorem append_line_refused {line : Bytes} {refusal : FileError}
    (refused : appendLine path line files = (later, .error refusal)) : Makes files later := by
  rw [append_line_prepared] at refused
  split at refused
  · cases refused
    exact makes_refl files
  · next made prepares =>
      split at refused
      · cases refused
        exact prepared_makes prepares
      · cases refused

theorem append_line_ok (line : Bytes) : appendLine path line files = (later, .ok ()) ↔
    ∃ made place, prepared path files = .ok made ∧ made.Takes path place ∧
      later = made.put place (.file (made.contentAt place ++ line)) := by
  rw [append_line_prepared]
  constructor
  · intro added
    split at added
    · cases added
    next made prepares =>
    split at added
    · cases added
    next last appends =>
    cases added
    obtain ⟨place, takes, rfl⟩ := append_takes appends
    exact ⟨made, place, prepares, takes, rfl⟩
  · rintro ⟨made, place, prepares, takes, rfl⟩
    rw [prepares]
    dsimp only
    rw [takes_append takes]

end Line

section Runs

/-- The files after some records were handed to a sink for one path, and the records that were written. -/
def recordEach (path : String) : Files → List ReviewMetrics → Files × List ReviewMetrics
  | files, [] => (files, [])
  | files, m :: rest =>
      match (MetricsSink.file path).record m files [] with
      | (files, _, .error _) => recordEach path files rest
      | (files, _, .ok ()) =>
          let (files, written) := recordEach path files rest
          (files, m :: written)

variable {path : String} {files later : Files} {place : Place} {m : ReviewMetrics}

theorem record_each_written (rest : List ReviewMetrics)
    (added : appendLine path.toList (line m) files = (later, .ok ())) :
    recordEach path files (m :: rest) =
      ((recordEach path later rest).1, m :: (recordEach path later rest).2) := by
  rw [recordEach, record, added]
  rfl

theorem record_each_refused (rest : List ReviewMetrics) {refusal : FileError}
    (refused : appendLine path.toList (line m) files = (later, .error refusal)) :
    recordEach path files (m :: rest) = recordEach path later rest := by
  rw [recordEach, record, refused]
  rfl

/-- A file that takes one line takes all of them. -/
theorem record_each_takes (rooted : Rooted files) (takes : files.Takes path.toList place)
    (ms : List ReviewMetrics) :
    (recordEach path files ms).2 = ms ∧
      Appended files (recordEach path files ms).1 place (ms.flatMap line) ∧
      (recordEach path files ms).1.Takes path.toList place := by
  induction ms generalizing files with
  | nil => exact ⟨rfl, appended_refl takes.isOpen, takes⟩
  | cons m rest ih =>
      have below : place ≠ [] := open_below takes.isOpen
      have appended := appended_put takes.isOpen (line m)
      have added := (append_line_ok (line m)).mpr ⟨files, place, takes_prepared rooted takes, takes, rfl⟩
      have still := takes_kept takes (open_put_keeps takes.isOpen _) appended.stillOpen
      have stillRooted := rooted_put rooted below (.file (files.contentAt place ++ line m))
        (open_no_directory takes.isOpen) nofun
      obtain ⟨written, further, ends⟩ := ih stillRooted still
      rw [record_each_written rest added]
      refine ⟨?_, ?_, ends⟩
      · rw [written]
      · exact appended_trans appended further

/-- The first record makes the directories; it is all one whether they were there before. -/
theorem record_each_prepared (rooted : Rooted files) {made : Files} (prepares : prepared path.toList files = .ok made)
    (takes : made.Takes path.toList place) (m : ReviewMetrics) (rest : List ReviewMetrics) :
    recordEach path files (m :: rest) = recordEach path made (m :: rest) := by
  have again := takes_prepared ((prepared_makes prepares).rooted rooted) takes
  have first := (append_line_ok (line m)).mpr ⟨made, place, prepares, takes, rfl⟩
  have second := (append_line_ok (line m)).mpr ⟨made, place, again, takes, rfl⟩
  rw [record_each_written rest first, record_each_written rest second]

/-- The records that were written are the last ones, and their lines stand behind the bytes that the file had. -/
theorem record_each_appends (path : String) (rooted : Rooted files) (ms : List ReviewMetrics) :
    (recordEach path files ms).2 = [] ∧ Makes files (recordEach path files ms).1 ∨
      ∃ made place, Makes files made ∧ made.Takes path.toList place ∧
        (recordEach path files ms).2 <:+ ms ∧ (recordEach path files ms).2 ≠ [] ∧
        Appended made (recordEach path files ms).1 place ((recordEach path files ms).2.flatMap line) ∧
        (recordEach path files ms).1.Takes path.toList place := by
  induction ms generalizing files with
  | nil => exact .inl ⟨rfl, makes_refl files⟩
  | cons m rest ih =>
      cases answer : appendLine path.toList (line m) files with
      | mk later outcome =>
          cases outcome with
          | error refusal =>
              have makes := append_line_refused answer
              rw [record_each_refused rest answer]
              rcases ih (makes.rooted rooted) with ⟨none, made⟩ | ⟨made, place, makes', takes, suffix, further⟩
              · exact .inl ⟨none, makes_trans makes made⟩
              · right
                refine ⟨made, place, makes_trans makes makes', takes, ?_, further⟩
                exact suffix.trans (List.suffix_cons m rest)
          | ok done =>
              obtain ⟨made, place, prepares, takes, -⟩ := (append_line_ok (line m)).mp answer
              have makes := prepared_makes prepares
              obtain ⟨written, appended, ends⟩ := record_each_takes (makes.rooted rooted) takes (m :: rest)
              right
              rw [record_each_prepared rooted prepares takes m rest, written]
              exact ⟨made, place, makes, takes, List.suffix_refl _, List.cons_ne_nil _ _, appended, ends⟩

end Runs

end MetricsSink

end CodeReview
