import CodeReview.Proofs.Files.Located

/-!
Bytes put behind those of a file. A path that leads to a file, or to a place where one can be made, still leads
there when directories have come or the file has grown; so each addition finds what the one before it left, and
no other file is touched.

A path may go through a directory that is not there yet. It leads nowhere then, and where it leads is known only
once the directory has been made.
-/

namespace CodeReview.Files

open CodeReview.Path (Component)

section Content

def contentAt (files : Files) (place : Place) : Bytes :=
  match files.entryAt place with
  | some (.file content) => content
  | _ => []

def Open (files : Files) (place : Place) : Prop :=
  files.entryAt place = none ∨ ∃ content, files.entryAt place = some (.file content)

variable {files : Files} {place : Place}

theorem content_file {content : Bytes} (there : files.entryAt place = some (.file content)) :
    files.contentAt place = content := by
  rw [contentAt, there]

theorem content_none (free : files.entryAt place = none) : files.contentAt place = [] := by
  rw [contentAt, free]

theorem open_below (isOpen : files.Open place) : place ≠ [] := by
  rintro rfl
  rcases isOpen with free | ⟨content, file⟩
  · cases free
  · cases file

theorem open_no_directory (isOpen : files.Open place) : files.entryAt place ≠ some .directory := by
  intro directory
  rcases isOpen with free | ⟨content, file⟩
  · cases free.symm.trans directory
  · cases file.symm.trans directory

theorem open_no_link (isOpen : files.Open place) (target : List Char) :
    files.entryAt place ≠ some (.link target) := by
  intro link
  rcases isOpen with free | ⟨content, file⟩
  · cases free.symm.trans link
  · cases file.symm.trans link

theorem open_put_keeps (isOpen : files.Open place) (content : Bytes) :
    Keeps files (files.put place (.file content)) := by
  apply keeps_put files place (open_below isOpen)
  · exact open_no_directory isOpen
  · exact open_no_link isOpen

end Content

section Reaching

variable {files later : Files}

/-- A walk goes the same way where all directories and links are kept, unless a link has come to its end. -/
theorem walk_reaches (keeps : Keeps files later) (place : Place) (pieces : List Component) :
    (∀ goal, walk files true place pieces = .arrived goal →
        (∀ target, later.entryAt goal ≠ some (.link target)) → walk later true place pieces = .arrived goal) ∧
      ∀ parent target rest, walk files true place pieces = .link parent target rest →
        walk later true place pieces = .link parent target rest := by
  induction pieces generalizing place with
  | nil =>
      constructor
      · intro goal walked _
        exact walked
      · intro parent target rest walked
        cases walked
  | cons piece rest ih =>
      cases piece with
      | root => exact ih []
      | here => exact ih place
      | up => exact ih place.dropLast
      | name name =>
          by_cases long : longestName < (Text.utf8 name).length
          · simp [walk, long]
          -- What is no directory and no link ends the walk there, whatever it has become.
          have ends (noLink : ∀ target, later.entryAt (place ++ [name]) ≠ some (.link target)) :
              walk later true place [.name name] = .arrived (place ++ [name]) := by
            simp only [walk, long, ↓reduceIte]
            cases found : later.entryAt (place ++ [name]) with
            | none => rfl
            | some entry =>
                cases entry with
                | directory => rfl
                | file content => rfl
                | link target => exact absurd found (noLink target)
          cases entry : files.entryAt (place ++ [name]) with
          | none =>
              cases rest with
              | nil =>
                  simp only [walk, long, ↓reduceIte, entry] at ends ⊢
                  constructor
                  · intro goal walked noLink
                    cases walked
                    exact ends noLink
                  · intro parent target rest walked
                    cases walked
              | cons next rest => simp [walk, long, entry]
          | some found =>
              cases found with
              | directory =>
                  simp only [walk, long, ↓reduceIte, entry, keeps.directory _ entry]
                  exact ih (place ++ [name])
              | file content =>
                  cases rest with
                  | nil =>
                      simp only [walk, long, ↓reduceIte, entry] at ends ⊢
                      constructor
                      · intro goal walked noLink
                        cases walked
                        exact ends noLink
                      · intro parent target rest walked
                        cases walked
                  | cons next rest => simp [walk, long, entry]
              | link target => simp [walk, long, entry, keeps.link _ target entry]

theorem walk_through_ok (files : Files) (links : Nat) (place goal : Place) (pieces : List Component) :
    walkThrough files true links place pieces = .ok goal ↔
      walk files true place pieces = .arrived goal ∨
        ∃ fewer parent target rest, links = fewer + 1 ∧ walk files true place pieces = .link parent target rest ∧
          walkThrough files true fewer parent (Files.pieces target ++ rest) = .ok goal := by
  rw [walkThrough.eq_def]
  cases walk files true place pieces with
  | failed error => simp
  | arrived place => simp
  | link parent target rest =>
      constructor
      · intro walked
        cases links with
        | zero => cases walked
        | succ fewer => exact .inr ⟨fewer, parent, target, rest, rfl, rfl, walked⟩
      · rintro (arrived | ⟨fewer, _, _, _, rfl, same, walked⟩)
        · cases arrived
        · cases same
          exact walked

theorem walk_through_reaches (keeps : Keeps files later) (goal : Place)
    (noLink : ∀ target, later.entryAt goal ≠ some (.link target)) (links : Nat) (place : Place)
    (pieces : List Component) (walked : walkThrough files true links place pieces = .ok goal) :
    walkThrough later true links place pieces = .ok goal := by
  -- each link takes one of those that may still be followed
  induction links using Nat.strongRecOn generalizing place pieces with
  | ind links ih =>
      apply (walk_through_ok _ _ _ _ _).mpr
      rcases (walk_through_ok _ _ _ _ _).mp walked with arrived | ⟨fewer, parent, target, rest, rfl, step, walked⟩
      · exact .inl ((walk_reaches keeps place pieces).1 goal arrived noLink)
      · have steps := (walk_reaches keeps place pieces).2 parent target rest step
        exact .inr ⟨fewer, parent, target, rest, rfl, steps, ih fewer fewer.lt_succ_self parent _ walked⟩

theorem locate_reaches (keeps : Keeps files later) {path : List Char} {goal : Place}
    (noLink : ∀ target, later.entryAt goal ≠ some (.link target))
    (located : files.locate path true = .ok goal) : later.locate path true = .ok goal := by
  obtain ⟨checked, good, located⟩ := bind_ok located
  rw [locate, good, ok_bind, locatePieces, keeps.here]
  exact walk_through_reaches keeps goal noLink _ _ _ located

end Reaching

section Taking

/-- A path under which bytes can be written: it leads to a file, or to a place for one in a directory. -/
structure Takes (files : Files) (path : List Char) (place : Place) : Prop where
  located : files.locate path true = .ok place
  bare : endsInSlash path = false
  isOpen : files.Open place

variable {files later : Files} {path : List Char} {place : Place} {bytes : Bytes}

theorem Takes.checked (takes : files.Takes path place) : checkPath path = .ok () := by
  obtain ⟨checked, good, -⟩ := bind_ok takes.located
  exact good

theorem takes_append (takes : files.Takes path place) :
    files.append path bytes = .ok (files.put place (.file (files.contentAt place ++ bytes))) := by
  rw [append, modify, takes.checked, ok_bind, if_neg (by rw [takes.bare]; exact Bool.false_ne_true)]
  show (files.locate path true >>= _) = _
  rw [takes.located, ok_bind]
  rcases takes.isOpen with free | ⟨content, file⟩
  · rw [free, content_none free]
  · rw [file, content_file file]

theorem append_takes (appended : files.append path bytes = .ok later) :
    ∃ place, files.Takes path place ∧ later = files.put place (.file (files.contentAt place ++ bytes)) := by
  have whole := appended
  obtain ⟨checked, good, appended⟩ := bind_ok appended
  split at appended
  · cases appended
  next slash =>
  obtain ⟨place, located, appended⟩ := bind_ok appended
  have bare : endsInSlash path = false := Bool.not_eq_true _ ▸ slash
  have takes : files.Takes path place := by
    constructor
    · exact located
    · exact bare
    · split at appended
      · next content there => exact .inr ⟨content, there⟩
      · next free => exact .inl free
      · cases appended
  refine ⟨place, takes, ?_⟩
  rw [takes_append takes] at whole
  cases whole
  rfl

theorem takes_found (takes : files.Takes path place) {content : Bytes}
    (there : files.entryAt place = some (.file content)) : files.find path = .ok (place, .file content) := by
  rw [find, takes.located, ok_bind, there]

theorem takes_kept (takes : files.Takes path place) (keeps : Keeps files later) (isOpen : later.Open place) :
    later.Takes path place := by
  constructor
  · exact locate_reaches keeps (open_no_link isOpen) takes.located
  · exact takes.bare
  · exact isOpen

end Taking

end CodeReview.Files
