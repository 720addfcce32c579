import CodeReview.Proofs.Files.Appended

/-!
The directories above a path. A path that leads somewhere leads through the directory named by all but its last
piece, so that one need not be made; and where one is made, only directories come.

What a path says to do is told in two ways, with and without the dots between its slashes. A dot makes no
difference on the way to a directory.
-/

namespace CodeReview.Files

open CodeReview.Path (Component)

/-- What holds a directory is a directory, and relative paths start in one. -/
structure Rooted (files : Files) : Prop where
  here : files.entryAt files.here = some .directory
  above : ∀ place, files.entryAt place = some .directory → files.entryAt place.dropLast = some .directory

section Front

variable {files : Files} (rooted : Rooted files) (more : List Component) (further : more ≠ [])

include rooted further

/-- A walk with more to come goes on from a directory, or stops at a link in one. -/
theorem walk_front (place : Place) (start : files.entryAt place = some .directory) (front : List Component) :
    (∃ middle, walk files true place front = .arrived middle ∧ files.entryAt middle = some .directory ∧
        walk files true place (front ++ more) = walk files true middle more) ∨
      (∃ parent target rest, walk files true place front = .link parent target rest ∧
        files.entryAt parent = some .directory ∧
        walk files true place (front ++ more) = .link parent target (rest ++ more)) ∨
      ∃ error, walk files true place (front ++ more) = .failed error := by
  induction front generalizing place with
  | nil => exact .inl ⟨place, rfl, start, rfl⟩
  | cons piece rest ih =>
      cases piece with
      | root => exact ih [] rfl
      | here => exact ih place start
      | up => exact ih place.dropLast (rooted.above place start)
      | name name =>
          simp only [walk, List.cons_append]
          by_cases long : longestName < (Text.utf8 name).length
          · simp [long]
          simp only [long, ↓reduceIte]
          cases entry : files.entryAt (place ++ [name]) with
          | none =>
              right; right
              exact ⟨.notFound, by simp [further]⟩
          | some found =>
              cases found with
              | directory => exact ih (place ++ [name]) entry
              | file content =>
                  right; right
                  exact ⟨.notDirectory, by simp [further]⟩
              | link target =>
                  right; left
                  exact ⟨place, target, rest, by simp, start, by simp⟩

theorem walk_through_front (goal : Place) (links : Nat) (place : Place)
    (start : files.entryAt place = some .directory) (front : List Component)
    (walked : walkThrough files true links place (front ++ more) = .ok goal) :
    ∃ middle fewer, walkThrough files true links place front = .ok middle ∧
      files.entryAt middle = some .directory ∧ walkThrough files true fewer middle more = .ok goal := by
  induction links using Nat.strongRecOn generalizing place front with
  | ind links ih =>
      rcases walk_front rooted more further place start front with
        ⟨middle, first, directory, whole⟩ | ⟨parent, target, rest, first, directory, whole⟩ | ⟨error, whole⟩
      · refine ⟨middle, links, ?_, directory, ?_⟩
        · exact (walk_through_ok _ _ _ _ _).mpr (.inl first)
        · rw [walkThrough.eq_def, whole] at walked
          rw [walkThrough.eq_def]
          exact walked
      · rcases (walk_through_ok _ _ _ _ _).mp walked with arrived | ⟨fewer, _, _, _, rfl, same, walked⟩
        · rw [whole] at arrived
          cases arrived
        · rw [whole] at same
          cases same
          rw [← List.append_assoc] at walked
          obtain ⟨middle, less, reached, isDirectory, after⟩ :=
            ih fewer fewer.lt_succ_self parent directory (Files.pieces target ++ rest) walked
          refine ⟨middle, less, ?_, isDirectory, after⟩
          exact (walk_through_ok _ _ _ _ _).mpr (.inr ⟨fewer, parent, target, rest, rfl, first, reached⟩)
      · rcases (walk_through_ok _ _ _ _ _).mp walked with arrived | ⟨_, _, _, _, _, same, _⟩
        · rw [whole] at arrived
          cases arrived
        · rw [whole] at same
          cases same

end Front

section Directories

variable {files : Files} {pieces : List Component} {place : Place}

theorem locate_directory_ok : files.locateDirectory pieces = .ok place ↔
    files.locatePieces true pieces = .ok place ∧ files.entryAt place = some .directory := by
  constructor
  · intro located
    obtain ⟨arrived, walked, checked⟩ := bind_ok located
    split at checked
    · next directory =>
        cases checked
        exact ⟨walked, directory⟩
    · cases checked
    · cases checked
  · rintro ⟨walked, directory⟩
    rw [locateDirectory, walked, ok_bind, directory]

variable (rooted : Rooted files)

include rooted

theorem located_front {front more : List Component} (further : more ≠ []) {goal : Place}
    (located : files.locatePieces true (front ++ more) = .ok goal) :
    ∃ middle fewer, files.locateDirectory front = .ok middle ∧
      files.entryAt middle = some .directory ∧ walkThrough files true fewer middle more = .ok goal := by
  obtain ⟨middle, fewer, first, directory, after⟩ :=
    walk_through_front rooted more further goal mostLinks files.here rooted.here front located
  exact ⟨middle, fewer, locate_directory_ok.mpr ⟨first, directory⟩, directory, after⟩

theorem directory_taken (located : files.locateDirectory pieces = .ok place) (filled : pieces ≠ []) :
    files.makeDirectory pieces = .error .alreadyExists := by
  obtain ⟨walked, directory⟩ := locate_directory_ok.mp located
  obtain ⟨front, last, rfl⟩ : ∃ front last, pieces = front ++ [last] :=
    ⟨_, _, (List.dropLast_concat_getLast filled).symm⟩
  have last_ : (front ++ [last]).getLast? = some last := List.getLast?_concat
  have before : (front ++ [last]).dropLast = front := List.dropLast_concat
  cases last with
  | root => rw [makeDirectory, placeForNew, last_, located]; rfl
  | here => rw [makeDirectory, placeForNew, last_, located]; rfl
  | up => rw [makeDirectory, placeForNew, last_, located]; rfl
  | name name =>
      obtain ⟨parent, fewer, above, -, after⟩ := located_front rooted (List.cons_ne_nil _ _) walked
      have steps := (walk_through_ok _ _ _ _ _).mp after
      by_cases long : longestName < (Text.utf8 name).length
      · simp [walk, long] at steps
      have taken : (files.entryAt (parent ++ [name])).isSome = true := by
        cases entry : files.entryAt (parent ++ [name]) with
        | some found => rfl
        | none =>
            simp only [walk, long, entry, ↓reduceIte] at steps
            rcases steps with arrived | ⟨_, _, _, _, _, link, -⟩
            · cases arrived
              cases entry.symm.trans directory
            · cases link
      rw [makeDirectory, placeForNew, last_]
      simp only [before, above, ok_bind, long, taken, ↓reduceIte]
      rfl

theorem located_made (located : files.locateDirectory pieces = .ok place) (filled : pieces ≠ [])
    (above : List Component) : files.makeDirectoriesFrom pieces above = .ok files := by
  have taken := directory_taken rooted located filled
  have settled (error : FileError) : files.settle pieces error = .ok files := by rw [settle, located]
  cases above with
  | nil =>
      rw [makeDirectoriesFrom, taken]
      exact settled .alreadyExists
  | cons c above =>
      rw [makeDirectoriesFrom, taken]
      exact settled .alreadyExists

theorem unnamed_directory (directory : files.entryAt place = some .directory) (piece : Component)
    (unnamed : ∀ name, piece ≠ .name name) :
    ∃ goal, walk files true place [piece] = .arrived goal ∧ files.entryAt goal = some .directory := by
  cases piece with
  | root => exact ⟨[], rfl, rfl⟩
  | here => exact ⟨place, rfl, directory⟩
  | up => exact ⟨place.dropLast, rfl, rooted.above place directory⟩
  | name name => exact absurd rfl (unnamed name)

/-- A path to a file ends in a name, and what stands before it leads to a directory. -/
theorem takes_above {path : List Char} (takes : files.Takes path place) :
    ∃ front name middle, Files.pieces path = front ++ [.name name] ∧ files.locateDirectory front = .ok middle := by
  obtain ⟨checked, good, located⟩ := bind_ok takes.located
  rw [takes.bare, if_neg Bool.false_ne_true, List.append_nil] at located
  have noDirectory : files.entryAt place ≠ some .directory := open_no_directory takes.isOpen
  by_cases empty : Files.pieces path = []
  · rw [empty] at located
    cases located
    exact absurd rooted.here noDirectory
  obtain ⟨front, last, split⟩ : ∃ front last, Files.pieces path = front ++ [last] :=
    ⟨_, _, (List.dropLast_concat_getLast empty).symm⟩
  rw [split] at located
  obtain ⟨middle, fewer, above, directory, after⟩ := located_front rooted (List.cons_ne_nil _ _) located
  by_cases named : ∃ name, last = .name name
  · obtain ⟨name, rfl⟩ := named
    exact ⟨front, name, middle, split, above⟩
  · obtain ⟨goal, arrives, isDirectory⟩ :=
      unnamed_directory rooted directory last fun name same => named ⟨name, same⟩
    rw [walkThrough.eq_def, arrives] at after
    cases after
    exact absurd isDirectory noDirectory

end Directories

section Dots

inductive Undotted : List Component → List Component → Prop
  | nil : Undotted [] []
  | keep {pieces fewer : List Component} (piece : Component) (rest : Undotted pieces fewer) :
      Undotted (piece :: pieces) (piece :: fewer)
  | drop {pieces fewer : List Component} (rest : Undotted pieces fewer) : Undotted (.here :: pieces) fewer

theorem undotted_append (front : List Component) {pieces fewer : List Component}
    (undotted : Undotted pieces fewer) : Undotted (front ++ pieces) (front ++ fewer) := by
  induction front with
  | nil => exact undotted
  | cons piece rest ih => exact .keep piece ih

theorem undotted_last {front fewer : List Component} {name : List Char}
    (undotted : Undotted (front ++ [.name name]) fewer) :
    ∃ less, fewer = less ++ [.name name] ∧ Undotted front less := by
  induction front generalizing fewer with
  | nil =>
      cases undotted with
      | keep _ rest =>
          cases rest
          exact ⟨[], rfl, .nil⟩
  | cons piece front ih =>
      cases undotted with
      | keep _ rest =>
          obtain ⟨less, rfl, undotted⟩ := ih rest
          exact ⟨piece :: less, rfl, .keep piece undotted⟩
      | drop rest =>
          obtain ⟨less, rfl, undotted⟩ := ih rest
          exact ⟨less, rfl, .drop undotted⟩

theorem walk_undotted (files : Files) {pieces fewer : List Component} (undotted : Undotted pieces fewer)
    (place : Place) :
    (∀ goal, walk files true place pieces = .arrived goal → files.entryAt goal = some .directory →
        walk files true place fewer = .arrived goal) ∧
      ∀ parent target rest, walk files true place pieces = .link parent target rest →
        ∃ less, Undotted rest less ∧ walk files true place fewer = .link parent target less := by
  induction undotted generalizing place with
  | nil =>
      constructor
      · intro goal walked _
        exact walked
      · intro parent target rest walked
        cases walked
  | drop rest ih => exact ih place
  | @keep pieces fewer piece rest ih =>
      cases piece with
      | root => exact ih []
      | here => exact ih place
      | up => exact ih place.dropLast
      | name name =>
          simp only [walk]
          by_cases long : longestName < (Text.utf8 name).length
          · simp [long]
          simp only [long, ↓reduceIte]
          -- a walk that comes to a directory meets neither a gap nor a file
          cases entry : files.entryAt (place ++ [name]) with
          | none =>
              dsimp only
              constructor
              · intro goal walked directory
                split at walked
                · cases walked
                  cases entry.symm.trans directory
                · cases walked
              · intro parent target rest walked
                split at walked <;> cases walked
          | some found =>
              cases found with
              | directory => exact ih (place ++ [name])
              | file content =>
                  dsimp only
                  constructor
                  · intro goal walked directory
                    split at walked
                    · cases walked
                      cases entry.symm.trans directory
                    · cases walked
                  · intro parent target rest walked
                    split at walked <;> cases walked
              | link target =>
                  simp only [Bool.not_true, Bool.and_false, Bool.false_eq_true, ↓reduceIte]
                  constructor
                  · intro goal walked
                    cases walked
                  · intro parent target rest walked
                    cases walked
                    exact ⟨fewer, by assumption, rfl⟩

theorem walk_through_undotted (files : Files) (goal : Place) (directory : files.entryAt goal = some .directory)
    (links : Nat) (place : Place) {pieces fewer : List Component} (undotted : Undotted pieces fewer)
    (walked : walkThrough files true links place pieces = .ok goal) :
    walkThrough files true links place fewer = .ok goal := by
  induction links using Nat.strongRecOn generalizing place pieces fewer with
  | ind links ih =>
      apply (walk_through_ok _ _ _ _ _).mpr
      rcases (walk_through_ok _ _ _ _ _).mp walked with arrived | ⟨n, parent, target, rest, rfl, step, walked⟩
      · exact .inl ((walk_undotted files undotted place).1 goal arrived directory)
      · obtain ⟨less, still, steps⟩ := (walk_undotted files undotted place).2 parent target rest step
        have reached := ih n n.lt_succ_self parent (undotted_append (Files.pieces target) still) walked
        exact .inr ⟨n, parent, target, less, rfl, steps, reached⟩

theorem located_undotted {files : Files} {place : Place} {pieces fewer : List Component}
    (undotted : Undotted pieces fewer) (located : files.locateDirectory pieces = .ok place) :
    files.locateDirectory fewer = .ok place := by
  obtain ⟨walked, directory⟩ := locate_directory_ok.mp located
  apply locate_directory_ok.mpr
  constructor
  · exact walk_through_undotted files place directory mostLinks files.here undotted walked
  · exact directory

theorem undotted_texts (texts : List (List Char)) :
    Undotted (texts.filterMap ofPiece) (texts.filterMap Path.ofPiece) := by
  induction texts with
  | nil => exact .nil
  | cons text rest ih =>
      by_cases dot : text = ['.']
      · subst dot
        exact .drop ih
      · have same : Path.ofPiece text = ofPiece text := by
          unfold Path.ofPiece ofPiece
          split <;> simp_all
        rw [List.filterMap_cons, List.filterMap_cons, same]
        cases ofPiece text with
        | none => exact ih
        | some piece => exact .keep piece ih

theorem undotted_components (path : List Char) : Undotted (Files.pieces path) (Path.components path) := by
  by_cases absolute : ∃ rest, path = '/' :: rest
  · obtain ⟨rest, rfl⟩ := absolute
    have fromRoot : Path.isAbsolute ('/' :: rest) = true := by simp [Path.isAbsolute, Text.startsWith]
    rw [Files.pieces, if_pos fromRoot]
    exact .keep .root (undotted_texts _)
  by_cases lone : path = ['.']
  · subst lone
    exact .keep .here .nil
  by_cases dotted : ∃ rest, path = '.' :: '/' :: rest
  · obtain ⟨rest, rfl⟩ := dotted
    exact .keep .here (undotted_texts (Text.splitAll rest '/'))
  · have relative : Path.isAbsolute path = false := by
      cases path with
      | nil => rfl
      | cons c rest =>
          have other : c ≠ '/' := fun same => absolute ⟨rest, by rw [same]⟩
          simp [Path.isAbsolute, Text.startsWith, other]
    have nothing : Path.opening path = [] := by
      unfold Path.opening
      split <;> simp_all
    rw [Files.pieces, relative, Path.components, nothing]
    exact undotted_texts _

end Dots

section Making

structure Makes (files later : Files) : Prop where
  grows : Grows files later
  file : ∀ place content, later.entryAt place = some (.file content) →
    files.entryAt place = some (.file content)
  rooted : Rooted files → Rooted later

theorem makes_refl (files : Files) : Makes files files :=
  ⟨grows_refl files, fun _ _ same => same, fun rooted => rooted⟩

theorem makes_trans {first second third : Files} (one : Makes first second) (two : Makes second third) :
    Makes first third where
  grows := grows_trans one.grows two.grows
  file := fun place content same => one.file place content (two.file place content same)
  rooted := fun rooted => two.rooted (one.rooted rooted)

variable {files later : Files} {pieces : List Component} {place : Place}

theorem place_for_new_above (new : files.placeForNew pieces = .ok place) :
    files.entryAt place.dropLast = some .directory := by
  unfold placeForNew at new
  split at new
  · cases new
  · obtain ⟨parent, located, new⟩ := bind_ok new
    split at new
    · cases new
    split at new
    · cases new
    cases new
    rw [List.dropLast_concat]
    exact (locate_directory_ok.mp located).2
  · obtain ⟨_, -, new⟩ := bind_ok new
    cases new

/-- What is put where no directory was leaves the tree rooted, a directory if it is put into one. -/
theorem rooted_put (rooted : Rooted files) (below : place ≠ []) (entry : Entry)
    (noDirectory : files.entryAt place ≠ some .directory)
    (inside : entry = .directory → files.entryAt place.dropLast = some .directory) :
    Rooted (files.put place entry) := by
  have kept (other : Place) (directory : files.entryAt other = some .directory) :
      (files.put place entry).entryAt other = some .directory := by
    rw [entry_put files place other entry below, if_neg, directory]
    rintro rfl
    exact noDirectory directory
  constructor
  · exact kept files.here rooted.here
  · intro other directory
    apply kept
    rw [entry_put files place other entry below] at directory
    split at directory
    · next here =>
        rw [here]
        exact inside (Option.some.inj directory)
    · exact rooted.above other directory

theorem make_directory_makes (made : files.makeDirectory pieces = .ok later) : Makes files later := by
  have grows := make_directory_grows files later pieces made
  obtain ⟨place, new, made⟩ := bind_ok made
  cases made
  obtain ⟨below, free⟩ := place_for_new_free files pieces place new
  constructor
  · exact grows
  · intro other content file
    rw [entry_put files place other .directory below] at file
    split at file
    · cases file
    · exact file
  · intro rooted
    have noDirectory : files.entryAt place ≠ some .directory := by
      rw [free]
      exact nofun
    exact rooted_put rooted below .directory noDirectory fun _ => place_for_new_above new

theorem make_directories_from_makes {above : List Component}
    (made : files.makeDirectoriesFrom pieces above = .ok later) : Makes files later := by
  apply make_directories_from_keep (Makes files) ?_ files later pieces above made (makes_refl files)
  intro middle last pieces single sofar
  exact makes_trans sofar (make_directory_makes single)

/-- What is open when directories have come was open before, with the same bytes. -/
theorem makes_open (makes : Makes files later) (isOpen : later.Open place) :
    files.Open place ∧ files.contentAt place = later.contentAt place := by
  cases entry : files.entryAt place with
  | none =>
      rcases isOpen with free | ⟨content, file⟩
      · exact ⟨.inl entry, by rw [content_none entry, content_none free]⟩
      · cases entry.symm.trans (makes.file place content file)
  | some found =>
      have kept := makes.grows.entry place found entry
      cases found with
      | file content => exact ⟨.inr ⟨content, entry⟩, by rw [content_file entry, content_file kept]⟩
      | directory => exact absurd kept (open_no_directory isOpen)
      | link target => exact absurd kept (open_no_link isOpen target)

/-- A file that a path led to before is where it leads when directories have come. -/
theorem makes_led {path : List Char} {other : Place} {content : Bytes} (makes : Makes files later)
    (takes : later.Takes path place) (found : files.find path = .ok (other, .file content)) : other = place := by
  obtain ⟨arrived, located, checked⟩ := bind_ok found
  split at checked
  · next entry there =>
      cases checked
      have kept := makes.grows.entry other _ there
      have noLink : ∀ target, later.entryAt other ≠ some (.link target) := by
        intro target link
        cases kept.symm.trans link
      have still := locate_reaches (grows_keeps makes.grows) noLink located
      exact Except.ok.inj (still.symm.trans takes.located)
  · cases checked

end Making

end CodeReview.Files
