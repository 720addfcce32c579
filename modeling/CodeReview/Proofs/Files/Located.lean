import CodeReview.Files.Tree
import CodeReview.Proofs.Answer

/-!
Where paths lead, and which changes leave that alone. The way to a directory passes directories and links
only, so it is the same in any tree that keeps those; a file below a directory is found under the path of
the directory and its name.
-/

namespace CodeReview

open CodeReview.Path (Component)

namespace Text

theorem split_nonempty (cs : List Char) (sep : Char) : splitAll cs sep ≠ [] := by
  cases cs with
  | nil => exact List.cons_ne_nil _ _
  | cons c rest =>
      rw [splitAll]
      split
      · exact List.cons_ne_nil _ _
      · split <;> exact List.cons_ne_nil _ _

theorem split_append (cs more : List Char) (sep : Char) :
    splitAll (cs ++ sep :: more) sep = splitAll cs sep ++ splitAll more sep := by
  induction cs with
  | nil => simp [splitAll]
  | cons c rest ih =>
      obtain ⟨piece, others, pieces⟩ := List.exists_cons_of_ne_nil (split_nonempty rest sep)
      rw [List.cons_append, splitAll, splitAll, ih, pieces]
      dsimp only
      split <;> rfl

theorem split_whole (cs : List Char) (sep : Char) (absent : sep ∉ cs) : splitAll cs sep = [cs] := by
  induction cs with
  | nil => rfl
  | cons c rest ih =>
      have other : ¬ (c == sep) = true := fun same => absent (eq_of_beq same ▸ List.mem_cons_self)
      rw [splitAll, ih fun member => absent (List.mem_cons_of_mem _ member)]
      dsimp only
      rw [if_neg other]

end Text

namespace Files

structure Plain (name : List Char) : Prop where
  whole : '/' ∉ name
  named : ofPiece name = some (.name name)
  short : (Text.utf8 name).length ≤ longestName

section Joining

theorem plain_relative (name : List Char) (plain : Plain name) : Path.isAbsolute name = false := by
  cases name with
  | nil => rfl
  | cons c rest =>
      have other : ¬ c = '/' := fun same => plain.whole (same ▸ List.mem_cons_self)
      simp [Path.isAbsolute, Text.startsWith, other]

theorem pieces_plain (name : List Char) (plain : Plain name) : pieces name = [.name name] := by
  rw [pieces, plain_relative name plain, Text.split_whole name '/' plain.whole]
  simp [plain.named]

theorem absolute_append (base more : List Char) (some_ : base ≠ []) :
    Path.isAbsolute (base ++ more) = Path.isAbsolute base := by
  obtain ⟨c, rest, rfl⟩ := List.exists_cons_of_ne_nil some_
  cases rest <;> cases more <;> simp [Path.isAbsolute, Text.startsWith]

theorem pieces_below (base name : List Char) (plain : Plain name) (some_ : base ≠ []) :
    pieces (base ++ '/' :: name) = pieces base ++ [.name name] := by
  rw [pieces, pieces, absolute_append base _ some_, Text.split_append,
    Text.split_whole name '/' plain.whole, List.filterMap_append]
  simp [plain.named]

theorem pieces_join (directory name : List Char) (plain : Plain name) :
    pieces (Path.join directory name) = pieces directory ++ [.name name] := by
  have relative := plain_relative name plain
  by_cases none : directory = []
  · subst none
    simp only [Path.join, relative, List.isEmpty_nil, Bool.or_true, ↓reduceIte]
    exact pieces_plain name plain
  · have filled : directory.isEmpty = false := List.isEmpty_eq_false_iff.mpr none
    by_cases slash : (directory.getLast? == some '/') = true
    · obtain ⟨base, rfl⟩ := List.getLast?_eq_some_iff.mp (eq_of_beq slash)
      simp only [Path.join, relative, filled, slash, Bool.or_self, Bool.false_eq_true, ↓reduceIte]
      rw [pieces, pieces, absolute_append _ name none, List.append_assoc, List.singleton_append,
        Text.split_append, Text.split_append, Text.split_whole name '/' plain.whole]
      have last : List.filterMap ofPiece [name] = [.name name] := by simp [plain.named]
      rw [List.filterMap_append, List.filterMap_append, last, ← List.append_assoc]
      simp [Text.splitAll, ofPiece]
    · simp only [Path.join, relative, filled, slash, Bool.or_self, Bool.false_eq_true, ↓reduceIte]
      exact pieces_below directory name plain none

theorem plain_nonempty (name : List Char) (plain : Plain name) : name ≠ [] := by
  rintro rfl
  cases plain.named

theorem no_slash_after (before name : List Char) (whole : '/' ∉ name) (filled : name ≠ []) :
    endsInSlash (before ++ name) = false := by
  rw [endsInSlash, List.getLast?_append, List.getLast?_eq_some_getLast filled, Option.some_or]
  refine beq_eq_false_iff_ne.mpr fun slash => whole ?_
  rw [← Option.some.inj slash]
  exact List.getLast_mem filled

theorem join_no_slash (directory name : List Char) (plain : Plain name) :
    endsInSlash (Path.join directory name) = false := by
  obtain ⟨front, same⟩ : ∃ front, Path.join directory name = front ++ name := by
    unfold Path.join
    split
    · exact ⟨[], rfl⟩
    split
    · exact ⟨directory, rfl⟩
    · exact ⟨directory ++ ['/'], by simp⟩
  rw [same]
  exact no_slash_after front name plain.whole (plain_nonempty name plain)

end Joining

section Entries

theorem lookup_insert (place other : Place) (entry : Entry) (entries : List (Place × Entry)) :
    lookup other (insertEntry place entry entries) =
      if other = place then some entry else lookup other entries := by
  induction entries with
  | nil => simp [insertEntry, lookup, eq_comm]
  | cons item rest ih =>
      obtain ⟨p, old⟩ := item
      by_cases here : p = place
      · subst here
        by_cases same : p = other
        · simp [insertEntry, lookup, same]
        · simp [insertEntry, lookup, same, Ne.symm same]
      · by_cases same : p = other
        · subst same
          simp [insertEntry, lookup, here]
        · simp [insertEntry, lookup, here, same, ih]

theorem entry_put (files : Files) (place other : Place) (entry : Entry) (below : place ≠ []) :
    (files.put place entry).entryAt other = if other = place then some entry else files.entryAt other := by
  unfold entryAt put
  by_cases top : other.isEmpty = true
  · have root : other = [] := List.isEmpty_iff.mp top
    subst root
    simp [Ne.symm below]
  · simp only [top, Bool.false_eq_true, ↓reduceIte]
    exact lookup_insert place other entry files.entries

end Entries

section Keeping

structure Keeps (files later : Files) : Prop where
  here : later.here = files.here
  directory : ∀ place, files.entryAt place = some .directory → later.entryAt place = some .directory
  link : ∀ place target, files.entryAt place = some (.link target) →
    later.entryAt place = some (.link target)

/-- Every directory of the first tree is the same in the second, and a link is the same or has given way
to a file. -/
structure Overlays (files later : Files) : Prop where
  here : later.here = files.here
  directory : ∀ place, files.entryAt place = some .directory → later.entryAt place = some .directory
  link : ∀ place target, files.entryAt place = some (.link target) →
    later.entryAt place = some (.link target) ∨ ∃ content, later.entryAt place = some (.file content)

def Cut (files later : Files) : Prop :=
  ∃ place target content, files.entryAt place = some (.link target) ∧
    later.entryAt place = some (.file content)

variable {files later : Files}

theorem keeps_overlays (keeps : Keeps files later) : Overlays files later where
  here := keeps.here
  directory := keeps.directory
  link := fun place target same => .inl (keeps.link place target same)

theorem keeps_uncut (keeps : Keeps files later) : ¬ Cut files later := by
  rintro ⟨place, target, content, before, after⟩
  cases (keeps.link place target before).symm.trans after

/-- A walk that comes to a directory, or to a link on the way, meets nothing else that matters to it. It
goes on from there, unless a link on it was cut: then it fails as soon as there is more to walk. -/
theorem walk_overlaid (overlays : Overlays files later) (more : List Component) (place : Place)
    (pieces : List Component) :
    (∀ arrived, walk files true place pieces = .arrived arrived →
        files.entryAt arrived = some .directory →
        walk later true place (pieces ++ more) = walk later true arrived more ∨
          (Cut files later ∧
            (more ≠ [] → walk later true place (pieces ++ more) = .failed .notDirectory))) ∧
      ∀ parent target rest, walk files true place pieces = .link parent target rest →
        walk later true place (pieces ++ more) = .link parent target (rest ++ more) ∨
          (Cut files later ∧
            (more ≠ [] → walk later true place (pieces ++ more) = .failed .notDirectory)) := by
  induction pieces generalizing place with
  | nil =>
      refine ⟨fun arrived walked _ => ?_, nofun⟩
      cases walked
      exact .inl rfl
  | cons piece rest ih =>
      cases piece with
      | root => exact ih []
      | here => exact ih place
      | up => exact ih place.dropLast
      | name name =>
          simp only [walk, List.cons_append]
          by_cases long : longestName < (Text.utf8 name).length
          · simp [long]
          simp only [long, ↓reduceIte]
          -- a gap or a file is no directory, so the walk would have to end there, and does not
          cases entry : files.entryAt (place ++ [name]) with
          | none =>
              cases rest with
              | nil =>
                  refine ⟨fun arrived walked isDirectory => ?_, nofun⟩
                  cases walked
                  rw [entry] at isDirectory
                  cases isDirectory
              | cons next rest => exact ⟨nofun, nofun⟩
          | some found =>
              cases found with
              | directory =>
                  rw [overlays.directory _ entry]
                  exact ih (place ++ [name])
              | file content =>
                  cases rest with
                  | nil =>
                      refine ⟨fun arrived walked isDirectory => ?_, nofun⟩
                      cases walked
                      rw [entry] at isDirectory
                      cases isDirectory
                  | cons next rest => exact ⟨nofun, nofun⟩
              | link target =>
                  simp only [Bool.not_true, Bool.and_false, Bool.false_eq_true, ↓reduceIte]
                  refine ⟨nofun, fun parent target rest walked => ?_⟩
                  cases walked
                  rcases overlays.link _ target entry with same | ⟨content, cut⟩
                  · rw [same]
                    exact .inl rfl
                  · right
                    refine ⟨⟨_, target, content, entry, cut⟩, fun further => ?_⟩
                    rw [cut]
                    simp [further]

/-- A way to a directory, through links and all, can be gone on from as long as no link on it was cut. -/
theorem walk_through_overlaid (overlays : Overlays files later) (more : List Component)
    (arrived goal : Place) (isDirectory : files.entryAt arrived = some .directory)
    (goes : walk later true arrived more = .arrived goal) (links : Nat) (place : Place)
    (pieces : List Component) (walked : walkThrough files true links place pieces = .ok arrived) :
    walkThrough later true links place (pieces ++ more) = .ok goal ∨
      (Cut files later ∧
        (more ≠ [] → walkThrough later true links place (pieces ++ more) = .error .notDirectory)) := by
  -- the induction is on the links that may still be followed; each puts new pieces before the others
  induction links generalizing place pieces with
  | zero =>
      rw [walkThrough] at walked ⊢
      cases step : walk files true place pieces with
      | failed error =>
          rw [step] at walked
          cases walked
      | link parent target rest =>
          rw [step] at walked
          cases walked
      | arrived place' =>
          rw [step] at walked
          cases walked
          rcases (walk_overlaid overlays more place pieces).1 arrived step isDirectory with
            same | ⟨cut, fails⟩
          · rw [same, goes]
            exact .inl rfl
          · exact .inr ⟨cut, fun further => by rw [fails further]⟩
  | succ n ih =>
      rw [walkThrough] at walked ⊢
      cases step : walk files true place pieces with
      | failed error =>
          rw [step] at walked
          cases walked
      | link parent target rest =>
          rw [step] at walked
          rcases (walk_overlaid overlays more place pieces).2 parent target rest step with
            same | ⟨cut, fails⟩
          · rw [same]
            dsimp only
            rw [← List.append_assoc]
            exact ih parent _ walked
          · exact .inr ⟨cut, fun further => by rw [fails further]⟩
      | arrived place' =>
          rw [step] at walked
          cases walked
          rcases (walk_overlaid overlays more place pieces).1 arrived step isDirectory with
            same | ⟨cut, fails⟩
          · rw [same, goes]
            exact .inl rfl
          · exact .inr ⟨cut, fun further => by rw [fails further]⟩

theorem walk_through_kept (keeps : Keeps files later) (more : List Component) (arrived goal : Place)
    (isDirectory : files.entryAt arrived = some .directory)
    (goes : walk later true arrived more = .arrived goal) (links : Nat) (place : Place)
    (pieces : List Component) (walked : walkThrough files true links place pieces = .ok arrived) :
    walkThrough later true links place (pieces ++ more) = .ok goal := by
  rcases walk_through_overlaid (keeps_overlays keeps) more arrived goal isDirectory goes links place
    pieces walked with same | ⟨cut, -⟩
  · exact same
  · exact absurd cut (keeps_uncut keeps)

theorem directory_kept (keeps : Keeps files later) (pieces : List Component) (place : Place)
    (located : files.locateDirectory pieces = .ok place) :
    later.locateDirectory pieces = .ok place := by
  obtain ⟨arrived, walked, checked⟩ := bind_ok located
  split at checked
  · next isDirectory =>
      cases checked
      unfold locatePieces at walked
      have same := walk_through_kept keeps [] place place isDirectory rfl mostLinks files.here pieces
        walked
      rw [List.append_nil] at same
      rw [locateDirectory, locatePieces, keeps.here, same, ok_bind, keeps.directory place isDirectory]
  · cases checked
  · cases checked

end Keeping

theorem keeps_refl (files : Files) : Keeps files files :=
  ⟨rfl, fun _ same => same, fun _ _ same => same⟩

theorem keeps_trans {first second third : Files} (one : Keeps first second) (two : Keeps second third) :
    Keeps first third where
  here := two.here.trans one.here
  directory := fun place same => two.directory place (one.directory place same)
  link := fun place target same => two.link place target (one.link place target same)

section Putting

variable (files : Files) (place : Place) (below : place ≠ [])

include below

theorem keeps_put (entry : Entry) (noDirectory : files.entryAt place ≠ some .directory)
    (noLink : ∀ target, files.entryAt place ≠ some (.link target)) :
    Keeps files (files.put place entry) := by
  refine ⟨rfl, fun other same => ?_, fun other target same => ?_⟩
  · rw [entry_put files place other entry below, if_neg, same]
    rintro rfl
    exact noDirectory same
  · rw [entry_put files place other entry below, if_neg, same]
    rintro rfl
    exact noLink target same

/-- What is put where there was no directory hides links only. -/
theorem overlays_put {before : Files} (overlays : Overlays before files) (content : Bytes)
    (noDirectory : files.entryAt place ≠ some .directory) :
    Overlays before (files.put place (.file content)) := by
  refine ⟨overlays.here, fun other same => ?_, fun other target same => ?_⟩
  · have kept := overlays.directory other same
    rw [entry_put files place other _ below, if_neg, kept]
    rintro rfl
    exact noDirectory kept
  · rw [entry_put files place other _ below]
    split
    · exact .inr ⟨content, rfl⟩
    · exact overlays.link other target same

/-- No way to a directory passes a file that was put somewhere, so it was there before. -/
theorem put_keeps (content : Bytes) : Keeps (files.put place (.file content)) files := by
  refine ⟨rfl, fun other same => ?_, fun other target same => ?_⟩
  · rw [entry_put files place other _ below] at same
    split at same
    · cases same
    · exact same
  · rw [entry_put files place other _ below] at same
    split at same
    · cases same
    · exact same

end Putting

section Below

variable {files later : Files} (directory name : List Char) (plain : Plain name) (content : Bytes)
  (place : Place) (good : checkPath (Path.join directory name) = .ok ())
  (located : files.locateDirectory (pieces directory) = .ok place)

include plain good located

/-- A file in a directory is found under the path of the directory and its name, and still is when other
files have come, unless one of them has cut a link. -/
theorem find_overlaid (overlays : Overlays files later)
    (isFile : later.entryAt (place ++ [name]) = some (.file content)) :
    later.find (Path.join directory name) = .ok (place ++ [name], .file content) ∨
      (Cut files later ∧ later.find (Path.join directory name) = .error .notDirectory) := by
  obtain ⟨arrived, walked, checked⟩ := bind_ok located
  split at checked
  · next isDirectory =>
      cases checked
      unfold locatePieces at walked
      have step : walk later true place [.name name] = .arrived (place ++ [name]) := by
        have fits : ¬ longestName < (Text.utf8 name).length := Nat.not_lt.mpr plain.short
        simp [walk, fits, isFile]
      rw [find, locate, good, ok_bind, pieces_join directory name plain,
        join_no_slash directory name plain, locatePieces, if_neg (by decide), List.append_nil,
        overlays.here]
      rcases walk_through_overlaid overlays [.name name] place _ isDirectory step mostLinks files.here _
        walked with below | ⟨cut, fails⟩
      · rw [below, ok_bind, isFile]
        exact .inl rfl
      · rw [fails (List.cons_ne_nil _ _)]
        exact .inr ⟨cut, rfl⟩
  · cases checked
  · cases checked

theorem find_below (isFile : files.entryAt (place ++ [name]) = some (.file content)) :
    files.find (Path.join directory name) = .ok (place ++ [name], .file content) := by
  rcases find_overlaid directory name plain content place good located
    (keeps_overlays (keeps_refl files)) isFile with found | ⟨cut, -⟩
  · exact found
  · exact absurd cut (keeps_uncut (keeps_refl files))

theorem read_below (isFile : files.entryAt (place ++ [name]) = some (.file content)) :
    files.read (Path.join directory name) = .ok content := by
  rw [read, find_below directory name plain content place good located isFile]
  rfl

end Below

section Making

structure Grows (files later : Files) : Prop where
  here : later.here = files.here
  entry : ∀ place entry, files.entryAt place = some entry → later.entryAt place = some entry

theorem grows_keeps {files later : Files} (grows : Grows files later) : Keeps files later where
  here := grows.here
  directory := fun place same => grows.entry place .directory same
  link := fun place target same => grows.entry place (.link target) same

theorem grows_refl (files : Files) : Grows files files := ⟨rfl, fun _ _ same => same⟩

theorem grows_trans {first second third : Files} (one : Grows first second) (two : Grows second third) :
    Grows first third where
  here := two.here.trans one.here
  entry := fun place entry same => two.entry place entry (one.entry place entry same)

theorem place_for_new_free (files : Files) (pieces : List Component) (place : Place)
    (new : files.placeForNew pieces = .ok place) : place ≠ [] ∧ files.entryAt place = none := by
  unfold placeForNew at new
  split at new
  · cases new
  · obtain ⟨parent, -, new⟩ := bind_ok new
    split at new
    · cases new
    split at new
    · cases new
    next free =>
    cases new
    refine ⟨by simp, Option.not_isSome_iff_eq_none.mp free⟩
  · obtain ⟨_, -, new⟩ := bind_ok new
    cases new

theorem make_directory_grows (files later : Files) (pieces : List Component)
    (made : files.makeDirectory pieces = .ok later) : Grows files later := by
  obtain ⟨place, new, made⟩ := bind_ok made
  cases made
  obtain ⟨below, free⟩ := place_for_new_free files pieces place new
  refine ⟨rfl, fun other entry same => ?_⟩
  rw [entry_put files place other .directory below, if_neg, same]
  rintro rfl
  rw [free] at same
  cases same

theorem settle_same (files later : Files) (pieces : List Component) (error : FileError)
    (settled : files.settle pieces error = .ok later) : later = files := by
  unfold settle at settled
  split at settled
  · cases settled
    rfl
  · cases settled

section Missing

-- what holds of a tree and is kept when one directory is made
variable (keeps : Files → Prop)
  (one : ∀ files later pieces, Files.makeDirectory files pieces = .ok later → keeps files → keeps later)

include one

theorem make_directories_from_keep (files later : Files) (pieces above : List Component)
    (made : files.makeDirectoriesFrom pieces above = .ok later) (before : keeps files) : keeps later := by
  -- by the directories above, which are made first where the last one cannot be made
  induction above generalizing files later pieces with
  | nil =>
      rw [makeDirectoriesFrom] at made
      split at made
      · next single =>
          cases made
          exact one files later pieces single before
      · rw [settle_same files later pieces _ made]
        exact before
  | cons c above ih =>
      rw [makeDirectoriesFrom] at made
      split at made
      · next single =>
          cases made
          exact one files later pieces single before
      · obtain ⟨middle, inner, made⟩ := bind_ok made
        have first : keeps middle := ih files middle _ inner before
        split at made
        · next single =>
            cases made
            exact one middle later pieces single first
        · rw [settle_same middle later pieces _ made]
          exact first
      · rw [settle_same files later pieces _ made]
        exact before

theorem make_directories_keep (files later : Files) (path : List Char)
    (made : files.makeDirectories path = .ok later) (before : keeps files) : keeps later := by
  unfold makeDirectories at made
  split at made
  · cases made
    exact before
  · obtain ⟨_, -, made⟩ := bind_ok made
    exact make_directories_from_keep keeps one files later _ _ made before

end Missing

theorem make_directories_grows (files later : Files) (path : List Char)
    (made : files.makeDirectories path = .ok later) : Grows files later := by
  refine make_directories_keep (Grows files) ?_ files later path made (grows_refl files)
  intro middle last pieces single sofar
  exact grows_trans sofar (make_directory_grows middle last pieces single)

end Making

end Files

end CodeReview
