import CodeReview.Proofs.Files.Located

/-!
Files that are written under names. A tree without links has no other ways than the names, so the names
on the way to a file are its place, and files with different names are different files: to write the one
leaves the other as it was.
-/

namespace CodeReview

open CodeReview.Path (Component)

namespace Text

theorem split_pieces_whole (cs : List Char) (sep : Char) : ∀ piece ∈ splitAll cs sep, sep ∉ piece := by
  induction cs with
  | nil => simp [splitAll]
  | cons c rest ih =>
      obtain ⟨piece, others, pieces⟩ := List.exists_cons_of_ne_nil (split_nonempty rest sep)
      rw [pieces] at ih
      rw [splitAll, pieces]
      dsimp only
      split
      · next same =>
          intro found member
          rcases List.mem_cons.mp member with rfl | later
          · exact List.not_mem_nil
          · exact ih found later
      · next other =>
          intro found member
          rcases List.mem_cons.mp member with rfl | later
          · have whole : sep ∉ piece := ih piece List.mem_cons_self
            intro inside
            rcases List.mem_cons.mp inside with rfl | inside
            · exact other (beq_self_eq_true _)
            · exact whole inside
          · exact ih found (List.mem_cons_of_mem piece later)

theorem split_names (names : List (List Char)) (some_ : names ≠ []) (whole : ∀ name ∈ names, '/' ∉ name) :
    splitAll (Path.ofNames names) '/' = names := by
  induction names with
  | nil => exact absurd rfl some_
  | cons name rest ih =>
      have first : '/' ∉ name := whole name List.mem_cons_self
      cases rest with
      | nil => exact split_whole name '/' first
      | cons next more =>
          rw [Path.ofNames, split_append, split_whole name '/' first,
            ih (List.cons_ne_nil next more) fun n member => whole n (List.mem_cons_of_mem name member),
            List.singleton_append]
          exact List.cons_ne_nil next more

end Text

namespace Path

structure Normal (name : List Char) : Prop where
  whole : '/' ∉ name
  filled : name ≠ []
  noDot : name ≠ ['.']
  noDots : name ≠ ['.', '.']

theorem of_names_last (front : List (List Char)) (last : List Char) (some_ : front ≠ []) :
    ofNames (front ++ [last]) = ofNames front ++ '/' :: last := by
  induction front with
  | nil => exact absurd rfl some_
  | cons name rest ih =>
      cases rest with
      | nil => rfl
      | cons next more =>
          have inner := ih (List.cons_ne_nil next more)
          have first : ∀ others, ofNames (name :: next :: others) = name ++ '/' :: ofNames (next :: others) :=
            fun _ => rfl
          rw [List.cons_append, List.cons_append, first, first, ← List.cons_append, inner,
            List.append_assoc, List.cons_append]

end Path

namespace Files

open CodeReview.Path (Normal)

theorem normal_piece (name : List Char) (normal : Normal name) : ofPiece name = some (.name name) := by
  unfold ofPiece
  split
  · exact absurd rfl normal.filled
  · exact absurd rfl normal.noDot
  · exact absurd rfl normal.noDots
  · rfl

theorem normal_plain (name : List Char) (normal : Normal name)
    (short : (Text.utf8 name).length ≤ longestName) : Plain name :=
  ⟨normal.whole, normal_piece name normal, short⟩

section Naming

def under (names : List (List Char)) : List Char := '/' :: Path.ofNames names

variable (names : List (List Char)) (normal : ∀ name ∈ names, Normal name) (some_ : names ≠ [])

include normal some_

theorem pieces_under : pieces (under names) = .root :: names.map .name := by
  have split : Text.splitAll (under names) '/' = [] :: names := by
    have rest := Text.split_names names some_ fun name member => (normal name member).whole
    rw [under, Text.splitAll, rest]
    rfl
  have each : names.filterMap ofPiece = names.map .name := by
    clear split some_
    induction names with
    | nil => rfl
    | cons name rest ih =>
        rw [List.filterMap_cons_some (normal_piece name (normal name List.mem_cons_self)), List.map_cons,
          ih fun n member => normal n (List.mem_cons_of_mem name member)]
  have absolute : Path.isAbsolute (under names) = true := by simp [Path.isAbsolute, under, Text.startsWith]
  rw [pieces, split, List.filterMap_cons_none rfl, each, absolute]
  rfl

theorem under_no_slash : endsInSlash (under names) = false := by
  obtain ⟨front, last, rfl⟩ : ∃ front last, names = front ++ [last] :=
    ⟨_, _, (List.dropLast_concat_getLast some_).symm⟩
  have named := normal last (List.mem_append_right front List.mem_cons_self)
  obtain ⟨before, same⟩ : ∃ before, under (front ++ [last]) = before ++ last := by
    by_cases none : front = []
    · exact ⟨['/'], by rw [none]; rfl⟩
    · exact ⟨under front ++ ['/'], by simp [under, Path.of_names_last front last none]⟩
  rw [same]
  exact no_slash_after before last named.whole named.filled

theorem join_under (last : List Char) (plain : Plain last) :
    Path.join (under names) last = under (names ++ [last]) := by
  have slash := under_no_slash names normal some_
  rw [endsInSlash] at slash
  rw [Path.join, plain_relative last plain, slash, under, under, Path.of_names_last names last some_]
  rfl

end Naming

section Linkless

def Linkless (files : Files) : Prop := ∀ place target, files.entryAt place ≠ some (.link target)

variable {files : Files}

theorem linkless_put (linkless : Linkless files) (place : Place) (below : place ≠ []) (entry : Entry)
    (solid : ∀ target, entry ≠ .link target) : Linkless (files.put place entry) := by
  intro other target
  rw [entry_put files place other entry below]
  split
  · exact fun same => solid target (Option.some.inj same)
  · exact linkless other target

theorem make_directories_linkless (linkless : Linkless files) (later : Files) (path : List Char)
    (made : files.makeDirectories path = .ok later) : Linkless later := by
  refine make_directories_keep Linkless ?_ files later path made linkless
  intro middle last pieces single sofar
  obtain ⟨place, new, single⟩ := bind_ok single
  cases single
  exact linkless_put sofar place (place_for_new_free middle pieces place new).1 .directory nofun

theorem walk_names (linkless : Linkless files) (names : List (List Char)) (last : List Char)
    (place : Place) : (∃ error, walk files true place ((names ++ [last]).map .name) = .failed error) ∨
      (walk files true place ((names ++ [last]).map .name) = .arrived (place ++ names ++ [last]) ∧
        (Text.utf8 last).length ≤ longestName ∧
        walk files true place (names.map .name) = .arrived (place ++ names) ∧
        (names ≠ [] → files.entryAt (place ++ names) = some .directory)) := by
  induction names generalizing place with
  | nil =>
      simp only [List.nil_append, List.map_cons, List.map_nil, walk]
      by_cases long : longestName < (Text.utf8 last).length
      · exact .inl ⟨.nameTooLong, by simp [long]⟩
      · right
        simp only [long, ↓reduceIte, List.isEmpty_nil, List.append_nil]
        refine ⟨?_, Nat.not_lt.mp long, by simp⟩
        cases entry : files.entryAt (place ++ [last]) with
        | none => rfl
        | some found =>
            cases found with
            | directory => rfl
            | file content => rfl
            | link target => exact absurd entry (linkless _ target)
  | cons name rest ih =>
      simp only [List.cons_append, List.map_cons, walk]
      by_cases long : longestName < (Text.utf8 name).length
      · exact .inl ⟨.nameTooLong, by simp [long]⟩
      simp only [long, ↓reduceIte]
      cases entry : files.entryAt (place ++ [name]) with
      | none => exact .inl ⟨.notFound, by simp⟩
      | some found =>
          cases found with
          | directory =>
              rcases ih (place ++ [name]) with failed | ⟨arrived, short, parents, directory⟩
              · exact .inl failed
              · right
                refine ⟨?_, short, ?_, fun _ => ?_⟩
                · simpa using arrived
                · simpa using parents
                · by_cases none : rest = []
                  · simpa [none] using entry
                  · simpa using directory none
          | file content => exact .inl ⟨.notDirectory, by simp⟩
          | link target => exact absurd entry (linkless _ target)

end Linkless

section Writing

theorem modify_ok (files later : Files) (path : List Char) (change : Bytes → Bytes)
    (modified : files.modify path change = .ok later) :
    checkPath path = .ok () ∧ endsInSlash path = false ∧ ∃ place old,
      files.locate path true = .ok place ∧ later = files.put place (.file (change old)) ∧
        files.entryAt place ≠ some .directory ∧ ∀ target, files.entryAt place ≠ some (.link target) := by
  obtain ⟨_, good, modified⟩ := bind_ok modified
  split at modified
  · cases modified
  next slash =>
  obtain ⟨place, located, modified⟩ := bind_ok modified
  refine ⟨good, Bool.not_eq_true _ ▸ slash, place, ?_⟩
  split at modified
  · next content there =>
      cases modified
      exact ⟨content, located, rfl, by simp [there], by simp [there]⟩
  · next free =>
      cases modified
      exact ⟨[], located, rfl, by simp [free], by simp [free]⟩
  · cases modified

/-- A file that is found under its names: in a directory that is there, at the place of the names. -/
structure Stands (files : Files) (front : List (List Char)) (last : List Char) (content : Bytes) :
    Prop where
  good : checkPath (under (front ++ [last])) = .ok ()
  plain : Plain last
  located : files.locateDirectory (pieces (under front)) = .ok front
  there : files.entryAt (front ++ [last]) = some (.file content)

variable {files later : Files} {front : List (List Char)} {last : List Char} {content : Bytes}

/-- A file that was written under names is found under them, and nothing else was changed. -/
theorem write_stands (linkless : Linkless files) (normal : ∀ name ∈ front ++ [last], Normal name)
    (some_ : front ≠ []) (written : files.write (under (front ++ [last])) content = .ok later) :
    Stands later front last content ∧ later = files.put (front ++ [last]) (.file content) ∧
      Keeps files later := by
  obtain ⟨good, slash, place, old, located, rfl, noDirectory, noLink⟩ :=
    modify_ok files later _ _ written
  have parents : ∀ name ∈ front, Normal name := fun name member =>
    normal name (List.mem_append_left [last] member)
  have below : front ++ [last] ≠ [] := by simp
  rw [locate, good, ok_bind, slash, pieces_under _ normal below, locatePieces, walkThrough] at located
  simp only [Bool.false_eq_true, ↓reduceIte, List.append_nil, walk] at located
  rcases walk_names linkless front last [] with ⟨error, failed⟩ | ⟨arrived, short, walked, directory⟩
  · rw [failed] at located
    cases located
  · rw [arrived] at located
    cases located
    have keeps := keeps_put files (front ++ [last]) below (.file content) noDirectory noLink
    have found : files.locateDirectory (pieces (under front)) = .ok front := by
      rw [locateDirectory, pieces_under front parents some_, locatePieces, walkThrough, walk, walked]
      rw [List.nil_append] at directory ⊢
      rw [ok_bind, directory some_]
    refine ⟨⟨good, normal_plain last (normal last (by simp)) short, ?_, ?_⟩, rfl, keeps⟩
    · exact directory_kept keeps _ front found
    · rw [List.nil_append, entry_put files _ _ _ below, if_pos rfl]

theorem stands_kept (keeps : Keeps files later) (stands : Stands files front last content)
    (there : later.entryAt (front ++ [last]) = some (.file content)) :
    Stands later front last content :=
  ⟨stands.good, stands.plain, directory_kept keeps _ front stands.located, there⟩

theorem stands_found (normal : ∀ name ∈ front, Normal name) (some_ : front ≠ [])
    (stands : Stands files front last content) :
    files.find (under (front ++ [last])) = .ok (front ++ [last], .file content) := by
  have good := stands.good
  rw [← join_under front normal some_ last stands.plain] at good ⊢
  exact find_below (under front) last stands.plain content front good stands.located stands.there

end Writing

end Files

end CodeReview
