import CodeReview.Coverage.Run
import CodeReview.Proofs.Files.Written
import Mathlib.Data.List.TakeDrop
import Mathlib.Data.List.TakeWhile

/-!
Whatever an identifier of a module is made of, the file of the module and that of its tests lie below the
workspace and are two files. The name of the tests has the name of the module in it up to the last dot,
with letters on both sides, so it is longer than any name that could lead to it.
-/

namespace CodeReview

open CodeReview.Path (Component Normal)

namespace Text

theorem split_last_parts (cs : List Char) (sep : Char) (before after : List Char)
    (divided : splitLast cs sep = some (before, after)) :
    cs = before ++ sep :: after ∧ sep ∉ after := by
  unfold splitLast at divided
  rw [List.span_eq_takeWhile_dropWhile] at divided
  have whole := List.takeWhile_append_dropWhile (p := (· != sep)) (l := cs.reverse)
  have free : sep ∉ cs.reverse.takeWhile (· != sep) := fun member => by
    simpa using List.mem_takeWhile_imp member
  have stopped := List.head?_dropWhile_not (· != sep) cs.reverse
  generalize cs.reverse.takeWhile (· != sep) = tail at divided whole free
  generalize cs.reverse.dropWhile (· != sep) = remains at divided whole stopped
  cases remains with
  | nil => cases divided
  | cons c rest =>
      cases divided
      have same : c = sep := by simpa using stopped
      refine ⟨?_, by simpa using free⟩
      rw [← List.reverse_reverse cs, ← whole, same]
      simp

end Text

namespace Path

theorem stem_cases (name : List Char) :
    stem name = name ∨ ∃ ending, name = stem name ++ '.' :: ending ∧ '.' ∉ ending := by
  unfold stem divide
  split
  · next c front ending divided =>
      exact .inr ⟨ending, Text.split_last_parts name '.' _ ending divided⟩
  · exact .inl rfl

theorem stem_part (name : List Char) : stem name <+: name := by
  rcases stem_cases name with same | ⟨ending, parts, -⟩
  · exact ⟨[], (List.append_nil _).trans same⟩
  · exact ⟨_, parts.symm⟩

/-- No name is that of the tests for its own stem. -/
theorem stem_apart (name : List Char) : name ≠ "test_".toList ++ stem name ++ ".py".toList := by
  intro same
  have length := congrArg List.length same
  rcases stem_cases name with whole | ⟨ending, parts, free⟩
  · rw [whole] at length
    simp at length
    omega
  · have longer := congrArg List.length parts
    simp only [List.length_append, List.length_cons] at length longer
    -- both endings are endings of one name, so the longer one has the dot of the shorter
    have short : ".py".toList <:+ name := ⟨_, same.symm⟩
    have long : ending <:+ name := ⟨stem name ++ ['.'], by rw [List.append_assoc]; exact parts.symm⟩
    have inside : ".py".toList <:+ ending :=
      List.suffix_of_suffix_length_le short long (by simp at length ⊢; omega)
    exact free (inside.subset (by decide))

end Path

namespace ModulePath

section Parsing

/-- The pieces of a path that lead on: those between slashes that are neither empty nor a dot. -/
def leading (path : List Char) : List (List Char) :=
  (Text.splitAll path '/').filter fun piece => piece ≠ [] ∧ piece ≠ ['.']

theorem names_pieces (pieces : List (List Char)) :
    names (pieces.filterMap Path.ofPiece) =
      if ['.', '.'] ∈ pieces then .error .goesUp
      else .ok (pieces.filter fun piece => piece ≠ [] ∧ piece ≠ ['.']) := by
  induction pieces with
  | nil => rfl
  | cons piece rest ih =>
      -- empty pieces and dots say nothing, two dots are refused, and all else is a name
      by_cases empty : piece = []
      · rw [empty, List.filterMap_cons_none rfl, ih]
        simp
      by_cases dot : piece = ['.']
      · rw [dot, List.filterMap_cons_none rfl, ih]
        simp
      by_cases dots : piece = ['.', '.']
      · have up : Path.ofPiece ['.', '.'] = some .up := rfl
        rw [dots, List.filterMap_cons_some up]
        simp [names]
      have named : Path.ofPiece piece = some (.name piece) := by
        unfold Path.ofPiece
        split <;> simp_all
      rw [List.filterMap_cons_some named, names, ih]
      by_cases up : ['.', '.'] ∈ rest
      · simp [up, bind, Except.bind]
      · simp [up, empty, dot, Ne.symm dots, bind, Except.bind, pure, Except.pure]

/-- What a path begins with only matters when it is a slash. -/
theorem names_opening (path : List Char) (rest : List Component) :
    names (Path.opening path ++ rest) =
      if path.head? = some '/' then .error .absolute else names rest := by
  unfold Path.opening
  split
  · simp [names]
  · simp [names]
  · simp [names]
  · next slash _ _ =>
      rw [if_neg]
      · rfl
      · intro first
        obtain ⟨others, same⟩ := List.head?_eq_some_iff.mp first
        exact slash others same

theorem parse_names (path : List Char) (found : List (List Char))
    (named : names (Path.components path) = .ok found) (m : ModulePath) :
    parse path = .ok m ↔ m.relative = found := by
  rw [parse, named, ok_bind, relative]
  cases last : found.getLast? with
  | none =>
      rw [List.getLast?_eq_none_iff.mp last]
      simp
  | some fileName =>
      obtain ⟨front, rfl⟩ := List.getLast?_eq_some_iff.mp last
      rw [List.dropLast_concat]
      constructor
      · rintro ⟨⟩
        rfl
      · intro same
        obtain ⟨parents, name⟩ := List.append_inj' same rfl
        obtain ⟨_, _⟩ := m
        cases parents
        cases name
        rfl

theorem parse_exact (path : List Char) (m : ModulePath) :
    parse path = .ok m ↔
      path.head? ≠ some '/' ∧ ['.', '.'] ∉ Text.splitAll path '/' ∧ m.relative = leading path := by
  have named : names (Path.components path) =
      if path.head? = some '/' then .error .absolute
      else if ['.', '.'] ∈ Text.splitAll path '/' then .error .goesUp else .ok (leading path) := by
    rw [Path.components, names_opening, names_pieces]
    rfl
  by_cases absolute : path.head? = some '/'
  · rw [parse, named, if_pos absolute]
    simp [absolute, bind, Except.bind]
  by_cases up : ['.', '.'] ∈ Text.splitAll path '/'
  · rw [parse, named, if_neg absolute, if_pos up]
    simp [up, bind, Except.bind]
  rw [if_neg absolute, if_neg up] at named
  rw [parse_names path _ named]
  simp only [absolute, up, not_false_eq_true, ne_eq, true_and]

theorem leading_normal (path : List Char) (level : ['.', '.'] ∉ Text.splitAll path '/') :
    ∀ name ∈ leading path, Normal name := by
  intro name member
  obtain ⟨piece, kept⟩ := List.mem_filter.mp member
  obtain ⟨filled, noDot⟩ := of_decide_eq_true kept
  exact ⟨Text.split_pieces_whole path '/' name piece, filled, noDot, fun same => level (same ▸ piece)⟩

theorem relative_nonempty (m : ModulePath) : m.relative ≠ [] := by simp [relative]

/-- Only what leads nowhere or out of the directory is refused. -/
theorem parse_refused (path : List Char) :
    (∃ refusal, parse path = .error refusal) ↔
      path.head? = some '/' ∨ ['.', '.'] ∈ Text.splitAll path '/' ∨
        ∀ piece ∈ Text.splitAll path '/', ¬ Normal piece := by
  constructor
  · rintro ⟨refusal, refused⟩
    by_contra fits
    obtain ⟨relative, fits⟩ := not_or.mp fits
    obtain ⟨level, some_⟩ := not_or.mp fits
    obtain ⟨name, piece, normal⟩ : ∃ name ∈ Text.splitAll path '/', Normal name := by
      simpa using some_
    have leads : name ∈ leading path :=
      List.mem_filter.mpr ⟨piece, decide_eq_true ⟨normal.filled, normal.noDot⟩⟩
    have filled : leading path ≠ [] := List.ne_nil_of_mem leads
    have parsed := (parse_exact path ⟨(leading path).dropLast, (leading path).getLast filled⟩).mpr
      ⟨relative, level, List.dropLast_concat_getLast filled⟩
    rw [refused] at parsed
    cases parsed
  · intro unfit
    cases parsed : parse path with
    | error refusal => exact ⟨refusal, rfl⟩
    | ok m =>
        obtain ⟨relative, level, names⟩ := (parse_exact path m).mp parsed
        rcases unfit with absolute | up | none
        · exact absurd absolute relative
        · exact absurd up level
        · have filled : leading path ≠ [] := names ▸ relative_nonempty m
          obtain ⟨name, member⟩ := List.exists_mem_of_ne_nil _ filled
          exact absurd (leading_normal path level name member) (none name (List.mem_filter.mp member).1)

end Parsing

section Tests

theorem stem_whole (m : ModulePath) (whole : '/' ∉ m.fileName) : '/' ∉ m.stem :=
  fun member => whole ((Path.stem_part m.fileName).subset member)

theorem test_file_normal (m : ModulePath) (whole : '/' ∉ m.stem) : ∀ name ∈ m.testFile, Normal name := by
  intro name member
  simp only [testFile, List.mem_cons, List.not_mem_nil, or_false] at member
  rcases member with rfl | rfl
  · exact ⟨by decide, by decide, by decide, by decide⟩
  · refine ⟨?_, by simp, by simp, by simp⟩
    simpa using whole

theorem test_file_apart (m : ModulePath) : m.relative ≠ m.testFile := by
  intro same
  have names : m.parents ++ [m.fileName] =
      ["tests".toList] ++ ["test_".toList ++ m.stem ++ ".py".toList] := same
  obtain ⟨-, name⟩ := List.append_inj' names rfl
  exact Path.stem_apart m.fileName (List.singleton_inj.mp name)

end Tests

end ModulePath

namespace Workspace

section Preparing

open Files (Linkless Stands)

theorem root_normal : ∀ name ∈ root, Normal name := by
  intro name member
  simp only [root, List.mem_cons, List.not_mem_nil, or_false] at member
  rcases member with rfl | rfl <;> exact ⟨by decide, by decide, by decide, by decide⟩

theorem bare_linkless : Linkless bare := by
  intro place target
  unfold Files.entryAt bare
  split
  · intro same
    cases same
  · simp only [Files.lookup]
    split
    · intro same
      cases same
    split
    · intro same
      cases same
    · intro same
      cases same

theorem path_under (names : List (List Char)) (some_ : names ≠ []) :
    pathOf names = Files.under (root ++ names) := by
  obtain ⟨name, rest, rfl⟩ := List.exists_cons_of_ne_nil some_
  rfl

/-- A file that was written below the workspace stands there, and whatever was there and is not this file
is there still. -/
theorem write_below_stands (files later : Files) (parents : List (List Char)) (last : List Char)
    (content : String) (linkless : Linkless files) (normal : ∀ name ∈ parents ++ [last], Normal name)
    (written : writeBelow files (parents ++ [last]) content = .ok later) :
    Linkless later ∧ Stands later (root ++ parents) last (Text.utf8 content.toList) ∧
      Files.Keeps files later ∧ ∀ place entry, files.entryAt place = some entry →
        place ≠ root ++ parents ++ [last] → later.entryAt place = some entry := by
  obtain ⟨made, makes, written⟩ := bind_ok written
  rw [path_under _ (by simp), ← List.append_assoc] at written
  have named : ∀ name ∈ root ++ parents ++ [last], Normal name := by
    intro name member
    rw [List.append_assoc] at member
    rcases List.mem_append.mp member with above | below
    · exact root_normal name above
    · exact normal name below
  have grows := Files.make_directories_grows files made _ makes
  have without := Files.make_directories_linkless linkless made _ makes
  obtain ⟨stands, rfl, keeps⟩ := Files.write_stands without named (by simp [root]) written
  have below : root ++ parents ++ [last] ≠ [] := by simp
  refine ⟨Files.linkless_put without _ below _ nofun, stands, ?_, fun place entry there other => ?_⟩
  · exact Files.keeps_trans (Files.grows_keeps grows) keeps
  · rw [Files.entry_put made _ _ _ below, if_neg other]
    exact grows.entry place entry there

/-- Both files of a workspace are found under their names, at different places below it. -/
theorem prepare_found (m : ModulePath) (source tests : String) (files : Files)
    (normal : ∀ name ∈ m.relative, Normal name) (prepared : prepare m source tests = .ok files) :
    files.find (pathOf m.relative) = .ok (root ++ m.relative, .file (Text.utf8 source.toList)) ∧
      files.find (pathOf m.testFile) = .ok (root ++ m.testFile, .file (Text.utf8 tests.toList)) := by
  obtain ⟨between, first, second⟩ := bind_ok prepared
  have whole : '/' ∉ m.stem := m.stem_whole (normal m.fileName (by simp [ModulePath.relative])).whole
  have testsNormal := m.test_file_normal whole
  obtain ⟨linkless, earlier, -, -⟩ :=
    write_below_stands bare between m.parents m.fileName source bare_linkless normal first
  obtain ⟨-, later, keeps, others⟩ :=
    write_below_stands between files ["tests".toList] _ tests linkless testsNormal second
  -- the tests are written last, and not in the place of the module
  have module_ := Files.stands_kept keeps earlier (others _ _ earlier.there fun same => by
    rw [List.append_assoc, List.append_assoc] at same
    exact m.test_file_apart ((List.append_right_inj root).mp same))
  have above : ∀ parents : List (List Char), (∀ name ∈ parents, Normal name) →
      (∀ name ∈ root ++ parents, Normal name) ∧ root ++ parents ≠ [] := fun parents each =>
    ⟨fun name member => (List.mem_append.mp member).elim (root_normal name) (each name), by simp [root]⟩
  rw [path_under _ m.relative_nonempty, path_under m.testFile (by simp [ModulePath.testFile])]
  constructor
  · obtain ⟨each, some_⟩ := above m.parents fun name member => normal name (List.mem_append_left _ member)
    rw [ModulePath.relative, ← List.append_assoc]
    exact Files.stands_found each some_ module_
  · obtain ⟨each, some_⟩ := above ["tests".toList] fun name member =>
      testsNormal name (List.mem_of_mem_head? (List.mem_singleton.mp member ▸ rfl))
    exact Files.stands_found each some_ later

theorem prepare_read (path : List Char) (m : ModulePath) (source tests : String) (files : Files)
    (parsed : ModulePath.parse path = .ok m) (prepared : prepare m source tests = .ok files) :
    files.read (pathOf m.relative) = .ok (Text.utf8 source.toList) ∧
      files.read (pathOf m.testFile) = .ok (Text.utf8 tests.toList) := by
  obtain ⟨-, level, names⟩ := (ModulePath.parse_exact path m).mp parsed
  obtain ⟨module_, own⟩ := prepare_found m source tests files
    (names ▸ ModulePath.leading_normal path level) prepared
  rw [Files.read, Files.read, module_, own]
  exact ⟨rfl, rfl⟩

end Preparing

section Contained

/-- An identifier is refused exactly when it starts at the root, goes up or names nothing. One that is taken
is the names in it, the tests have a name of their own beside it, and in a workspace that was prepared each
of the two is found below the workspace with the text that was given for it. -/
theorem workspace_contained (path : List Char) :
    ((∃ refusal, ModulePath.parse path = .error refusal) ↔
      path.head? = some '/' ∨ ['.', '.'] ∈ Text.splitAll path '/' ∨
        ∀ piece ∈ Text.splitAll path '/', ¬ Normal piece) ∧
    ∀ m, ModulePath.parse path = .ok m →
      m.relative = (Text.splitAll path '/').filter (fun piece => piece ≠ [] ∧ piece ≠ ['.']) ∧
      (m.relative ≠ [] ∧ ∀ name ∈ m.relative, Normal name) ∧
      (m.testFile = ["tests".toList, "test_".toList ++ m.stem ++ ".py".toList] ∧ '/' ∉ m.stem ∧
        ∀ name ∈ m.testFile, Normal name) ∧
      m.relative ≠ m.testFile ∧
      ∀ source tests files, prepare m source tests = .ok files →
        (files.place? (pathOf m.relative) = some (root ++ m.relative) ∧
          files.read (pathOf m.relative) = .ok (Text.utf8 source.toList)) ∧
        files.place? (pathOf m.testFile) = some (root ++ m.testFile) ∧
          files.read (pathOf m.testFile) = .ok (Text.utf8 tests.toList) := by
  refine ⟨ModulePath.parse_refused path, fun m parsed => ?_⟩
  obtain ⟨-, level, names⟩ := (ModulePath.parse_exact path m).mp parsed
  have normal : ∀ name ∈ m.relative, Normal name := names ▸ ModulePath.leading_normal path level
  have whole : '/' ∉ m.stem := m.stem_whole (normal m.fileName (by simp [ModulePath.relative])).whole
  refine ⟨names, ⟨m.relative_nonempty, normal⟩, ⟨rfl, whole, m.test_file_normal whole⟩,
    m.test_file_apart, fun source tests files prepared => ?_⟩
  obtain ⟨module_, own⟩ := prepare_found m source tests files normal prepared
  rw [Files.place?, Files.place?, Files.read, Files.read, module_, own]
  exact ⟨⟨rfl, rfl⟩, rfl, rfl⟩

theorem workspace_contained_test :
    ∃ m files, ModulePath.parse "./tests//test_x.py".toList = .ok m ∧
      prepare m "X = 1\n" "import x\n" = .ok files ∧
      files.read (pathOf ["tests".toList, "test_x.py".toList]) = .ok (Text.utf8 "X = 1\n".toList) ∧
      files.read (pathOf ["tests".toList, "test_test_x.py".toList]) =
        .ok (Text.utf8 "import x\n".toList) := by
  have parsed : ModulePath.parse "./tests//test_x.py".toList =
      .ok ⟨["tests".toList], "test_x.py".toList⟩ := by
    decide
  have ends : (prepare ⟨["tests".toList], "test_x.py".toList⟩ "X = 1\n" "import x\n").isOk = true := by
    decide +kernel
  have contained := (workspace_contained "./tests//test_x.py".toList).2 _ parsed
  cases prepared : prepare ⟨["tests".toList], "test_x.py".toList⟩ "X = 1\n" "import x\n" with
  | error e =>
      rw [prepared] at ends
      cases ends
  | ok files =>
      obtain ⟨module_, own⟩ := contained.2.2.2.2 "X = 1\n" "import x\n" files prepared
      exact ⟨_, files, parsed, prepared, module_.2, own.2⟩

end Contained

end Workspace

end CodeReview
