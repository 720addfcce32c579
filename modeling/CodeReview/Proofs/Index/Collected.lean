import CodeReview.Index.Loader
import CodeReview.Proofs.Coverage.ModuleName
import CodeReview.Proofs.Files.Contents
import CodeReview.Proofs.Text.Utf8

/-!
Which files of a repository are collected. The walk reaches a file by the directories above it, so what is
collected is said of a file alone: of its name, its bytes and the names of these directories. The order is
that of the ways, name by name. What the walk passes over, or finds and does not take, may be otherwise
without a difference.
-/

namespace CodeReview

namespace Path

theorem of_names_intercalate (names : List (List Char)) : ofNames names = ['/'].intercalate names := by
  induction names with
  | nil => rfl
  | cons name rest ih =>
      cases rest with
      | nil => simp [ofNames, List.intercalate]
      | cons next more =>
          rw [ofNames, ih]
          · simp [List.intercalate]
          · exact List.cons_ne_nil next more

end Path

namespace Loader

section Taking

structure Eligible (name : List Char) (content : Bytes) (text : List Char) : Prop where
  named : ∃ stem extension, stem ≠ [] ∧ '.' ∉ extension ∧ name = stem ++ '.' :: extension ∧
    Text.lower extension ∈ ["md".toList, "py".toList, "txt".toList]
  least : 20 ≤ content.length
  most : content.length ≤ 200000
  whole : content = Text.utf8 text

def TextFile (files : Files) (place : Place) (names : List (List Char)) (text : List Char) : Prop :=
  ∃ name content, names.getLast? = some name ∧
    files.entryAt (place ++ names) = some (.file content) ∧ Eligible name content text

theorem has_extension_iff (name : List Char) :
    hasExtension name = true ↔ ∃ stem extension, stem ≠ [] ∧ '.' ∉ extension ∧
      name = stem ++ '.' :: extension ∧
        Text.lower extension ∈ ["md".toList, "py".toList, "txt".toList] := by
  unfold hasExtension
  constructor
  · intro has
    split at has
    · next extension found =>
        obtain ⟨free, stem, filled, parts⟩ := (Path.extension_exact name extension).mp found
        exact ⟨stem, extension, filled, free, parts, List.contains_iff_mem.mp has⟩
    · cases has
  · rintro ⟨stem, extension, filled, free, parts, known⟩
    rw [(Path.extension_exact name extension).mpr ⟨free, stem, filled, parts⟩]
    exact List.contains_iff_mem.mpr known

theorem text_of_iff (content : Bytes) (text : List Char) :
    textOf content = some text ↔
      20 ≤ content.length ∧ content.length ≤ 200000 ∧ content = Text.utf8 text := by
  unfold textOf leastBytes mostBytes
  rw [← Text.of_utf8_iff]
  split
  · next outside =>
      rw [Bool.or_eq_true, decide_eq_true_eq, decide_eq_true_eq] at outside
      simp only [reduceCtorEq, false_iff]
      omega
  · next inside =>
      rw [Bool.or_eq_true, decide_eq_true_eq, decide_eq_true_eq] at inside
      exact ⟨fun read => ⟨by omega, by omega, read⟩, fun both => both.2.2⟩

theorem document_iff (path : List (List Char)) (name : List Char) (content : Bytes)
    (d : LoadedDocument) :
    document? path name content = some d ↔ d.path = path ∧ Eligible name content d.text := by
  unfold document?
  constructor
  · intro found
    obtain ⟨has, found⟩ := Option.ite_none_right_eq_some.mp found
    obtain ⟨text, read, rfl⟩ := Option.map_eq_some_iff.mp found
    obtain ⟨least, most, whole⟩ := (text_of_iff content text).mp read
    exact ⟨rfl, (has_extension_iff name).mp has, least, most, whole⟩
  · rintro ⟨rfl, named, least, most, whole⟩
    rw [if_pos ((has_extension_iff name).mpr named), (text_of_iff content d.text).mpr ⟨least, most, whole⟩]
    rfl

end Taking

section Walking

variable (files : Files) (excluded : List Place)

def visit (depth : Nat) (place : Place) (path : List (List Char)) (item : List Char × Entry) :
    List LoadedDocument :=
  match item.2 with
  | .file content => (document? (path ++ [item.1]) item.1 content).toList
  | .link _ => []
  | .directory =>
      if isExcluded excluded (place ++ [item.1]) item.1 then []
      else walkDirectory files excluded depth (place ++ [item.1]) (path ++ [item.1])

theorem walk_entries_visit (depth : Nat) (place : Place) (path : List (List Char))
    (items : List (List Char × Entry)) :
    walkEntries files excluded depth place path items =
      items.flatMap (visit files excluded depth place path) := by
  induction items with
  | nil => rw [walkEntries, List.flatMap_nil]
  | cons item rest ih =>
      obtain ⟨name, entry⟩ := item
      rw [walkEntries.eq_def, List.flatMap_cons, ← ih]
      rfl

theorem visit_file (depth : Nat) (place : Place) (path : List (List Char)) (name : List Char)
    (content : Bytes) (d : LoadedDocument) :
    d ∈ visit files excluded depth place path (name, .file content) ↔
      d.path = path ++ [name] ∧ Eligible name content d.text := by
  rw [visit, Option.mem_toList]
  exact document_iff _ _ _ _

theorem visit_directory (depth : Nat) (place : Place) (path : List (List Char)) (name : List Char)
    (d : LoadedDocument) :
    d ∈ visit files excluded depth place path (name, .directory) ↔
      isExcluded excluded (place ++ [name]) name = false ∧
        d ∈ walkDirectory files excluded depth (place ++ [name]) (path ++ [name]) := by
  cases entered : isExcluded excluded (place ++ [name]) name <;> simp [visit, entered]

inductive Reached : Place → List (List Char) → List Char → Prop
  | file {place : Place} {name : List Char} {content : Bytes} {text : List Char}
      (there : files.entryAt (place ++ [name]) = some (.file content))
      (eligible : Eligible name content text) : Reached place [name] text
  | deeper {place : Place} {name : List Char} {names : List (List Char)} {text : List Char}
      (there : files.entryAt (place ++ [name]) = some .directory)
      (entered : isExcluded excluded (place ++ [name]) name = false)
      (rest : Reached (place ++ [name]) names text) : Reached place (name :: names) text

def Clear (place : Place) (names : List (List Char)) : Prop :=
  ∀ front name, front ++ [name] <+: names → front ++ [name] ≠ names →
    isExcluded excluded (place ++ (front ++ [name])) name = false

variable {files excluded}

theorem clear_single (place : Place) (name : List Char) : Clear excluded place [name] := by
  intro front last lead proper
  have short := lead.length_le
  exact absurd (lead.eq_of_length (by simp at short ⊢; omega)) proper

theorem clear_deeper (place : Place) (name : List Char) (names : List (List Char)) (some_ : names ≠ []) :
    Clear excluded place (name :: names) ↔
      isExcluded excluded (place ++ [name]) name = false ∧ Clear excluded (place ++ [name]) names := by
  constructor
  · intro clear
    refine ⟨clear [] name ⟨names, rfl⟩ (by simpa using some_.symm), fun front directory lead proper => ?_⟩
    have outer := clear (name :: front) directory (List.cons_prefix_cons.mpr ⟨rfl, lead⟩)
      fun same => proper (List.cons.inj same).2
    simpa using outer
  · rintro ⟨entered, clear⟩ front directory lead proper
    cases front with
    | nil =>
        obtain ⟨rfl, -⟩ := List.cons_prefix_cons.mp lead
        exact entered
    | cons first front =>
        obtain ⟨rfl, behind⟩ := List.cons_prefix_cons.mp lead
        have inner := clear front directory behind fun same => proper (by rw [← same]; rfl)
        simpa using inner

theorem reached_clear (place : Place) (names : List (List Char)) (text : List Char)
    (reached : Reached files excluded place names text) :
    TextFile files place names text ∧ Clear excluded place names := by
  induction reached with
  | @file place name content text there eligible =>
      exact ⟨⟨name, content, rfl, there, eligible⟩, clear_single place name⟩
  | @deeper place name names text there entered rest ih =>
      obtain ⟨⟨last, content, ending, found, eligible⟩, clear⟩ := ih
      have some_ : names ≠ [] := fun none => by simp [none] at ending
      refine ⟨⟨last, content, ?_, by simpa using found, eligible⟩,
        (clear_deeper place name names some_).mpr ⟨entered, clear⟩⟩
      rw [List.getLast?_cons, ending]
      rfl

variable (formed : files.WellFormed)

include formed

theorem clear_reached (place : Place) (names : List (List Char)) (text : List Char)
    (file : TextFile files place names text) (clear : Clear excluded place names) :
    Reached files excluded place names text := by
  obtain ⟨last, content, ending, found, eligible⟩ := file
  induction names generalizing place with
  | nil => cases ending
  | cons name rest ih =>
      cases rest with
      | nil =>
          cases ending
          exact .file found eligible
      | cons next more =>
          have some_ := List.cons_ne_nil next more
          have there := files.between_directory formed (place ++ [name]) (next :: more) some_ _
            (by simpa using found)
          obtain ⟨entered, clear⟩ := (clear_deeper place name _ some_).mp clear
          exact .deeper there entered (ih _ clear ending (by simpa using found))

/-- The walk takes what it reaches in as many steps as it may go. -/
theorem walk_iff (depth : Nat) (place : Place) (path : List (List Char)) (d : LoadedDocument) :
    d ∈ walkDirectory files excluded depth place path ↔
      ∃ names, names.length ≤ depth ∧ d.path = path ++ names ∧
        Reached files excluded place names d.text := by
  induction depth generalizing place path with
  | zero =>
      rw [walkDirectory]
      refine ⟨fun member => absurd member List.not_mem_nil, ?_⟩
      rintro ⟨names, short, -, reached⟩
      -- no file is reached without a step
      cases reached <;> simp at short
  | succ depth ih =>
      rw [walkDirectory, walk_entries_visit, List.mem_flatMap]
      constructor
      · rintro ⟨⟨name, entry⟩, child, member⟩
        have there := (files.children_member formed place name entry).mp child
        cases entry with
        | file content =>
            obtain ⟨same, eligible⟩ := (visit_file ..).mp member
            exact ⟨[name], by simp, same, .file there eligible⟩
        | link target => exact absurd member List.not_mem_nil
        | directory =>
            obtain ⟨entered, member⟩ := (visit_directory ..).mp member
            obtain ⟨names, short, same, reached⟩ := (ih _ _).mp member
            exact ⟨name :: names, Nat.succ_le_succ short, by simpa using same,
              .deeper there entered reached⟩
      · rintro ⟨names, short, same, reached⟩
        cases reached with
        | @file _ name content _ there eligible =>
            exact ⟨(name, .file content), (files.children_member formed _ _ _).mpr there,
              (visit_file ..).mpr ⟨same, eligible⟩⟩
        | @deeper _ name names _ there entered rest =>
            have below := (ih (place ++ [name]) (path ++ [name])).mpr
              ⟨names, Nat.le_of_succ_le_succ short, by simpa using same, rest⟩
            exact ⟨(name, .directory), (files.children_member formed _ _ _).mpr there,
              (visit_directory ..).mpr ⟨entered, below⟩⟩

theorem visit_path (depth : Nat) (place : Place) (path : List (List Char))
    (item : List Char × Entry) (d : LoadedDocument)
    (member : d ∈ visit files excluded depth place path item) :
    ∃ more, d.path = path ++ item.1 :: more := by
  obtain ⟨name, entry⟩ := item
  cases entry with
  | file content => exact ⟨[], ((visit_file ..).mp member).1⟩
  | link target => exact absurd member List.not_mem_nil
  | directory =>
      obtain ⟨names, -, same, -⟩ := (walk_iff formed _ _ _ _).mp ((visit_directory ..).mp member).2
      exact ⟨names, by simpa using same⟩

/-- What is found at the entries of a directory comes in the order of their names, and deeper down in the
order of the names there. -/
theorem walk_ascending (depth : Nat) (place : Place) (path : List (List Char)) :
    (walkDirectory files excluded depth place path).Pairwise fun a b => a.path < b.path := by
  induction depth generalizing place path with
  | zero =>
      rw [walkDirectory]
      exact List.Pairwise.nil
  | succ depth ih =>
      rw [walkDirectory, walk_entries_visit, List.pairwise_flatMap]
      constructor
      · rintro ⟨name, entry⟩ -
        cases entry with
        | file content =>
            dsimp only [visit]
            cases document? (path ++ [name]) name content <;> simp
        | link target => exact List.Pairwise.nil
        | directory =>
            dsimp only [visit]
            split
            · exact List.Pairwise.nil
            · exact ih _ _
      · -- all that is found at an entry has its name next on the way, so the names decide
        refine (files.children_ascending formed place).imp fun {a b} earlier d found d' found' => ?_
        obtain ⟨more, same⟩ := visit_path formed depth place path a d found
        obtain ⟨more', same'⟩ := visit_path formed depth place path b d' found'
        rw [same, same']
        exact List.append_left_lt (List.cons_lt_cons_iff.mpr (.inl earlier))

end Walking

section Collecting

variable (files : Files) (exclude : List (List Char)) (root : Place)

def Skipped (directory : List (List Char)) : Prop :=
  ∃ name, directory.getLast? = some name ∧
    (name ∈ [".git".toList, "__pycache__".toList, "node_modules".toList] ∨
      ∃ path ∈ exclude, files.find path = .ok (root ++ directory, .directory))

def InSkipped (names : List (List Char)) : Prop :=
  ∃ directory, directory <+: names ∧ directory ≠ names ∧ Skipped files exclude root directory

/-- Whatever was done here makes no difference: it was done in a directory that is passed over, or to
something that is not taken and was not taken before. -/
def Immaterial (later : Files) (names : List (List Char)) : Prop :=
  InSkipped files exclude root names ∨
    ∀ text, ¬ TextFile files root names text ∧ ¬ TextFile later root names text

structure Selected (d : LoadedDocument) : Prop where
  file : TextFile files root d.path d.text
  free : ¬ InSkipped files exclude root d.path

variable {files exclude root}

theorem excluded_member (path : List Char)
    (directories : ∀ path ∈ exclude, ∃ p, files.find path = .ok (p, .directory)) (place : Place) :
    place ∈ exclude.filterMap (excludedPlace? files path) ↔
      ∃ path ∈ exclude, files.find path = .ok (place, .directory) := by
  have resolved : ∀ excluded p, files.find excluded = .ok (p, .directory) →
      excludedPlace? files path excluded = some p := by
    intro excluded p found
    rw [excludedPlace?, Files.place?, found]
  rw [List.mem_filterMap]
  constructor
  · rintro ⟨excluded, member, same⟩
    obtain ⟨p, found⟩ := directories excluded member
    rw [resolved excluded p found] at same
    exact ⟨excluded, member, Option.some.inj same ▸ found⟩
  · rintro ⟨excluded, member, found⟩
    exact ⟨excluded, member, resolved excluded place found⟩

theorem is_excluded_iff (path : List Char)
    (directories : ∀ path ∈ exclude, ∃ p, files.find path = .ok (p, .directory))
    (front : List (List Char)) (name : List Char) :
    isExcluded (exclude.filterMap (excludedPlace? files path)) (root ++ (front ++ [name])) name = true ↔
      Skipped files exclude root (front ++ [name]) := by
  rw [isExcluded, Bool.or_eq_true, List.contains_iff_mem, List.contains_iff_mem,
    excluded_member path directories]
  unfold Skipped
  simp [passedOver]

theorem load_walk (path : List Char) (found : files.find path = .ok (root, .directory)) :
    load files path exclude =
      walkDirectory files (exclude.filterMap (excludedPlace? files path)) (files.entries.length + 1)
        root [] := by
  obtain ⟨last, located, there⟩ := files.locate_unfollowed path root found
  rw [load, located]
  rcases there with there | ⟨target, there⟩ <;> simp only [there, found]

variable (formed : files.WellFormed) (path : List Char)
  (found : files.find path = .ok (root, .directory))

include formed found

theorem load_iff (directories : ∀ path ∈ exclude, ∃ p, files.find path = .ok (p, .directory))
    (d : LoadedDocument) : d ∈ load files path exclude ↔ Selected files exclude root d := by
  rw [load_walk path found, walk_iff formed]
  constructor
  · rintro ⟨names, -, same, reached⟩
    obtain rfl : d.path = names := same
    obtain ⟨file, free⟩ := reached_clear root _ _ reached
    refine ⟨file, fun ⟨directory, lead, proper, skipped⟩ => ?_⟩
    -- the name is read off a copy, because the directory itself has to be split as well
    obtain ⟨name, ending, -⟩ := id skipped
    rw [← List.dropLast_append_getLast? _ ending] at lead proper skipped
    have entered := free _ _ lead proper
    rw [(is_excluded_iff path directories _ _).mpr skipped] at entered
    cases entered
  · rintro ⟨file, free⟩
    have clear : Clear (exclude.filterMap (excludedPlace? files path)) root d.path :=
      fun front name lead proper => Bool.eq_false_iff.mpr fun skipped =>
        free ⟨_, lead, proper, (is_excluded_iff path directories _ _).mp skipped⟩
    have reached := clear_reached formed root d.path d.text file clear
    obtain ⟨name, content, ending, there, -⟩ := file
    -- every step of the way is an entry, so the walk goes deep enough
    exact ⟨d.path, Nat.le_succ_of_le (files.way_length formed root d.path _ there), rfl, reached⟩

theorem load_ascending : (load files path exclude).Pairwise fun a b => a.path < b.path := by
  rw [load_walk path found]
  exact walk_ascending formed _ _ _

omit found in
theorem source_path (d : LoadedDocument) (selected : Selected files exclude root d) :
    Text.splitAll d.source.toList '/' = d.path := by
  obtain ⟨name, content, ending, there, -⟩ := selected.file
  have some_ : d.path ≠ [] := fun none => by simp [none] at ending
  rw [LoadedDocument.source, String.toList_ofList]
  exact Text.split_names d.path some_ (files.name_whole formed root d.path some_ _ there)

end Collecting

section Unchanged

/-- Two lists in order with the same members are one. -/
theorem ascending_same {documents documents' : List LoadedDocument}
    (ascending : documents.Pairwise fun a b => a.path < b.path)
    (ascending' : documents'.Pairwise fun a b => a.path < b.path)
    (members : ∀ d, d ∈ documents ↔ d ∈ documents') : documents = documents' := by
  have once {l : List LoadedDocument} (ascending : l.Pairwise fun a b => a.path < b.path) : l.Nodup :=
    ascending.imp fun {a b} earlier same => by
      rw [show a = b from same] at earlier
      exact List.lt_irrefl _ earlier
  have both := (List.perm_ext_iff_of_nodup (once ascending) (once ascending')).mpr members
  exact both.eq_of_pairwise (fun _ _ _ _ earlier later => absurd later (List.lt_asymm earlier)) ascending
    ascending'

variable {files later : Files} {exclude : List (List Char)} {root : Place}

theorem skipped_same (directories : ∀ path ∈ exclude, later.find path = files.find path)
    (directory : List (List Char)) :
    Skipped later exclude root directory ↔ Skipped files exclude root directory := by
  have each : (∃ path ∈ exclude, later.find path = .ok (root ++ directory, .directory)) ↔
      ∃ path ∈ exclude, files.find path = .ok (root ++ directory, .directory) :=
    exists_congr fun path => and_congr_right fun member => by rw [directories path member]
  unfold Skipped
  simp only [each]

theorem selected_same (directories : ∀ path ∈ exclude, later.find path = files.find path)
    (same : ∀ names, later.entryAt (root ++ names) = files.entryAt (root ++ names) ∨
      Immaterial files exclude root later names) (d : LoadedDocument) :
    Selected later exclude root d ↔ Selected files exclude root d := by
  have inside : InSkipped later exclude root d.path ↔ InSkipped files exclude root d.path := by
    simp only [InSkipped, skipped_same directories]
  -- inside a directory that is passed over the two trees may hold different files
  have file (free : ¬ InSkipped files exclude root d.path) :
      TextFile later root d.path d.text ↔ TextFile files root d.path d.text := by
    rcases same d.path with same | behind | none
    · simp only [TextFile, same]
    · exact absurd behind free
    · exact ⟨fun found => absurd found (none d.text).2, fun found => absurd found (none d.text).1⟩
  constructor
  · rintro ⟨found, free⟩
    exact ⟨(file (free ∘ inside.mpr)).mp found, free ∘ inside.mpr⟩
  · rintro ⟨found, free⟩
    exact ⟨(file free).mpr found, free ∘ inside.mp⟩

end Unchanged

/-- What is collected from a repository are the text files that are in no directory that is passed over, each
once, in the order of their ways; and it stays the same whatever is done in such a directory or to a file
that is not taken. -/
theorem load_exact (files : Files) (path : List Char) (exclude : List (List Char)) (root : Place)
    (formed : files.WellFormed) (found : files.find path = .ok (root, .directory))
    (directories : ∀ path ∈ exclude, ∃ place, files.find path = .ok (place, .directory)) :
    let documents := load files path exclude
    (∀ d, d ∈ documents ↔ Selected files exclude root d) ∧
      documents.Pairwise (fun a b => a.path < b.path) ∧
      (∀ d ∈ documents, d.source.toList = ['/'].intercalate d.path ∧
        Text.splitAll d.source.toList '/' = d.path) ∧
      (documents.map LoadedDocument.source).Nodup ∧
      ∀ later : Files, later.WellFormed → later.find path = .ok (root, .directory) →
        (∀ path ∈ exclude, later.find path = files.find path) →
        (∀ names, later.entryAt (root ++ names) = files.entryAt (root ++ names) ∨
          Immaterial files exclude root later names) →
        load later path exclude = documents := by
  have members := load_iff formed path found directories
  have ascending : (load files path exclude).Pairwise fun a b => a.path < b.path :=
    load_ascending formed path found
  have ways : ∀ d ∈ load files path exclude, Text.splitAll d.source.toList '/' = d.path :=
    fun d member => source_path formed d ((members d).mp member)
  refine ⟨members, ascending, fun d member => ⟨?_, ways d member⟩, ?_, ?_⟩
  · rw [LoadedDocument.source, String.toList_ofList, Path.of_names_intercalate]
  · refine List.pairwise_map.mpr (ascending.imp_of_mem fun {a b} left right earlier same => ?_)
    rw [← ways a left, ← ways b right, same] at earlier
    exact List.lt_irrefl _ earlier
  · intro later formed' found' directories' same
    have there : ∀ path ∈ exclude, ∃ place, later.find path = .ok (place, .directory) := by
      intro path member
      rw [directories' path member]
      exact directories path member
    refine ascending_same (load_ascending formed' path found') ascending fun d => ?_
    rw [load_iff formed' path found' there, members]
    exact selected_same directories' same d

theorem load_exact_changed :
    let text := List.replicate 20 'a'
    let content := Text.utf8 text
    let files : Files := {
      entries :=
        [(["r".toList], .directory), (["r".toList, "b".toList], .directory),
          (["r".toList, "b".toList, "x.MD".toList], .file content),
          (["r".toList, "out".toList], .directory),
          (["r".toList, "out".toList, "o.md".toList], .file content),
          (["r".toList, "s.py".toList], .file [])] }
    let later := (files.put ["r".toList, "out".toList, "o.md".toList] (.file (0 :: content))).put
      ["r".toList, "s.py".toList] (.file [0])
    let documents := load files "/r".toList ["/r/out".toList]
    ⟨["b".toList, "x.MD".toList], text⟩ ∈ documents ∧
      ⟨["out".toList, "o.md".toList], text⟩ ∉ documents ∧
      load later "/r".toList ["/r/out".toList] = documents := by
  intro text content files later documents
  have found : files.find "/r".toList = .ok (["r".toList], .directory) := by decide
  have out : files.find "/r/out".toList = .ok (["r".toList, "out".toList], .directory) := by decide
  have out_skipped : Skipped files ["/r/out".toList] ["r".toList] ["out".toList] :=
    ⟨_, rfl, .inr ⟨_, List.mem_singleton_self _, out⟩⟩
  obtain ⟨members, -, -, -, unchanged⟩ := load_exact files "/r".toList ["/r/out".toList] ["r".toList]
    ⟨by decide, by decide, by decide⟩ found fun path member =>
      ⟨_, List.mem_singleton.mp member ▸ out⟩
  refine ⟨(members _).mpr ⟨?_, ?_⟩, fun member => ?_, ?_⟩
  · refine ⟨"x.MD".toList, content, rfl, by decide, ?_, by decide, by decide, rfl⟩
    exact ⟨"x".toList, "MD".toList, by decide, by decide, by decide, by decide⟩
  · rintro ⟨directory, lead, proper, name, ending, why⟩
    rcases List.prefix_cons_iff.mp lead with rfl | ⟨rest, rfl, inner⟩
    · cases ending
    rcases List.prefix_cons_iff.mp inner with rfl | ⟨rest, rfl, last⟩
    · cases ending
      rcases why with named | ⟨path, member, elsewhere⟩
      · exact absurd named (by decide)
      · rw [List.mem_singleton.mp member, out] at elsewhere
        cases elsewhere
    · exact proper (by rw [List.prefix_nil.mp last])
  · exact ((members _).mp member).free ⟨["out".toList], by decide, by decide, out_skipped⟩
  · refine unchanged later ⟨by decide, by decide, by decide⟩ (by decide) (by decide) fun names => ?_
    by_cases behind : names = ["out".toList, "o.md".toList]
    · exact .inr (.inl ⟨["out".toList], by rw [behind]; decide, by rw [behind]; decide, out_skipped⟩)
    by_cases small : names = ["s.py".toList]
    · subst small
      have before : files.entryAt ["r".toList, "s.py".toList] = some (.file []) := by decide
      have after : later.entryAt ["r".toList, "s.py".toList] = some (.file [0]) := by decide
      refine .inr (.inr fun text => ⟨?_, ?_⟩)
      · rintro ⟨name, content, -, there, eligible⟩
        cases before.symm.trans there
        exact absurd eligible.least (by decide)
      · rintro ⟨name, content, -, there, eligible⟩
        cases after.symm.trans there
        exact absurd eligible.least (by decide)
    · left
      rw [Files.entry_put _ _ _ _ (by decide), Files.entry_put _ _ _ _ (by decide), if_neg, if_neg]
      · simpa using behind
      · simpa using small

end Loader

end CodeReview
