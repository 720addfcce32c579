import CodeReview.Proofs.Coverage.Containment
import CodeReview.Tests.Scaffold
import Mathlib.Data.List.Basic

/-!
A module has two names, the one under which the tests import it, which is made from the text of its path,
and the one that is measured, which is made from the names in the path. The tests have the same file by
both ways. The names are the same exactly for paths without a backslash that have nothing but dots before
their names and one slash between each two; for all others the text leaves something in the first name that
is no part of the second, and what is imported is not what was written.
-/

namespace CodeReview

namespace Text

variable {sep : Char}

def ended (sep : Char) (pieces : List (List Char)) : List Char := pieces.flatMap (· ++ [sep])

theorem split_last_none (cs : List Char) : splitLast cs sep = none ↔ sep ∉ cs := by
  constructor
  · intro undivided
    rw [splitLast, List.span_eq_takeWhile_dropWhile] at undivided
    cases found : cs.reverse.dropWhile (· != sep) with
    | cons c rest =>
        rw [found] at undivided
        cases undivided
    | nil =>
        intro member
        have other := List.dropWhile_eq_nil_iff.mp found sep (List.mem_reverse.mpr member)
        simp at other
  · intro absent
    cases divided : splitLast cs sep with
    | none => rfl
    | some parts =>
        obtain ⟨whole, -⟩ := split_last_parts cs sep parts.1 parts.2 divided
        exact absurd (whole ▸ List.mem_append_right _ List.mem_cons_self) absent

theorem split_last_found (before after : List Char) (free : sep ∉ after) :
    splitLast (before ++ sep :: after) sep = some (before, after) := by
  have passed : ∀ c ∈ after.reverse, (c != sep) = true := by
    intro c member
    simp only [bne_iff_ne, ne_eq]
    rintro rfl
    exact free (List.mem_reverse.mp member)
  rw [splitLast, List.span_eq_takeWhile_dropWhile, List.reverse_append, List.reverse_cons,
    List.append_assoc, List.takeWhile_append_of_pos passed, List.dropWhile_append_of_pos passed]
  simp

theorem ended_append (first rest : List (List Char)) :
    ended sep (first ++ rest) = ended sep first ++ ended sep rest := List.flatMap_append

theorem ended_cons (piece : List Char) (rest : List (List Char)) :
    ended sep (piece :: rest) = piece ++ sep :: ended sep rest := by
  simp [ended]

theorem ended_length (other : Char) (pieces : List (List Char)) :
    (ended sep pieces).length = (ended other pieces).length := by
  simp [ended]

theorem intercalate_ended (pieces : List (List Char)) (last : List Char) :
    [sep].intercalate (pieces ++ [last]) = ended sep pieces ++ last := by
  induction pieces with
  | nil => simp [ended, List.intercalate]
  | cons piece rest ih =>
      obtain ⟨next, more, others⟩ := List.exists_cons_of_ne_nil (l := rest ++ [last]) (by simp)
      rw [others] at ih
      rw [List.cons_append, others]
      simp only [ended, List.flatMap_cons, List.append_assoc] at ih ⊢
      rw [← ih]
      simp [List.intercalate]

theorem split_ended (cs : List Char) :
    ∃ pieces last, splitAll cs sep = pieces ++ [last] ∧ cs = ended sep pieces ++ last := by
  induction cs with
  | nil => exact ⟨[], [], rfl, rfl⟩
  | cons c rest ih =>
      obtain ⟨pieces, last, split, whole⟩ := ih
      by_cases same : c = sep
      · refine ⟨[] :: pieces, last, ?_, ?_⟩
        · simp [splitAll, same, split]
        · rw [same, whole]
          rfl
      · cases pieces with
        | nil => exact ⟨[], c :: last, by simp [splitAll, same, split], by rw [whole]; rfl⟩
        | cons piece more =>
            exact ⟨(c :: piece) :: more, last, by simp [splitAll, same, split], by rw [whole]; rfl⟩

theorem split_whole_text (cs : List Char) (pieces : List (List Char)) (last : List Char)
    (split : splitAll cs sep = pieces ++ [last]) : cs = ended sep pieces ++ last := by
  obtain ⟨pieces', last', split', whole⟩ := @split_ended sep cs
  obtain ⟨rfl, same⟩ := List.append_inj' (split.symm.trans split') rfl
  rw [List.singleton_inj.mp same]
  exact whole

theorem ended_sublist (fewer pieces : List (List Char)) (part : fewer.Sublist pieces) :
    (ended sep fewer).length ≤ (ended sep pieces).length ∧
      ((ended sep fewer).length = (ended sep pieces).length → fewer = pieces) := by
  induction part with
  | slnil => exact ⟨Nat.le_refl _, fun _ => rfl⟩
  | @cons fewer pieces piece part ih =>
      simp only [ended, List.flatMap_cons, List.length_append, List.length_singleton] at ih ⊢
      constructor
      · omega
      · omega
  | @cons_cons fewer pieces piece part ih =>
      simp only [ended, List.flatMap_cons, List.length_append, List.length_singleton] at ih ⊢
      refine ⟨by omega, fun same => ?_⟩
      rw [ih.2 (by omega)]

end Text

namespace Path

theorem stem_filled (name : List Char) (filled : name ≠ []) : stem name ≠ [] := by
  unfold stem divide
  split
  · exact List.cons_ne_nil _ _
  · exact filled

theorem stem_undivided (name : List Char) (absent : '.' ∉ name) : stem name = name := by
  rw [stem, divide, (Text.split_last_none name).mpr absent]

/-- The extension of a name is behind its last dot, which is not the first character. -/
theorem extension_exact (name extension : List Char) :
    extension? name = some extension ↔
      '.' ∉ extension ∧ ∃ stem, stem ≠ [] ∧ name = stem ++ '.' :: extension := by
  unfold extension? divide
  constructor
  · intro found
    split at found
    · next c stem extension divided =>
        cases found
        obtain ⟨parts, free⟩ := Text.split_last_parts name '.' _ _ divided
        exact ⟨free, c :: stem, List.cons_ne_nil _ _, parts⟩
    · cases found
  · rintro ⟨free, stem, filled, rfl⟩
    obtain ⟨c, stem, rfl⟩ := List.exists_cons_of_ne_nil filled
    rw [Text.split_last_found (c :: stem) extension free]

end Path

namespace Scaffold

open Text

section Extension

theorem ended_closed (pieces : List (List Char)) :
    ended '/' pieces = [] ∨ (ended '/' pieces).getLast? = some '/' := by
  rcases List.eq_nil_or_concat pieces with rfl | ⟨before, piece, rfl⟩
  · exact .inl rfl
  · exact .inr (by simp [ended])

/-- What is taken for an extension is one unless a slash stands in it or right before its dot. -/
theorem without_extension_divided (before ending : List Char) (free : '.' ∉ ending) :
    withoutExtension (before ++ '.' :: ending) =
      if '/' ∈ ending ∨ before = [] ∨ before.getLast? = some '/' then before ++ '.' :: ending
      else before := by
  rw [withoutExtension, split_last_found before ending free]
  simp [or_assoc]

theorem without_extension_undotted (path : List Char) (absent : '.' ∉ path) :
    withoutExtension path = path := by
  rw [withoutExtension, (split_last_none path).mpr absent]

theorem without_extension_last (pieces : List (List Char)) (last : List Char) (whole : '/' ∉ last) :
    withoutExtension (ended '/' pieces ++ last) = ended '/' pieces ++ Path.stem last := by
  have closed := ended_closed pieces
  generalize ended '/' pieces = front at closed
  cases divided : splitLast last '.' with
  | none =>
      have absent := (split_last_none last).mp divided
      rw [Path.stem_undivided last absent]
      cases outer : splitLast front '.' with
      | none =>
          apply without_extension_undotted
          simp [(split_last_none front).mp outer, absent]
      | some parts =>
          obtain ⟨before, ending⟩ := parts
          obtain ⟨rfl, free⟩ := split_last_parts front '.' before ending outer
          -- the dot stands before the last piece, so a slash follows it
          have slash : '/' ∈ ending := by
            have last_ : (before ++ '.' :: ending).getLast? = some '/' := by simpa using closed
            rw [List.getLast?_append_of_ne_nil _ (List.cons_ne_nil _ _)] at last_
            have member := List.mem_of_getLast? last_
            simpa using member
          rw [List.append_assoc, List.cons_append, without_extension_divided _ _ (by simp [free, absent]),
            if_pos (.inl (List.mem_append_left _ slash))]
  | some parts =>
      obtain ⟨before, ending⟩ := parts
      obtain ⟨rfl, free⟩ := split_last_parts last '.' before ending divided
      have plain : '/' ∉ ending := fun member =>
        whole (List.mem_append_right _ (List.mem_cons_of_mem _ member))
      rw [← List.append_assoc, without_extension_divided (front ++ before) ending free, Path.stem,
        Path.divide, divided]
      cases before with
      | nil =>
          rw [List.append_nil, if_pos (.inr closed)]
          rfl
      | cons c stem =>
          have last_ : (c :: stem).getLast? ≠ some '/' := fun same =>
            whole (List.mem_append_left _ (List.mem_of_getLast? same))
          rw [if_neg (by simp [plain, last_])]

end Extension

section Opening

def isDot (piece : List Char) : Bool := piece == ['.']

def Settled (piece : List Char) : Prop := ∀ rest, piece ≠ '.' :: '/' :: rest

theorem whole_settled (piece : List Char) (whole : '/' ∉ piece) : Settled piece := by
  rintro rest rfl
  exact whole (by simp)

theorem drop_current_settled (path : List Char) (settled : Settled path) : dropCurrent path = path := by
  unfold dropCurrent
  split
  · next rest => exact absurd rfl (settled rest)
  · rfl

theorem drop_current_ended (pieces : List (List Char)) (last : List Char)
    (settled : ∀ piece ∈ pieces, Settled piece) (settled' : Settled last) :
    dropCurrent (ended '/' pieces ++ last) = ended '/' (pieces.dropWhile isDot) ++ last := by
  induction pieces with
  | nil => exact drop_current_settled last settled'
  | cons piece rest ih =>
      have head := settled piece List.mem_cons_self
      by_cases dot : piece = ['.']
      · subst dot
        exact ih fun piece member => settled piece (List.mem_cons_of_mem _ member)
      · rw [List.dropWhile_cons_of_neg (by simpa [isDot] using dot)]
        apply drop_current_settled
        intro others same
        -- with two letters of its own the piece would have to be one that is dropped
        match piece with
        | [] => simp [ended] at same
        | [c] => simp_all [ended]
        | c :: d :: more => simp_all [ended, Settled]

theorem drop_dots_name (pieces rest : List (List Char)) (name : List Char) (other : name ≠ ['.']) :
    (pieces ++ name :: rest).dropWhile isDot = pieces.dropWhile isDot ++ name :: rest := by
  induction pieces with
  | nil => exact List.dropWhile_cons_of_neg (by simpa [isDot] using other)
  | cons piece more ih =>
      by_cases dot : isDot piece = true
      · rw [List.cons_append, List.dropWhile_cons_of_pos dot, List.dropWhile_cons_of_pos dot, ih]
      · rw [List.cons_append, List.dropWhile_cons_of_neg dot, List.dropWhile_cons_of_neg dot,
          List.cons_append]

theorem drop_dots_names (names : List (List Char)) (noDot : ∀ name ∈ names, name ≠ ['.']) :
    names.dropWhile isDot = names := by
  cases names with
  | nil => rfl
  | cons name rest => exact drop_dots_name [] rest name (noDot name List.mem_cons_self)

theorem leading_dots (pieces : List (List Char)) :
    ∃ dots, pieces = List.replicate dots ['.'] ++ pieces.dropWhile isDot := by
  refine ⟨(pieces.takeWhile isDot).length, ?_⟩
  have all : pieces.takeWhile isDot = List.replicate (pieces.takeWhile isDot).length ['.'] := by
    rw [List.eq_replicate_iff]
    refine ⟨rfl, fun piece member => ?_⟩
    have dot : isDot piece = true := List.mem_takeWhile_imp member
    exact eq_of_beq dot
  rw [← all, List.takeWhile_append_dropWhile]

end Opening

section Backslashes

theorem unbackslashed_plain (cs : List Char) (plain : '\\' ∉ cs) : unbackslashed cs = cs := by
  rw [unbackslashed, List.map_congr_left (g := id), List.map_id]
  intro c member
  have other : c ≠ '\\' := fun same => plain (same ▸ member)
  simp [other]

theorem unbackslashed_free (cs : List Char) : '\\' ∉ unbackslashed cs := by
  intro member
  obtain ⟨c, -, same⟩ := List.mem_map.mp member
  by_cases other : c = '\\'
  · simp [other] at same
  · simp [other] at same

theorem unbackslashed_append (first rest : List Char) :
    unbackslashed (first ++ rest) = unbackslashed first ++ unbackslashed rest := List.map_append

theorem unbackslashed_length (cs : List Char) : (unbackslashed cs).length = cs.length := List.length_map _

theorem unbackslashed_ending (ending : List Char) (inside : '\\' ∈ ending) (free : '.' ∉ ending) :
    '/' ∈ unbackslashed ending ∧ '.' ∉ unbackslashed ending := by
  refine ⟨List.mem_map.mpr ⟨'\\', inside, rfl⟩, fun member => ?_⟩
  obtain ⟨c, there, same⟩ := List.mem_map.mp member
  by_cases other : c = '\\'
  · simp [other] at same
  · simp only [beq_iff_eq, other, if_false] at same
    exact free (same ▸ there)

theorem unbackslashed_ended (pieces : List (List Char)) :
    unbackslashed (ended '/' pieces) = ended '/' (pieces.map unbackslashed) := by
  induction pieces with
  | nil => rfl
  | cons piece rest ih =>
      rw [ended] at ih
      rw [ended, List.flatMap_cons, unbackslashed_append, unbackslashed_append, ih]
      rfl

theorem unbackslashed_pieces (pieces : List (List Char)) (plain : ∀ piece ∈ pieces, '\\' ∉ piece) :
    pieces.map unbackslashed = pieces := by
  rw [List.map_congr_left (g := id), List.map_id]
  exact fun piece member => unbackslashed_plain piece (plain piece member)

theorem name_settled (name : List Char) (normal : Path.Normal name) (plain : '\\' ∉ Path.stem name) :
    unbackslashed name ≠ ['.'] ∧ Settled (unbackslashed name) := by
  rcases Path.stem_cases name with same | ⟨ending, parts, -⟩
  · rw [same] at plain
    rw [unbackslashed_plain name plain]
    exact ⟨normal.noDot, whole_settled name normal.whole⟩
  · obtain ⟨c, stem, filled⟩ := List.exists_cons_of_ne_nil (Path.stem_filled name normal.filled)
    have whole : '/' ∉ Path.stem name := fun member => normal.whole ((Path.stem_part name).subset member)
    rw [parts, unbackslashed_append, unbackslashed_plain _ plain, filled]
    rw [filled] at whole
    constructor
    · simp [unbackslashed]
    · rintro rest same
      -- the second letter is of the stem or the dot behind it
      have second := (List.cons.inj same).2
      cases stem with
      | nil => exact absurd (List.cons.inj second).1 (by decide)
      | cons d stem =>
          rw [(List.cons.inj second).1] at whole
          exact whole (List.mem_cons_of_mem _ List.mem_cons_self)

end Backslashes

section Names

theorem drop_current_suffix (path : List Char) : dropCurrent path <:+ path := by
  induction path using dropCurrent.induct with
  | case1 rest ih =>
      rw [dropCurrent]
      exact ih.trans ⟨['.', '/'], rfl⟩
  | case2 path other => exact ⟨[], drop_current_settled path other⟩

theorem without_extension_part (path : List Char) : withoutExtension path <+: path := by
  unfold withoutExtension
  split
  · next before ending divided =>
      split
      · exact List.prefix_refl path
      · exact ⟨_, (split_last_parts path '.' before ending divided).1.symm⟩
  · exact List.prefix_refl path

/-- No backslash is left in the name under which a file is imported. -/
theorem module_name_plain (path : List Char) : '\\' ∉ moduleName path := by
  intro member
  obtain ⟨c, there, same⟩ := List.mem_map.mp member
  have backslash : c = '\\' := by
    by_cases slash : c = '/'
    · simp [slash] at same
    · simpa [slash] using same
  rw [backslash] at there
  exact unbackslashed_free path
    ((without_extension_part _).subset ((drop_current_suffix _).subset there))

theorem dots_whole (cs : List Char) (whole : '/' ∉ cs) :
    cs.map (fun c => if c == '/' then '.' else c) = cs := by
  rw [List.map_congr_left (g := id), List.map_id]
  intro c member
  have other : c ≠ '/' := fun same => whole (same ▸ member)
  simp [other]

theorem dots_ended (pieces : List (List Char)) (whole : ∀ piece ∈ pieces, '/' ∉ piece) :
    (ended '/' pieces).map (fun c => if c == '/' then '.' else c) = ended '.' pieces := by
  induction pieces with
  | nil => rfl
  | cons piece rest ih =>
      have others := ih fun piece member => whole piece (List.mem_cons_of_mem _ member)
      rw [ended, List.flatMap_cons, List.map_append, List.map_append, dots_whole piece
        (whole piece List.mem_cons_self)]
      rw [ended] at others
      rw [others]
      rfl

variable {path : List Char} {pieces : List (List Char)} {last : List Char}

/-- The name of a path without a backslash that ends in a name. -/
theorem module_name_spelled (spelled : path = ended '/' pieces ++ last) (plain : '\\' ∉ path)
    (whole : ∀ piece ∈ pieces, '/' ∉ piece) (whole' : '/' ∉ last) :
    moduleName path = ['.'].intercalate (pieces.dropWhile isDot ++ [Path.stem last]) := by
  have stemWhole : '/' ∉ Path.stem last := fun member => whole' ((Path.stem_part last).subset member)
  have restWhole : ∀ piece ∈ pieces.dropWhile isDot, '/' ∉ piece := fun piece member =>
    whole piece ((List.dropWhile_suffix isDot).subset member)
  rw [moduleName, unbackslashed_plain path plain, spelled, without_extension_last pieces last whole',
    drop_current_ended pieces _ (fun piece member => whole_settled piece (whole piece member))
      (whole_settled _ stemWhole),
    List.map_append, dots_ended _ restWhole, dots_whole _ stemWhole, intercalate_ended]

/-- Of a path that loses no extension only the dots at its beginning are missing from the name. -/
theorem module_name_kept (spelled : unbackslashed path = ended '/' pieces ++ last)
    (kept : withoutExtension (unbackslashed path) = unbackslashed path)
    (settled : ∀ piece ∈ pieces, Settled piece) (settled' : Settled last) :
    (moduleName path).length = (ended '/' (pieces.dropWhile isDot)).length + last.length := by
  rw [moduleName, kept, spelled, drop_current_ended pieces last settled settled', List.length_map,
    List.length_append]

end Names

end Scaffold

namespace ModulePath

open Scaffold Text

section Parts

/-- The pieces of a path around the file name of its module. What is not among the parents says nothing. -/
structure Parts (path : List Char) (m : ModulePath) (before after : List (List Char)) : Prop where
  split : splitAll path '/' = before ++ m.fileName :: after
  parents : (before.filter fun piece => piece ≠ [] ∧ piece ≠ ['.']) = m.parents
  others : ∀ piece ∈ after, piece = [] ∨ piece = ['.']
  normal : Path.Normal m.fileName

structure Plain (m : ModulePath) (before : List (List Char)) : Prop where
  before : ∀ piece ∈ before, '\\' ∉ piece
  stem : '\\' ∉ Path.stem m.fileName

variable {path : List Char} {m : ModulePath} {before after : List (List Char)}

theorem parse_parts (parsed : parse path = .ok m) : ∃ before after, Parts path m before after := by
  obtain ⟨-, level, names⟩ := (parse_exact path m).mp parsed
  obtain ⟨front, rest, split, parents, others⟩ := List.filter_eq_append_iff.mp names.symm
  obtain ⟨between, after, split', dropped, -, none⟩ := List.filter_eq_cons_iff.mp others
  refine ⟨front ++ between, after, ?_, ?_, ?_, ?_⟩
  · rw [split, split', List.append_assoc]
  · rw [List.filter_append, parents, List.filter_eq_nil_iff.mpr dropped, List.append_nil]
  · intro piece member
    have left := List.filter_eq_nil_iff.mp none piece member
    by_cases empty : piece = []
    · exact .inl empty
    · exact .inr (by simpa [empty] using left)
  · apply leading_normal path level
    rw [← names]
    exact List.mem_append_right _ (List.mem_singleton_self _)

theorem Parts.whole (parts : Parts path m before after) :
    ∀ piece ∈ before ++ m.fileName :: after, '/' ∉ piece := fun piece member =>
  split_pieces_whole path '/' piece (parts.split ▸ member)

theorem Parts.file_name (parts : Parts path m before after) : Path.fileName? path = some m.fileName := by
  have none : after.filterMap Path.ofPiece = [] := by
    rw [List.filterMap_eq_nil_iff]
    intro piece member
    rcases parts.others piece member with rfl | rfl <;> rfl
  have named : Path.ofPiece m.fileName = some (.name m.fileName) := by
    unfold Path.ofPiece
    split
    · next same => exact absurd same parts.normal.filled
    · next same => exact absurd same parts.normal.noDot
    · next same => exact absurd same parts.normal.noDots
    · rfl
  rw [Path.fileName?, Path.components, parts.split, List.filterMap_append,
    List.filterMap_cons_some named, none, ← List.append_assoc, List.getLast?_concat]

/-- What is dropped from the front of a path are dots, so all parents of the module are behind it. -/
theorem Parts.parents_behind (parts : Parts path m before after) :
    m.parents.Sublist (before.dropWhile isDot) := by
  obtain ⟨dots, split⟩ := leading_dots before
  have left := parts.parents
  rw [split, List.filter_append, List.filter_eq_nil_iff.mpr, List.nil_append] at left
  · rw [← left]
    exact List.filter_sublist
  · intro piece member
    rw [List.eq_of_mem_replicate member]
    decide

theorem Parts.plain (parts : Parts path m before after) (clear : '\\' ∉ m.dotted) : Plain m before := by
  rw [dotted, intercalate_ended] at clear
  refine ⟨fun piece there member => ?_, fun member => clear (List.mem_append_right _ member)⟩
  by_cases kept : piece ≠ [] ∧ piece ≠ ['.']
  · have parent : piece ∈ m.parents := parts.parents ▸ List.mem_filter.mpr ⟨there, decide_eq_true kept⟩
    exact clear (List.mem_append_left _
      (List.mem_flatMap.mpr ⟨piece, parent, List.mem_append_left _ member⟩))
  · by_cases empty : piece = []
    · simp [empty] at member
    · have dot : piece = ['.'] := by simpa [empty] using kept
      simp [dot] at member

end Parts

section Agreement

variable {path : List Char} {m : ModulePath} {before : List (List Char)}

/-- The spelling from which both names come out the same: dots at most before the names, one slash between
each two, and no backslash. -/
def Spelled (path : List Char) (m : ModulePath) : Prop :=
  '\\' ∉ path ∧ ∃ dots, splitAll path '/' = List.replicate dots ['.'] ++ m.relative

theorem spelled_agrees (parsed : parse path = .ok m) (spelled : Spelled path m) :
    moduleName path = m.dotted := by
  obtain ⟨plain, dots, split⟩ := spelled
  obtain ⟨-, level, names⟩ := (parse_exact path m).mp parsed
  have normal : ∀ name ∈ m.relative, Path.Normal name := names ▸ leading_normal path level
  rw [relative, ← List.append_assoc] at split
  have whole : ∀ piece ∈ List.replicate dots ['.'] ++ m.parents ++ [m.fileName], '/' ∉ piece :=
    fun piece member => split_pieces_whole path '/' piece (split ▸ member)
  have dropped : (List.replicate dots ['.'] ++ m.parents).dropWhile isDot = m.parents := by
    rw [List.dropWhile_append_of_pos fun piece member => by rw [List.eq_of_mem_replicate member]; rfl]
    exact drop_dots_names m.parents fun name member =>
      (normal name (List.mem_append_left _ member)).noDot
  rw [module_name_spelled (split_whole_text path _ _ split) plain
    (fun piece member => whole piece (List.mem_append_left _ member)) (whole m.fileName (by simp)), dropped]
  rfl

/-- A slash or a dot behind the file name keeps the extension in the name. -/
theorem trailing_longer (after : List (List Char)) (last : List Char)
    (parts : Parts path m before (after ++ [last])) (plain : Plain m before) :
    (ended '/' (before.dropWhile isDot)).length + m.fileName.length < (moduleName path).length := by
  obtain ⟨noDot, settled⟩ := name_settled m.fileName parts.normal plain.stem
  have split : splitAll path '/' = (before ++ m.fileName :: after) ++ [last] := by
    rw [parts.split, List.append_assoc, List.cons_append]
  have pieces : (before ++ m.fileName :: after).map unbackslashed =
      before ++ unbackslashed m.fileName :: after := by
    rw [List.map_append, List.map_cons, unbackslashed_pieces before plain.before, unbackslashed_pieces after]
    intro piece member
    rcases parts.others piece (List.mem_append_left _ member) with rfl | rfl <;> decide
  obtain ⟨spelled, whole'⟩ : unbackslashed last = last ∧ '/' ∉ last := by
    rcases parts.others last (by simp) with rfl | rfl <;> decide
  have text : unbackslashed path = ended '/' (before ++ unbackslashed m.fileName :: after) ++ last := by
    rw [split_whole_text path _ _ split, unbackslashed_append, unbackslashed_ended, pieces, spelled]
  have kept : withoutExtension (unbackslashed path) = unbackslashed path := by
    rw [text, without_extension_last _ last whole']
    rcases parts.others last (by simp) with rfl | rfl <;> rfl
  have each : ∀ piece ∈ before ++ unbackslashed m.fileName :: after, Settled piece := by
    intro piece member
    rcases List.mem_append.mp member with front | back
    · exact whole_settled piece (parts.whole piece (by simp [front]))
    rcases List.mem_cons.mp back with rfl | later
    · exact settled
    · exact whole_settled piece (parts.whole piece (by simp [later]))
  rw [module_name_kept text kept each (whole_settled last whole'), drop_dots_name before after _ noDot,
    ended_append, ended_cons]
  simp only [List.length_append, List.length_cons, unbackslashed_length]
  omega

theorem hidden_longer (parts : Parts path m before []) (plain : Plain m before)
    (hidden : '\\' ∈ m.fileName) :
    (ended '/' (before.dropWhile isDot)).length + (Path.stem m.fileName).length <
      (moduleName path).length := by
  have text : unbackslashed path = ended '/' before ++ unbackslashed m.fileName := by
    rw [split_whole_text path _ _ parts.split, unbackslashed_append, unbackslashed_ended,
      unbackslashed_pieces before plain.before]
  have settled : ∀ piece ∈ before, Settled piece := fun piece member =>
    whole_settled piece (parts.whole piece (List.mem_append_left _ member))
  rcases Path.stem_cases m.fileName with same | ⟨ending, divided, free⟩
  · exact absurd hidden (same ▸ plain.stem)
  · have inside : '\\' ∈ ending := by
      rw [divided] at hidden
      rcases List.mem_append.mp hidden with early | late
      · exact absurd early plain.stem
      · simpa using late
    obtain ⟨slash, free'⟩ := unbackslashed_ending ending inside free
    have dotted : unbackslashed m.fileName =
        unbackslashed (Path.stem m.fileName) ++ '.' :: unbackslashed ending := by
      conv => lhs; rw [divided, unbackslashed_append]
      rfl
    have kept : withoutExtension (unbackslashed path) = unbackslashed path := by
      rw [text, dotted, ← List.append_assoc, without_extension_divided _ _ free', if_pos (.inl slash)]
    have longer := congrArg List.length divided
    rw [List.length_append, List.length_cons] at longer
    rw [module_name_kept text kept settled (name_settled m.fileName parts.normal plain.stem).2,
      unbackslashed_length]
    omega

theorem agrees_spelled (parsed : parse path = .ok m) (same : moduleName path = m.dotted) :
    Spelled path m := by
  obtain ⟨before, after, parts⟩ := parse_parts parsed
  have plain := parts.plain (same ▸ module_name_plain path)
  -- both names are equally long, so the text has nothing that the names have not
  have length := congrArg List.length same
  rw [dotted, intercalate_ended, List.length_append, ended_length '/', stem] at length
  obtain ⟨shorter, all⟩ := @ended_sublist '/' _ _ parts.parents_behind
  have cut : (Path.stem m.fileName).length ≤ m.fileName.length := (Path.stem_part m.fileName).length_le
  rcases List.eq_nil_or_concat after with rfl | ⟨rest, last, rfl⟩
  · by_cases hidden : '\\' ∈ m.fileName
    · have longer := hidden_longer parts plain hidden
      omega
    · have text := split_whole_text path before m.fileName parts.split
      have free : '\\' ∉ path := by
        rw [text, ← unbackslashed_plain m.fileName hidden, ← unbackslashed_pieces before plain.before,
          ← unbackslashed_ended, ← unbackslashed_append]
        exact unbackslashed_free _
      have name := congrArg List.length (module_name_spelled text free
        (fun piece member => parts.whole piece (List.mem_append_left _ member))
        (parts.whole m.fileName (by simp)))
      rw [intercalate_ended, List.length_append, ended_length '/'] at name
      have behind : m.parents = before.dropWhile isDot := all (by omega)
      obtain ⟨dots, front⟩ := leading_dots before
      refine ⟨free, dots, ?_⟩
      rw [parts.split, relative, behind, ← List.append_assoc, ← front]
  · rw [List.concat_eq_append] at parts
    have longer := trailing_longer rest last parts plain
    omega

theorem test_files_agree (parsed : parse path = .ok m) :
    Scaffold.testFile path = Path.ofNames m.testFile := by
  obtain ⟨before, after, parts⟩ := parse_parts parsed
  have joined : "tests/test_".toList = "tests".toList ++ '/' :: "test_".toList := by decide
  unfold Scaffold.testFile
  rw [parts.file_name, joined, testFile]
  simp only [Path.ofNames, stem, List.append_assoc, List.cons_append]

/-- The tests of a module have one file. Its two names are the same exactly when its path is spelled with
nothing but its names and dots before them. -/
theorem module_name_exact (path : List Char) (m : ModulePath) (parsed : parse path = .ok m) :
    Scaffold.testFile path = Path.ofNames m.testFile ∧
      (Scaffold.moduleName path = m.dotted ↔ Spelled path m) :=
  ⟨test_files_agree parsed, agrees_spelled parsed, spelled_agrees parsed⟩

/-- With one slash too many the tests import a module that is never written. -/
theorem module_name_exact_doubled :
    let path := "a//b.py".toList
    ∃ m, ModulePath.parse path = .ok m ∧ m.dotted = "a.b".toList ∧
      Scaffold.moduleName path = "a..b".toList ∧ ¬ Spelled path m ∧
      Scaffold.testFile path = "tests/test_b.py".toList := by
  intro path
  have parsed : ModulePath.parse path = .ok ⟨["a".toList], "b.py".toList⟩ := by decide
  have name : Scaffold.moduleName path = "a..b".toList := by decide
  obtain ⟨file, agrees⟩ := module_name_exact path _ parsed
  refine ⟨_, parsed, by decide, name, fun spelled => ?_, file.trans (by decide)⟩
  have same := agrees.mpr spelled
  rw [name] at same
  exact absurd same (by decide)

end Agreement

end ModulePath

end CodeReview
