import CodeReview.Index.Chunk
import CodeReview.Proofs.Text.Trimming
import Mathlib.Data.List.Infix

/-!
Chunks are a lossless greedy packing. The paragraphs of a text are told apart from any other way to divide
it, and so is the way in which they are packed: there is exactly one division into groups that stay within
the limit and take in as much as they can. A group that is open satisfies one invariant, which says how its
size and its members belong together; whatever is known of the finished groups follows from it. A chunk that
is cut again stays as it is.
-/

namespace CodeReview.Chunk

open Text

def mark : List Char := ['\n', '\n']

/-- A text divided at each mark, from left to right: no paragraph has a mark in it, and as a mark is taken
where it begins first, no paragraph but the last ends in a line feed. -/
structure Divided (text : List Char) (ps : List (List Char)) : Prop where
  some_ : ps ≠ []
  whole : joined ps = text
  apart : ∀ p ∈ ps, ¬ mark <:+: p
  early : ∀ p ∈ ps.dropLast, p.getLast? ≠ some '\n'

/-- Paragraphs packed into groups: a group with more than one member stays within the limit, and the first
paragraph of the next group would have been too much for it. -/
structure Packed (limit : Nat) (text : List Char) (division : List (List (List Char))) : Prop where
  paragraphs : Divided text division.flatten
  filled : ∀ g ∈ division, g ≠ []
  within : ∀ g ∈ division, 2 ≤ g.length → (joined g).length ≤ limit
  full : division.IsChain fun g next => ∀ p ∈ next.head?, limit < (joined (g ++ [p])).length

def solids (cs : List Char) : List Char := cs.filter fun c => !isBlank c

section Joined

theorem joined_cons (p : List Char) (rest : List (List Char)) (more : rest ≠ []) :
    joined (p :: rest) = p ++ (mark ++ joined rest) := by
  obtain ⟨q, rest, rfl⟩ := List.exists_cons_of_ne_nil more
  rfl

theorem joined_concat (g : List (List Char)) (p : List Char) (some_ : g ≠ []) :
    joined (g ++ [p]) = joined g ++ (mark ++ p) := by
  induction g with
  | nil => exact absurd rfl some_
  | cons q rest ih =>
      cases rest with
      | nil => rfl
      | cons next rest =>
          rw [List.cons_append, joined_cons _ _ (by simp), joined_cons _ _ (by simp), ih (by simp)]
          simp

theorem joined_concat_length (g : List (List Char)) (p : List Char) (some_ : g ≠ []) :
    (joined (g ++ [p])).length = (joined g).length + 2 + p.length := by
  rw [joined_concat g p some_]
  simp only [List.length_append, mark, List.length_cons, List.length_nil]
  omega

theorem joined_append (g more : List (List Char)) : joined g <+: joined (g ++ more) := by
  induction more generalizing g with
  | nil => rw [List.append_nil]
  | cons p more ih =>
      have others := ih (g ++ [p])
      rw [List.append_assoc, List.singleton_append] at others
      by_cases none : g = []
      · subst none
        exact List.nil_prefix
      · refine List.IsPrefix.trans ?_ others
        rw [joined_concat g p none]
        exact List.prefix_append _ _

end Joined

section Paragraphs

theorem paragraphs_from_some (piece text : List Char) : paragraphsFrom piece text ≠ [] := by
  fun_induction paragraphsFrom piece text with
  | case1 => simp
  | case2 piece c rest other ih => exact ih
  | case3 => simp

theorem paragraphs_from_whole (piece text : List Char) :
    joined (paragraphsFrom piece text) = piece.reverse ++ text := by
  fun_induction paragraphsFrom piece text with
  | case1 piece rest ih =>
      rw [joined_cons _ _ (paragraphs_from_some [] rest), ih]
      rfl
  | case2 piece c rest other ih => simpa using ih
  | case3 piece => simp [joined]

/-- What has been read of a paragraph has no mark in it, nor does one begin at its end. -/
def Open (piece text : List Char) : Prop :=
  ¬ mark <:+: piece ∧ (piece.head? = some '\n' → text.head? ≠ some '\n')

theorem open_nil (text : List Char) : Open [] text := by
  constructor
  · simp [mark]
  · intro none
    cases none

theorem open_cons (piece : List Char) (c : Char) (rest : List Char) (opened : Open piece (c :: rest))
    (other : ∀ more, c = '\n' → rest = '\n' :: more → False) : Open (c :: piece) rest := by
  obtain ⟨free, ahead⟩ := opened
  constructor
  · rw [mark, List.infix_cons_iff]
    rintro (start | inside)
    · cases piece with
      | nil => simp at start
      | cons d piece =>
          simp only [List.cons_prefix_cons, List.nil_prefix, and_true] at start
          obtain ⟨rfl, rfl⟩ := start
          exact ahead rfl rfl
    · exact free inside
  · intro first next
    obtain ⟨more, rfl⟩ : ∃ more, rest = '\n' :: more := by
      cases rest with
      | nil => cases next
      | cons d more => exact ⟨more, by simpa using next⟩
    exact other more (by simpa using first) rfl

theorem open_free (piece text : List Char) (opened : Open piece text) : ¬ mark <:+: piece.reverse := by
  rw [← List.reverse_infix, List.reverse_reverse]
  exact opened.1

theorem paragraphs_from_apart (piece text : List Char) (opened : Open piece text) :
    ∀ p ∈ paragraphsFrom piece text, ¬ mark <:+: p := by
  fun_induction paragraphsFrom piece text with
  | case1 piece rest ih =>
      intro p member
      rcases List.mem_cons.mp member with rfl | later
      · exact open_free piece _ opened
      · exact ih (open_nil rest) p later
  | case2 piece c rest other ih => exact ih (open_cons piece c rest opened other)
  | case3 piece =>
      intro p member
      rw [List.mem_singleton.mp member]
      exact open_free piece _ opened

theorem paragraphs_from_early (piece text : List Char) (opened : Open piece text) :
    ∀ p ∈ (paragraphsFrom piece text).dropLast, p.getLast? ≠ some '\n' := by
  fun_induction paragraphsFrom piece text with
  | case1 piece rest ih =>
      intro p member
      rw [List.dropLast_cons_of_ne_nil (paragraphs_from_some [] rest)] at member
      rcases List.mem_cons.mp member with rfl | later
      · rw [List.getLast?_reverse]
        intro last
        exact opened.2 last rfl
      · exact ih (open_nil rest) p later
  | case2 piece c rest other ih => exact ih (open_cons piece c rest opened other)
  | case3 piece => simp

theorem paragraphs_divided (text : List Char) : Divided text (paragraphs text) where
  some_ := paragraphs_from_some [] text
  whole := paragraphs_from_whole [] text
  apart := paragraphs_from_apart [] text (open_nil text)
  early := paragraphs_from_early [] text (open_nil text)

theorem no_mark_ahead (c : Char) (p rest : List Char) (free : ¬ mark <:+: c :: p)
    (last : (c :: p).getLast? ≠ some '\n' ∨ rest = []) :
    ∀ more, c = '\n' → p ++ rest = '\n' :: more → False := by
  rintro more rfl same
  cases p with
  | nil =>
      rcases last with feed | rfl
      · exact feed rfl
      · cases same
  | cons d p =>
      obtain ⟨rfl, -⟩ := List.cons.inj same
      exact free ⟨[], p, rfl⟩

theorem paragraphs_from_step (piece : List Char) (c : Char) (rest : List Char)
    (other : ∀ more, c = '\n' → rest = '\n' :: more → False) :
    paragraphsFrom piece (c :: rest) = paragraphsFrom (c :: piece) rest := by
  rw [paragraphsFrom]
  exact other

theorem free_tail (c : Char) (p : List Char) (free : ¬ mark <:+: c :: p) : ¬ mark <:+: p :=
  fun inside => free (inside.trans (List.suffix_cons c p).isInfix)

theorem paragraphs_from_last (piece p : List Char) (free : ¬ mark <:+: p) :
    paragraphsFrom piece p = [piece.reverse ++ p] := by
  induction p generalizing piece with
  | nil => simp [paragraphsFrom]
  | cons c p ih =>
      have ahead := no_mark_ahead c p [] free (.inr rfl)
      rw [List.append_nil] at ahead
      rw [paragraphs_from_step piece c p ahead, ih (c :: piece) (free_tail c p free)]
      simp

theorem paragraphs_from_next (piece p rest : List Char) (free : ¬ mark <:+: p)
    (last : p.getLast? ≠ some '\n') :
    paragraphsFrom piece (p ++ (mark ++ rest)) = (piece.reverse ++ p) :: paragraphs rest := by
  induction p generalizing piece with
  | nil => simp [mark, paragraphsFrom, paragraphs]
  | cons c p ih =>
      have ahead := no_mark_ahead c p (mark ++ rest) free (.inl last)
      rw [List.cons_append, paragraphs_from_step piece c _ ahead]
      cases p with
      | nil => simp [mark, paragraphsFrom, paragraphs]
      | cons d p =>
          rw [ih (c :: piece) (free_tail c _ free) (by simpa using last)]
          simp

/-- A text is divided in one way only. -/
theorem divided_unique (text : List Char) (ps : List (List Char)) (divided : Divided text ps) :
    ps = paragraphs text := by
  obtain ⟨some_, rfl, apart, early⟩ := divided
  induction ps with
  | nil => exact absurd rfl some_
  | cons p rest ih =>
      have free := apart p List.mem_cons_self
      cases rest with
      | nil => simpa [joined, paragraphs] using (paragraphs_from_last [] p free).symm
      | cons q rest =>
          have more : q :: rest ≠ [] := List.cons_ne_nil q rest
          rw [List.dropLast_cons_of_ne_nil more] at early
          have others := ih more (fun r member => apart r (List.mem_cons_of_mem p member))
            fun r member => early r (List.mem_cons_of_mem p member)
          rw [joined_cons p _ more, paragraphs,
            paragraphs_from_next [] p _ free (early p List.mem_cons_self), ← others]
          rfl

end Paragraphs

section Groups

variable {limit size : Nat} {members : List (List Char)}

/-- A group that is being filled: its size counts its text and the mark after it. -/
structure Filling (limit : Nat) (members : List (List Char)) (size : Nat) : Prop where
  some_ : members ≠ []
  counted : size = (joined members.reverse).length + 2
  within : 2 ≤ members.length → (joined members.reverse).length ≤ limit

theorem filling_first (limit : Nat) (p : List Char) : Filling limit [p] (p.length + 2) where
  some_ := List.cons_ne_nil p []
  counted := rfl
  within := by
    intro two
    simp at two

theorem filling_length (filling : Filling limit members size) (p : List Char) :
    (joined (members.reverse ++ [p])).length = size + p.length := by
  rw [joined_concat_length _ p (by simpa using filling.some_), filling.counted]

theorem filling_next (filling : Filling limit members size) (p : List Char)
    (fits : size + p.length ≤ limit) : Filling limit (p :: members) (size + p.length + 2) where
  some_ := List.cons_ne_nil p members
  counted := by rw [List.reverse_cons, filling_length filling p]
  within := by
    intro _
    rw [List.reverse_cons, filling_length filling p]
    exact fits

theorem groups_from_flatten (limit : Nat) (members : List (List Char)) (size : Nat)
    (rest : List (List Char)) :
    (groupsFrom limit members size rest).flatten = members.reverse ++ rest := by
  fun_induction groupsFrom limit members size rest with
  | case1 => simp
  | case2 members size p rest beyond ih => simpa using ih
  | case3 members size p rest fits ih => simpa using ih

theorem groups_from_first (limit : Nat) (members : List (List Char)) (size : Nat)
    (rest : List (List Char)) :
    ∃ more later, groupsFrom limit members size rest = (members.reverse ++ more) :: later := by
  fun_induction groupsFrom limit members size rest with
  | case1 members size => exact ⟨[], [], by simp⟩
  | case2 members size p rest beyond ih => exact ⟨[], _, by rw [List.append_nil]⟩
  | case3 members size p rest fits ih =>
      obtain ⟨more, later, same⟩ := ih
      exact ⟨p :: more, later, by simpa using same⟩

theorem groups_from_within (filling : Filling limit members size) (rest : List (List Char)) :
    ∀ g ∈ groupsFrom limit members size rest,
      g ≠ [] ∧ (2 ≤ g.length → (joined g).length ≤ limit) := by
  have finished {members size} (filling : Filling limit members size) : members.reverse ≠ [] ∧
      (2 ≤ members.reverse.length → (joined members.reverse).length ≤ limit) :=
    ⟨by simpa using filling.some_, by simpa using filling.within⟩
  fun_induction groupsFrom limit members size rest with
  | case1 members size => simpa using finished filling
  | case2 members size p rest beyond ih =>
      intro g member
      rcases List.mem_cons.mp member with rfl | later
      · exact finished filling
      · exact ih (filling_first limit p) g later
  | case3 members size p rest fits ih => exact ih (filling_next filling p (Nat.le_of_not_lt fits))

theorem groups_from_full (filling : Filling limit members size) (rest : List (List Char)) :
    (groupsFrom limit members size rest).IsChain
      fun g next => ∀ p ∈ next.head?, limit < (joined (g ++ [p])).length := by
  fun_induction groupsFrom limit members size rest with
  | case1 members size => exact .singleton _
  | case2 members size p rest beyond ih =>
      have others := ih (filling_first limit p)
      obtain ⟨more, later, same⟩ := groups_from_first limit [p] (p.length + 2) rest
      rw [same] at others ⊢
      refine .cons_cons ?_ others
      rintro _ ⟨⟩
      rw [filling_length filling p]
      exact beyond
  | case3 members size p rest fits ih => exact ih (filling_next filling p (Nat.le_of_not_lt fits))

theorem groups_flatten (limit : Nat) (ps : List (List Char)) : (groups limit ps).flatten = ps := by
  cases ps with
  | nil => rfl
  | cons p rest => exact groups_from_flatten limit [p] _ rest

theorem groups_packed (limit : Nat) (text : List Char) :
    Packed limit text (groups limit (paragraphs text)) := by
  have divided := paragraphs_divided text
  obtain ⟨p, rest, same⟩ := List.exists_cons_of_ne_nil divided.some_
  have each := groups_from_within (filling_first limit p) rest
  have flat := groups_flatten limit (paragraphs text)
  constructor
  · rw [flat]
    exact divided
  · rw [same]
    exact fun g member => (each g member).1
  · rw [same]
    exact fun g member => (each g member).2
  · rw [same]
    exact groups_from_full (filling_first limit p) rest

/-- A group takes in whatever stays within the limit. -/
theorem groups_from_fill (filling : Filling limit members size) (more rest : List (List Char))
    (within : more ≠ [] → (joined (members.reverse ++ more)).length ≤ limit) :
    ∃ size', Filling limit (more.reverse ++ members) size' ∧
      groupsFrom limit members size (more ++ rest) =
        groupsFrom limit (more.reverse ++ members) size' rest := by
  induction more generalizing members size with
  | nil => exact ⟨size, filling, rfl⟩
  | cons p more ih =>
      have long := within (List.cons_ne_nil p more)
      rw [← List.singleton_append, ← List.append_assoc] at long
      have fits : size + p.length ≤ limit := by
        rw [← filling_length filling p]
        exact (joined_append _ more).length_le.trans long
      obtain ⟨size', filled, same⟩ := ih (filling_next filling p fits) (by simpa using fun _ => long)
      refine ⟨size', by simpa using filled, ?_⟩
      rw [List.cons_append, groupsFrom, if_neg (Nat.not_lt_of_le fits), same]
      simp

theorem groups_found (division : List (List (List Char))) (filled : ∀ g ∈ division, g ≠ [])
    (within : ∀ g ∈ division, 2 ≤ g.length → (joined g).length ≤ limit)
    (full : division.IsChain fun g next => ∀ p ∈ next.head?, limit < (joined (g ++ [p])).length) :
    groups limit division.flatten = division := by
  induction division with
  | nil => rfl
  | cons g rest ih =>
      obtain ⟨p, more, rfl⟩ := List.exists_cons_of_ne_nil (filled g List.mem_cons_self)
      obtain ⟨size, filling, same⟩ := groups_from_fill (filling_first limit p) more rest.flatten (by
        intro some_
        obtain ⟨q, more, rfl⟩ := List.exists_cons_of_ne_nil some_
        exact within _ List.mem_cons_self (by simp))
      have whole : (more.reverse ++ [p]).reverse = p :: more := by simp
      rw [List.flatten_cons, List.cons_append, groups, same]
      cases rest with
      | nil => rw [List.flatten_nil, groupsFrom, whole]
      | cons next rest =>
          obtain ⟨ahead, others⟩ := List.isChain_cons_cons.mp full
          have found := ih (fun h member => filled h (List.mem_cons_of_mem _ member))
            (fun h member => within h (List.mem_cons_of_mem _ member)) others
          obtain ⟨q, tail, rfl⟩ := List.exists_cons_of_ne_nil (filled next (by simp))
          have beyond := ahead q rfl
          rw [← whole, filling_length filling q] at beyond
          rw [List.flatten_cons, List.cons_append, groupsFrom, if_pos beyond, whole, ← found]
          rfl

theorem packed_unique (limit : Nat) (text : List Char) (division : List (List (List Char)))
    (packed : Packed limit text division) : division = groups limit (paragraphs text) := by
  rw [← divided_unique text _ packed.paragraphs,
    groups_found division packed.filled packed.within packed.full]

end Groups

section Chunks

variable {limit : Nat} {text : List Char}

theorem trim_length (cs : List Char) : (trim cs).length ≤ cs.length :=
  (trim_end_front _).length_le.trans (List.dropWhile_suffix isBlank).length_le

theorem chunk_member (c : List Char) (member : c ∈ chunks limit text) :
    c ≠ [] ∧ ∃ g ∈ groups limit (paragraphs text), c = trim (joined g) := by
  obtain ⟨inside, some_⟩ := List.mem_filter.mp member
  obtain ⟨g, among, rfl⟩ := List.mem_map.mp inside
  exact ⟨by simpa using some_, g, among, rfl⟩

theorem lone_paragraph (g : List (List Char)) (filled : g ≠ []) (few : ¬ 2 ≤ g.length) : ∃ p, g = [p] := by
  have some_ := List.length_pos_of_ne_nil filled
  exact List.length_eq_one_iff.mp (by omega)

theorem long_chunk (c : List Char) (member : c ∈ chunks limit text) (long : limit < c.length) :
    ∃ p, [p] ∈ groups limit (paragraphs text) ∧ c = trim p := by
  obtain ⟨-, g, among, rfl⟩ := chunk_member c member
  have packed := groups_packed limit text
  have few : ¬ 2 ≤ g.length := by
    intro two
    exact absurd long (Nat.not_lt_of_le ((trim_length _).trans (packed.within g among two)))
  obtain ⟨p, rfl⟩ := lone_paragraph g (packed.filled g among) few
  exact ⟨p, among, rfl⟩

@[simp] theorem solids_append (as bs : List Char) : solids (as ++ bs) = solids as ++ solids bs :=
  List.filter_append as bs

theorem solids_blanks (cs : List Char) (blanks : Blanks cs) : solids cs = [] :=
  List.filter_eq_nil_iff.mpr fun c member => by simp [blanks c member]

theorem solids_trim_start (cs : List Char) : solids (trimStart cs) = solids cs := by
  conv_rhs => rw [← List.takeWhile_append_dropWhile (p := isBlank) (l := cs)]
  rw [solids_append, solids_blanks _ fun c member => List.mem_takeWhile_imp member]
  rfl

theorem solids_reverse (cs : List Char) : solids cs.reverse = (solids cs).reverse :=
  List.filter_reverse ..

theorem solids_trim (cs : List Char) : solids (trim cs) = solids cs := by
  rw [trim, trimEnd, solids_reverse, solids_trim_start, solids_reverse, List.reverse_reverse,
    solids_trim_start]

theorem solids_joined (g : List (List Char)) : solids (joined g) = solids g.flatten := by
  induction g with
  | nil => rfl
  | cons p rest ih =>
      by_cases none : rest = []
      · subst none
        simp [joined]
      · have feeds : solids mark = [] := rfl
        rw [joined_cons p rest none, solids_append, solids_append, feeds, ih, List.flatten_cons,
          solids_append]
        rfl

theorem solids_groups (division : List (List (List Char))) :
    solids (((division.map fun g => trim (joined g)).filter fun c => !c.isEmpty).flatten) =
      solids division.flatten.flatten := by
  rw [List.flatten_filter_not_isEmpty]
  induction division with
  | nil => rfl
  | cons g rest ih =>
      rw [List.map_cons, List.flatten_cons, solids_append, ih, solids_trim, solids_joined,
        List.flatten_cons, List.flatten_append, solids_append]

/-- There is one way to pack the paragraphs of a text within a limit, and the chunks are the trimmed texts of
the groups, blank ones left out. -/
theorem chunks_packed (limit : Nat) (text : List Char) :
    ∃ division, Packed limit text division ∧ (∀ other, Packed limit text other → other = division) ∧
      chunks limit text = (division.map fun g => trim (joined g)).filter (fun c => !c.isEmpty) ∧
      (∀ c ∈ chunks limit text, limit < c.length → ∃ p, [p] ∈ division ∧ c = trim p) ∧
      solids (chunks limit text).flatten = solids text ∧
      ∀ c ∈ chunks limit text, c ≠ [] ∧ Solid c := by
  refine ⟨groups limit (paragraphs text), groups_packed limit text, packed_unique limit text, rfl,
    long_chunk, ?_, ?_⟩
  · rw [chunks, solids_groups, groups_flatten, ← solids_joined, (paragraphs_divided text).whole]
  · intro c member
    obtain ⟨some_, g, -, rfl⟩ := chunk_member c member
    exact ⟨some_, solid_trim _⟩

/-- A paragraph too long for the limit stands between short ones, one of which a run of line feeds follows. -/
example : chunks 9 "ab\n\ncd\n\nfar too long\n\n\n\nef\n\n".toList =
    ["ab\n\ncd".toList, "far too long".toList, "ef".toList] := by
  decide

end Chunks

section Again

variable {limit : Nat} {text : List Char}

theorem trim_inside (cs : List Char) : trim cs <:+: cs :=
  (trim_end_front _).isInfix.trans (List.dropWhile_suffix isBlank).isInfix

theorem groups_whole (ps : List (List Char)) (some_ : ps ≠ [])
    (within : 2 ≤ ps.length → (joined ps).length ≤ limit) : groups limit ps = [ps] := by
  have found := groups_found [ps] (by simpa using some_) (by simpa using within) (.singleton ps)
  rwa [List.flatten_singleton] at found

theorem chunks_whole (c : List Char) (some_ : c ≠ []) (solid : Solid c)
    (within : 2 ≤ (paragraphs c).length → c.length ≤ limit) : chunks limit c = [c] := by
  have divided := paragraphs_divided c
  rw [chunks, groups_whole _ divided.some_ (by rwa [divided.whole]), List.map_singleton, divided.whole,
    trim_solid solid]
  simp [some_]

theorem paragraphs_trimmed (p : List Char) (free : ¬ mark <:+: p) : paragraphs (trim p) = [trim p] :=
  paragraphs_from_last [] (trim p) fun inside => free (inside.trans (trim_inside p))

-- How the paragraphs of a chunk lie in those of the text does not matter: either all of them stay within the
-- limit, or there is only one.
theorem chunk_kept (c : List Char) (member : c ∈ chunks limit text) (wider : Nat)
    (fits : limit ≤ wider) : chunks wider c = [c] := by
  obtain ⟨some_, g, among, rfl⟩ := chunk_member c member
  have packed := groups_packed limit text
  apply chunks_whole _ some_ (solid_trim _)
  intro two
  by_cases more : 2 ≤ g.length
  · exact (trim_length _).trans ((packed.within g among more).trans fits)
  · obtain ⟨p, rfl⟩ := lone_paragraph g (packed.filled g among) more
    have free := packed.paragraphs.apart p (List.mem_flatten_of_mem among List.mem_cons_self)
    rw [joined, paragraphs_trimmed p free] at two
    simp at two

/-- A chunk that is cut into chunks again stays as it is. -/
theorem rechunked (limit : Nat) (text c : List Char) (member : c ∈ chunks limit text) :
    chunks limit c = [c] :=
  chunk_kept c member limit le_rfl

/-- The line feeds in the middle make a mark and one more, which now opens the second paragraph; the white
space at the ends is gone. -/
theorem rechunked_odd :
    "a b\n\n\nc".toList ∈ chunks 9 " a b\n\n\nc\n\n\n\nfar too long".toList ∧
      chunks 9 "a b\n\n\nc".toList = ["a b\n\n\nc".toList] := by
  have member : "a b\n\n\nc".toList ∈ chunks 9 " a b\n\n\nc\n\n\n\nfar too long".toList := by decide
  exact ⟨member, rechunked 9 _ _ member⟩

end Again

end CodeReview.Chunk
