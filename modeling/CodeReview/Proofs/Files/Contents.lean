import CodeReview.Proofs.Files.Located
import Mathlib.Data.List.Induction
import Mathlib.Data.List.Nodup

/-!
What a directory holds. In a tree in which every place has one entry, and what is below a place is in a
directory, the names of a directory are listed in order and none twice, and each is the name of what is at
its place. How deep such a tree goes is at most the number of its entries.
-/

namespace CodeReview.Files

open CodeReview.Path (Component)

/-- A tree as it is found on a disk. The place where relative paths start says nothing about it. -/
structure WellFormed (files : Files) : Prop where
  distinct : (files.entries.map Prod.fst).Nodup
  inside : ∀ item ∈ files.entries, files.entryAt item.1.dropLast = some .directory
  whole : ∀ item ∈ files.entries, ∀ name ∈ item.1, '/' ∉ name

section Entries

theorem lookup_member {entries : List (Place × Entry)} (distinct : (entries.map Prod.fst).Nodup)
    (place : Place) (entry : Entry) :
    lookup place entries = some entry ↔ (place, entry) ∈ entries := by
  induction entries with
  | nil => simp [lookup]
  | cons item rest ih =>
      obtain ⟨p, first⟩ := item
      rw [List.map_cons, List.nodup_cons] at distinct
      rw [lookup, List.mem_cons, Prod.mk.injEq]
      split
      · next same =>
          subst same
          have once : (p, entry) ∉ rest := fun member =>
            distinct.1 (List.mem_map.mpr ⟨_, member, rfl⟩)
          simp [once, eq_comm]
      · next other =>
          have apart : place ≠ p := fun same => other same.symm
          simp [apart, ih distinct.2]

variable {files : Files} (formed : WellFormed files)

include formed

theorem entry_member (place : Place) (below : place ≠ []) (entry : Entry) :
    files.entryAt place = some entry ↔ (place, entry) ∈ files.entries := by
  rw [entryAt, if_neg (by simpa using below), lookup_member formed.distinct]

theorem above_directory (place : Place) (name : List Char) (entry : Entry)
    (there : files.entryAt (place ++ [name]) = some entry) : files.entryAt place = some .directory := by
  have member := (entry_member formed _ (by simp) entry).mp there
  simpa using formed.inside _ member

/-- All on the way to an entry are directories. -/
theorem between_directory (place : Place) (names : List (List Char)) (some_ : names ≠ []) (entry : Entry)
    (there : files.entryAt (place ++ names) = some entry) : files.entryAt place = some .directory := by
  -- the parent of an entry is known to be a directory, so the way is taken back from its end
  induction names using List.reverseRecOn generalizing entry with
  | nil => exact absurd rfl some_
  | append_singleton names name ih =>
      rw [← List.append_assoc] at there
      have parent := above_directory formed _ name entry there
      by_cases none : names = []
      · simpa [none] using parent
      · exact ih none _ parent

theorem name_whole (place : Place) (names : List (List Char)) (some_ : names ≠ []) (entry : Entry)
    (there : files.entryAt (place ++ names) = some entry) : ∀ name ∈ names, '/' ∉ name := by
  have member := (entry_member formed _ (by simp [some_]) entry).mp there
  exact fun name inside => formed.whole _ member name (List.mem_append_right place inside)

end Entries

section Depth

def steps (place : Place) : List (List Char) → List Place
  | [] => []
  | name :: rest => (place ++ [name]) :: steps (place ++ [name]) rest

theorem steps_length (place : Place) (names : List (List Char)) :
    (steps place names).length = names.length := by
  induction names generalizing place with
  | nil => rfl
  | cons name rest ih => rw [steps, List.length_cons, ih, List.length_cons]

theorem steps_longer (place : Place) (names : List (List Char)) :
    ∀ step ∈ steps place names, place.length < step.length := by
  induction names generalizing place with
  | nil => exact fun _ member => absurd member List.not_mem_nil
  | cons name rest ih =>
      have next : (place ++ [name]).length = place.length + 1 := List.length_append
      intro step member
      rcases List.mem_cons.mp member with rfl | later
      · omega
      · have longer := ih (place ++ [name]) step later
        omega

theorem steps_distinct (place : Place) (names : List (List Char)) : (steps place names).Nodup := by
  induction names generalizing place with
  | nil => exact List.nodup_nil
  | cons name rest ih =>
      refine List.nodup_cons.mpr ⟨fun member => ?_, ih _⟩
      exact Nat.lt_irrefl _ (steps_longer _ rest _ member)

variable {files : Files} (formed : WellFormed files)

include formed

theorem steps_entries (place : Place) (names : List (List Char)) (entry : Entry)
    (there : files.entryAt (place ++ names) = some entry) :
    ∀ step ∈ steps place names, step ∈ files.entries.map Prod.fst := by
  induction names generalizing place with
  | nil => exact fun _ member => absurd member List.not_mem_nil
  | cons name rest ih =>
      have first : ∃ found, files.entryAt (place ++ [name]) = some found := by
        by_cases last : rest = []
        · exact ⟨entry, last ▸ there⟩
        · exact ⟨_, between_directory formed _ rest last entry (by simpa using there)⟩
      intro step member
      rcases List.mem_cons.mp member with rfl | later
      · obtain ⟨found, first⟩ := first
        exact List.mem_map.mpr ⟨_, (entry_member formed _ (by simp) found).mp first, rfl⟩
      · exact ih (place ++ [name]) (by simpa using there) step later

theorem way_length (place : Place) (names : List (List Char)) (entry : Entry)
    (there : files.entryAt (place ++ names) = some entry) : names.length ≤ files.entries.length := by
  have most := (steps_distinct place names).length_le_of_subset
    (steps_entries formed place names entry there)
  rwa [steps_length, List.length_map] at most

end Depth

section Children

variable {files : Files} (formed : WellFormed files)

include formed

theorem children_member (place : Place) (name : List Char) (entry : Entry) :
    (name, entry) ∈ files.children place ↔ files.entryAt (place ++ [name]) = some entry := by
  rw [entry_member formed _ (by simp), children, (List.mergeSort_perm _ _).mem_iff, List.mem_filterMap]
  constructor
  · rintro ⟨⟨p, found⟩, member, named⟩
    dsimp only at named
    split at named
    · next last ending =>
        obtain ⟨above, named⟩ := Option.ite_none_right_eq_some.mp named
        cases named
        rw [← above, List.dropLast_append_getLast? _ ending]
        exact member
    · cases named
  · intro member
    exact ⟨_, member, by simp⟩

/-- The names of a directory come in order, and none comes twice. -/
theorem children_ascending (place : Place) :
    (files.children place).Pairwise fun a b => a.1 < b.1 := by
  have sorted : (files.children place).Pairwise fun a b => ¬ b.1 < a.1 := by
    unfold children
    refine (List.pairwise_mergeSort (fun a b c left right => ?_) (fun a b => ?_) _).imp
      fun {a b} ordered => ?_
    · rw [Bool.not_eq_true', decide_eq_false_iff_not] at left right ⊢
      exact List.not_lt.mpr (List.le_trans (List.not_lt.mp left) (List.not_lt.mp right))
    · rw [Bool.or_eq_true, Bool.not_eq_true', Bool.not_eq_true', decide_eq_false_iff_not,
        decide_eq_false_iff_not]
      exact (List.le_total a.1 b.1).imp List.not_lt.mpr List.not_lt.mpr
    · rwa [Bool.not_eq_true', decide_eq_false_iff_not] at ordered
  -- two entries of one name would have one place
  have once : (files.children place).Pairwise fun a b => a.1 ≠ b.1 := by
    refine ((List.mergeSort_perm _ _).pairwise_iff fun apart same => apart same.symm).mpr ?_
    refine List.Pairwise.filterMap _ ?_ (List.pairwise_map.mp formed.distinct)
    rintro ⟨p, first⟩ ⟨q, second⟩ apart a left b right same
    dsimp only at left right apart
    split at left <;> split at right <;> try contradiction
    next last ending _ last' ending' =>
      obtain ⟨above, left⟩ := Option.ite_none_right_eq_some.mp left
      obtain ⟨above', right⟩ := Option.ite_none_right_eq_some.mp right
      cases left
      cases right
      rw [← List.dropLast_append_getLast? _ ending, ← List.dropLast_append_getLast? _ ending', above, above']
        at apart
      exact apart (by rw [show last = last' from same])
  refine (sorted.and once).imp fun both => ?_
  exact Decidable.byContradiction fun not_less =>
    both.2 (List.le_antisymm (List.not_lt.mp both.1) (List.not_lt.mp not_less))

end Children

section Links

variable {files : Files}

/-- Not to follow a link at the end of a path makes a difference only where there is one. -/
theorem walk_unfollowed (files : Files) (place : Place) (pieces : List Component) :
    walk files false place pieces = walk files true place pieces ∨
      ∃ last target, walk files false place pieces = .arrived last ∧
        files.entryAt last = some (.link target) := by
  induction pieces generalizing place with
  | nil => exact .inl rfl
  | cons piece rest ih =>
      cases piece with
      | root => exact ih []
      | here => exact ih place
      | up => exact ih place.dropLast
      | name name =>
          simp only [walk]
          split
          · exact .inl rfl
          split
          · exact .inl rfl
          · exact ih (place ++ [name])
          · exact .inl rfl
          · next target there =>
              by_cases last : rest.isEmpty
              · exact .inr ⟨place ++ [name], target, by simp [last], there⟩
              · exact .inl (by simp [last])

theorem walk_through_unfollowed (links : Nat) (place last : Place) (pieces : List Component)
    (walked : walkThrough files true links place pieces = .ok last) :
    walkThrough files false links place pieces = .ok last ∨
      ∃ last' target, walkThrough files false links place pieces = .ok last' ∧
        files.entryAt last' = some (.link target) := by
  induction links generalizing place pieces with
  | zero =>
      rw [walkThrough] at walked ⊢
      rcases walk_unfollowed files place pieces with same | ⟨last', target, arrived, there⟩
      · rw [same]
        exact .inl walked
      · rw [arrived]
        exact .inr ⟨last', target, rfl, there⟩
  | succ n ih =>
      rw [walkThrough] at walked ⊢
      rcases walk_unfollowed files place pieces with same | ⟨last', target, arrived, there⟩
      · rw [same]
        split at walked
        · exact .inl walked
        · cases walked
        · exact ih _ _ walked
      · rw [arrived]
        exact .inr ⟨last', target, rfl, there⟩

theorem locate_unfollowed (path : List Char) (place : Place)
    (found : files.find path = .ok (place, .directory)) :
    ∃ last, files.locate path false = .ok last ∧ (files.entryAt last = some .directory ∨
      ∃ target, files.entryAt last = some (.link target)) := by
  obtain ⟨place', located, found⟩ := bind_ok found
  split at found <;> cases found
  next there =>
  obtain ⟨_, good, located⟩ := bind_ok located
  rw [locate, good, ok_bind]
  rcases walk_through_unfollowed _ _ _ _ located with same | ⟨last, target, same, link⟩
  · exact ⟨place, same, .inl there⟩
  · exact ⟨last, same, .inr ⟨target, link⟩⟩

end Links

end CodeReview.Files
