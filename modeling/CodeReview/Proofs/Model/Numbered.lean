import CodeReview.Model.ChatApi
import Mathlib.Data.List.Nodup
import Mathlib.Data.List.Range

/-!
Which embedding goes to which text. The rows of a response are sorted by the numbers they give, those without
one behind the others, and what has been sorted is handed out from the front. A number therefore says where a
row stands only as long as no number below it is missing: then, and if no number is given twice, every row
stands at its number, and it makes no difference in which order the numbered rows arrive. No number is looked
at on its own, so one that stands alone is not kept to.
-/

namespace CodeReview.ChatApi

/-- What a row is sorted by. Without a number it is the last there is. -/
def Row.place (r : Row) : Nat := r.index.getD (wordLimit - 1)

structure Ordered (found ordered : List Row) : Prop where
  ascending : ordered.Pairwise fun a b => a.place ≤ b.place
  arrival : ∀ place, ordered.filter (fun r => r.place = place) = found.filter (fun r => r.place = place)

def numbers (rows : List Row) : List Nat := rows.filterMap Row.index

def Matched (ordered : List Row) : Prop :=
  ∀ row ∈ ordered, ∀ i, row.index = some i → ordered[i]? = some row

/-- The same rows, but those with a number may have changed their order. No two of them give the same number,
and none the one that rows without a number are sorted by. -/
structure Reordered (found other : List Row) : Prop where
  same : other.Perm found
  unnumbered : other.filter (fun r => r.index = none) = found.filter (fun r => r.index = none)
  distinct : (numbers found).Nodup
  below : wordLimit - 1 ∉ numbers found

section Sorting

variable {found ordered other : List Row}

theorem before_place (a b : Row) : a.isBefore b = true ↔ a.place ≤ b.place := decide_eq_true_iff

theorem before_trans (a b c : Row) (first : a.isBefore b = true) (second : b.isBefore c = true) :
    a.isBefore c = true := by
  rw [before_place] at first second ⊢
  exact first.trans second

theorem before_total (a b : Row) : (a.isBefore b || b.isBefore a) = true := by
  rw [Bool.or_eq_true, before_place, before_place]
  exact Nat.le_total _ _

theorem sorted_ordered (found : List Row) : Ordered found (found.mergeSort Row.isBefore) where
  ascending := (List.pairwise_mergeSort before_trans before_total found).imp (before_place _ _).mp
  arrival := by
    intro place
    -- rows of one place are in order as they are, so sorting leaves them in it
    have level : (found.filter fun r => r.place = place).Pairwise fun a b => a.isBefore b = true := by
      rw [List.pairwise_filter]
      refine List.pairwise_of_forall fun a b first second => (before_place a b).mpr ?_
      rw [of_decide_eq_true first, of_decide_eq_true second]
    have kept := List.sublist_mergeSort before_trans before_total level List.filter_sublist
    have inside := kept.filter fun r => r.place = place
    rw [List.filter_filter] at inside
    simp only [Bool.and_self] at inside
    have order := (List.mergeSort_perm found Row.isBefore).filter fun r => r.place = place
    exact (inside.eq_of_length order.length_eq.symm).symm

theorem ordered_perm (sorted : Ordered found ordered) : ordered.Perm found := by
  rw [List.perm_iff_count]
  intro row
  have own (rows : List Row) : (rows.filter fun r => r.place = row.place).count row = rows.count row :=
    List.count_filter (decide_eq_true rfl)
  rw [← own ordered, sorted.arrival, own found]

/-- Of lists with the same rows at each place the sorted one begins with the lowest. -/
theorem first_lowest {a b : Row} {rest more : List Row}
    (ascending : (a :: rest).Pairwise fun a b => a.place ≤ b.place)
    (alike : ∀ place, (a :: rest).filter (fun r => r.place = place) =
      (b :: more).filter (fun r => r.place = place)) : a.place ≤ b.place := by
  have member : b ∈ (a :: rest).filter fun r => r.place = b.place := by
    rw [alike]
    simp
  rcases List.mem_cons.mp (List.mem_filter.mp member).1 with rfl | inside
  · exact le_rfl
  · exact (List.pairwise_cons.mp ascending).1 b inside

theorem ordered_unique (sorted : Ordered found ordered) (sorted' : Ordered found other) :
    other = ordered := by
  obtain ⟨ascending, arrival⟩ := sorted
  obtain ⟨ascending', arrival'⟩ := sorted'
  have alike : ∀ place,
      other.filter (fun r => r.place = place) = ordered.filter (fun r => r.place = place) :=
    fun place => (arrival' place).trans (arrival place).symm
  clear arrival arrival'
  induction other generalizing ordered with
  | nil =>
      cases ordered with
      | nil => rfl
      | cons b more => simpa using alike b.place
  | cons a rest ih =>
      cases ordered with
      | nil => simpa using alike a.place
      | cons b more =>
          have level : a.place = b.place := Nat.le_antisymm (first_lowest ascending' alike)
            (first_lowest ascending fun place => (alike place).symm)
          have first := alike b.place
          rw [List.filter_cons_of_pos (by simpa using level), List.filter_cons_of_pos (by simp)] at first
          obtain ⟨rfl, -⟩ := List.cons.inj first
          have others : ∀ place,
              rest.filter (fun r => r.place = place) = more.filter (fun r => r.place = place) := by
            intro place
            have whole := alike place
            rw [List.filter_cons, List.filter_cons] at whole
            split at whole
            · exact (List.cons.inj whole).2
            · exact whole
          rw [ih (List.pairwise_cons.mp ascending).2 (List.pairwise_cons.mp ascending').2 others]

end Sorting

section Numbers

variable {found ordered : List Row}

theorem place_numbered {row : Row} {i : Nat} (numbered : row.index = some i) : row.place = i := by
  rw [Row.place, numbered]
  rfl

theorem place_unnumbered {row : Row} (unnumbered : row.index = none) : row.place = wordLimit - 1 := by
  rw [Row.place, unnumbered]
  rfl

theorem numbers_member (rows : List Row) (i : Nat) : i ∈ numbers rows ↔ ∃ row ∈ rows, row.index = some i :=
  List.mem_filterMap

theorem numbers_length (rows : List Row) : (numbers rows).length ≤ rows.length :=
  List.length_filterMap_le _ _

theorem numbers_ascending (ascending : ordered.Pairwise fun a b => a.place ≤ b.place) :
    (numbers ordered).Pairwise (· ≤ ·) := by
  rw [numbers, List.pairwise_filterMap]
  apply ascending.imp
  intro a b before i first j second
  rwa [place_numbered first, place_numbered second] at before

/-- Behind a row without a number none gives a number that is lower than the last there is. -/
theorem behind_unnumbered {row : Row} {rest : List Row} (unnumbered : row.index = none)
    (ascending : (row :: rest).Pairwise fun a b => a.place ≤ b.place)
    (low : ∀ i ∈ numbers rest, i < wordLimit - 1) : numbers rest = [] := by
  rw [List.eq_nil_iff_forall_not_mem]
  intro i member
  obtain ⟨other, inside, numbered⟩ := (numbers_member rest i).mp member
  have before := (List.pairwise_cons.mp ascending).1 other inside
  rw [place_unnumbered unnumbered, place_numbered numbered] at before
  exact absurd (low i member) (Nat.not_lt.mpr before)

-- Along the rows, of which the first is to have the number `start`.
theorem numbered_stand (start : Nat) (ascending : ordered.Pairwise fun a b => a.place ≤ b.place)
    (low : ∀ i ∈ numbers ordered, i < wordLimit - 1)
    (counted : numbers ordered = List.range' start (numbers ordered).length) :
    ∀ row ∈ ordered, ∀ i, row.index = some i → ∃ p, i = start + p ∧ ordered[p]? = some row := by
  induction ordered generalizing start with
  | nil =>
      intro row member
      cases member
  | cons first rest ih =>
      have later := (List.pairwise_cons.mp ascending).2
      cases given : first.index with
      | none =>
          have same : numbers (first :: rest) = numbers rest := List.filterMap_cons_none given
          have gone := behind_unnumbered given ascending (by rwa [same] at low)
          intro row member i numbered
          have inside := (numbers_member _ i).mpr ⟨row, member, numbered⟩
          rw [same, gone] at inside
          cases inside
      | some m =>
          have same : numbers (first :: rest) = m :: numbers rest := List.filterMap_cons_some given
          rw [same] at low counted
          rw [List.length_cons, List.range'_succ] at counted
          obtain ⟨rfl, others⟩ := List.cons.inj counted
          intro row member i numbered
          rcases List.mem_cons.mp member with rfl | inside
          · refine ⟨0, ?_, rfl⟩
            exact Option.some.inj (numbered.symm.trans given)
          · obtain ⟨p, rfl, there⟩ := ih (m + 1) later
              (fun i among => low i (List.mem_cons_of_mem m among)) others row inside i numbered
            exact ⟨p + 1, by omega, there⟩

theorem standing_numbered (start : Nat) (ascending : ordered.Pairwise fun a b => a.place ≤ b.place)
    (distinct : (numbers ordered).Nodup) (room : start + ordered.length < wordLimit)
    (stand : ∀ row ∈ ordered, ∀ i, row.index = some i → ∃ p, i = start + p ∧ ordered[p]? = some row) :
    numbers ordered = List.range' start (numbers ordered).length := by
  induction ordered generalizing start with
  | nil => rfl
  | cons first rest ih =>
      have later := (List.pairwise_cons.mp ascending).2
      rw [List.length_cons] at room
      cases given : first.index with
      | none =>
          have same : numbers (first :: rest) = numbers rest := List.filterMap_cons_none given
          have gone := behind_unnumbered given ascending fun i among => by
            obtain ⟨row, inside, numbered⟩ := (numbers_member rest i).mp among
            obtain ⟨p, rfl, there⟩ := stand row (List.mem_cons_of_mem _ inside) i numbered
            have bound := (List.getElem?_eq_some_iff.mp there).1
            rw [List.length_cons] at bound
            omega
          rw [same, gone]
          rfl
      | some m =>
          have same : numbers (first :: rest) = m :: numbers rest := List.filterMap_cons_some given
          rw [same] at distinct
          obtain ⟨fresh, others⟩ := List.nodup_cons.mp distinct
          -- the first row is not found further on, where its number would be given again
          have only : ∀ row ∈ rest, row.index ≠ some m :=
            fun row inside again => fresh ((numbers_member rest m).mpr ⟨row, inside, again⟩)
          have here : m = start := by
            obtain ⟨p, rfl, there⟩ := stand first List.mem_cons_self m given
            cases p with
            | zero => rfl
            | succ p => exact absurd given (only first (List.mem_of_getElem? there))
          subst here
          have next := ih (m + 1) later others (by omega) fun row inside i numbered => by
            obtain ⟨p, rfl, there⟩ := stand row (List.mem_cons_of_mem _ inside) i numbered
            cases p with
            | zero => exact absurd numbered (only row inside)
            | succ p => exact ⟨p, by omega, there⟩
          rw [same, List.length_cons, List.range'_succ, ← next]

/-- Rows stand at their numbers, each of which is given once, exactly if the numbers are the first there
are. -/
theorem matched_iff (sorted : Ordered found ordered) (room : found.length < wordLimit) :
    (Matched ordered ∧ (numbers found).Nodup) ↔
      (numbers found).Perm (List.range (numbers found).length) := by
  have order := ordered_perm sorted
  have given : (numbers ordered).Perm (numbers found) := order.filterMap Row.index
  rw [← order.length_eq] at room
  rw [← given.nodup_iff, ← given.length_eq, List.range_eq_range']
  constructor
  · rintro ⟨matched, distinct⟩
    have counted := standing_numbered 0 sorted.ascending distinct (by rwa [Nat.zero_add])
      fun row member i numbered => ⟨i, (Nat.zero_add i).symm, matched row member i numbered⟩
    exact given.symm.trans (.of_eq counted)
  · intro all
    have whole := given.trans all
    have counted : numbers ordered = List.range' 0 (numbers ordered).length := by
      apply whole.eq_of_pairwise (fun a b _ _ => Nat.le_antisymm) (numbers_ascending sorted.ascending)
      exact List.pairwise_le_range'
    have low : ∀ i ∈ numbers ordered, i < wordLimit - 1 := by
      intro i member
      have few := numbers_length ordered
      have below := List.mem_range'_1.mp (whole.mem_iff.mp member)
      omega
    refine ⟨?_, counted ▸ List.nodup_range'⟩
    intro row member i numbered
    obtain ⟨p, rfl, there⟩ := numbered_stand 0 sorted.ascending low counted row member i numbered
    rwa [Nat.zero_add]

end Numbers

section Arrival

variable {found ordered other : List Row}

theorem place_iff (row : Row) (i : Nat) (low : i ≠ wordLimit - 1) : row.place = i ↔ row.index = some i := by
  cases given : row.index with
  | none => simpa [place_unnumbered given] using low.symm
  | some m => simp [place_numbered given]

theorem last_unnumbered (rows : List Row) (below : wordLimit - 1 ∉ numbers rows) :
    rows.filter (fun r => r.place = wordLimit - 1) = rows.filter fun r => r.index = none := by
  apply List.filter_congr
  intro row member
  cases given : row.index with
  | none => simp [place_unnumbered given]
  | some m =>
      have other : m ≠ wordLimit - 1 := by
        rintro rfl
        exact below ((numbers_member rows _).mpr ⟨row, member, given⟩)
      simpa [place_numbered given] using other

theorem number_once (rows : List Row) (distinct : (numbers rows).Nodup) (i : Nat)
    (low : i ≠ wordLimit - 1) : (rows.filter fun r => r.place = i).length ≤ 1 := by
  have once := List.nodup_iff_count_le_one.mp distinct i
  rw [numbers, List.count_filterMap, List.countP_eq_length_filter] at once
  have same : (fun r : Row => decide (r.place = i)) = fun r => r.index == some i := by
    funext row
    simp only [place_iff row i low, beq_eq_decide]
  rwa [same]

/-- Which of the numbered rows arrives first does not show when they are sorted. -/
theorem reordered_sorted (sorted : Ordered found ordered) (moved : Reordered found other) :
    Ordered other ordered := by
  refine ⟨sorted.ascending, ?_⟩
  intro place
  rw [sorted.arrival]
  by_cases last : place = wordLimit - 1
  · have below : wordLimit - 1 ∉ numbers other :=
      mt (moved.same.filterMap Row.index).mem_iff.mp moved.below
    rw [last, last_unnumbered found moved.below, last_unnumbered other below, moved.unnumbered]
  · have order := moved.same.filter fun r => r.place = place
    have few := number_once found moved.distinct place last
    match rows : found.filter fun r => r.place = place with
    | [] =>
        rw [rows] at order ⊢
        exact (List.perm_nil.mp order).symm
    | [row] =>
        rw [rows] at order ⊢
        exact (List.perm_singleton.mp order).symm
    | _ :: _ :: _ => simp [rows] at few

end Arrival

section Embedding

variable (send : Transport) (c : Client) (texts : List String)

theorem embed_held (some_ : texts ≠ []) (found : List Row)
    (held : decoded "Embedding" rows (send (embeddingRequest c texts)) = .ok found) :
    (provider send c).embed texts =
      if found.length ≠ texts.length then
        .error (.provider ("Expected " ++ toString texts.length ++ " embeddings, got " ++
          toString found.length))
      else .ok ((found.mergeSort Row.isBefore).map Row.embedding) := by
  have asked : texts.isEmpty = false := by simpa using some_
  simp only [provider, asked, embeddings, held]
  rfl

/-- What a client makes of a response that can be read. One row is there for each text, or it is refused; the
vectors are those of the sorted rows. Exactly if the numbers given are the first there are does each row that
gives one stand at it, and then it does not matter which of these rows arrived first. -/
theorem embeddings_by_number (some_ : texts ≠ []) (found : List Row)
    (held : decoded "Embedding" rows (send (embeddingRequest c texts)) = .ok found) :
    (found.length ≠ texts.length →
      (provider send c).embed texts =
        .error (.provider ("Expected " ++ toString texts.length ++ " embeddings, got " ++
          toString found.length))) ∧
    (found.length = texts.length →
      ∃ ordered, (provider send c).embed texts = .ok (ordered.map Row.embedding) ∧
        ordered.length = texts.length ∧ Ordered found ordered ∧
        (∀ other, Ordered found other → other = ordered) ∧
        (texts.length < wordLimit →
          ((Matched ordered ∧ (numbers found).Nodup) ↔
            (numbers found).Perm (List.range (numbers found).length))) ∧
        ∀ send' found', decoded "Embedding" rows (send' (embeddingRequest c texts)) = .ok found' →
          Reordered found found' →
          (provider send' c).embed texts = .ok (ordered.map Row.embedding)) := by
  rw [embed_held send c texts some_ found held]
  constructor
  · intro other
    rw [if_pos other]
  · intro each
    have sorted := sorted_ordered found
    refine ⟨found.mergeSort Row.isBefore, if_neg (not_not.mpr each), ?_, sorted, ?_, ?_, ?_⟩
    · rw [List.length_mergeSort, each]
    · exact fun other sorted' => ordered_unique sorted sorted'
    · intro room
      exact matched_iff sorted (each ▸ room)
    · intro send' found' held' moved
      have each' : found'.length = texts.length := moved.same.length_eq.trans each
      rw [embed_held send' c texts some_ found' held', if_neg (not_not.mpr each'),
        ordered_unique (reordered_sorted sorted moved) (sorted_ordered found')]

def secondNumbered : Transport := fun _ =>
  .ok { status := 200
        body := Text.utf8
          "\x7b\"data\":[\x7b\"embedding\":[1]\x7d,\x7b\"index\":1,\"embedding\":[2]\x7d]\x7d".toList }

def anyClient : Client := { apiKey := "key", apiBase := "http://host/v1", model := "m", embeddingModel := "e" }

/-- Both rows are where they belong when they arrive; the sorting takes the one with the number away from
it. -/
theorem embeddings_by_number_alone :
    decoded "Embedding" rows (secondNumbered (embeddingRequest anyClient ["first", "second"])) =
        .ok [⟨none, [.ofNat 1]⟩, ⟨some 1, [.ofNat 2]⟩] ∧
      (provider secondNumbered anyClient).embed ["first", "second"] = .ok [[.ofNat 2], [.ofNat 1]] ∧
      ¬ Matched [⟨some 1, [.ofNat 2]⟩, ⟨none, [.ofNat 1]⟩] := by
  have held : decoded "Embedding" rows (secondNumbered (embeddingRequest anyClient ["first", "second"])) =
      .ok [⟨none, [.ofNat 1]⟩, ⟨some 1, [.ofNat 2]⟩] := by decide +kernel
  obtain ⟨-, reads⟩ := embeddings_by_number secondNumbered anyClient ["first", "second"] (by simp) _ held
  obtain ⟨ordered, embeds, -, -, only, exact_, -⟩ := reads rfl
  have swapped : Ordered [⟨none, [.ofNat 1]⟩, ⟨some 1, [.ofNat 2]⟩]
      [⟨some 1, [.ofNat 2]⟩, ⟨none, [.ofNat 1]⟩] := by
    constructor
    · simp [Row.place, wordLimit]
    · intro place
      by_cases one : 1 = place
      · subst one
        rfl
      · simp [List.filter_cons, Row.place, one]
  obtain rfl := only _ swapped
  refine ⟨held, embeds, ?_⟩
  intro matched
  have all := (exact_ (by decide)).mp ⟨matched, by decide⟩
  exact absurd (all.mem_iff.mp (List.mem_singleton.mpr rfl)) (by decide)

end Embedding

end CodeReview.ChatApi
