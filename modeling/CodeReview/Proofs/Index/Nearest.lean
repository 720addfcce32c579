import CodeReview.Proofs.Index.Serving

/-!
What a search finds. The rows of a valid store are ranked by their distance and then by their position,
which puts any two of them in an order, and a search returns the first rows of that order. Single numbers
are compared as bit patterns, so the two zeros and all that are no numbers have a place in the order too.
Nothing is said here of how the distance of two vectors comes out.
-/

namespace CodeReview

open Decimal (Single)

namespace Decimal.Single

/-- The order of all numbers. The sign counts first, and of two negative ones the larger pattern is the
smaller number. -/
inductive Below (x y : Single) : Prop
  | signs : 0x80000000 ≤ x.bits → y.bits < 0x80000000 → Below x y
  | positive : y.bits < 0x80000000 → x.bits < y.bits → Below x y
  | negative : 0x80000000 ≤ y.bits → y.bits < x.bits → Below x y

theorem below_patterns (x y : Single) :
    Below x y ↔ (2 ^ 31 ≤ x.bits.toNat ∧ y.bits.toNat < 2 ^ 31) ∨
      (y.bits.toNat < 2 ^ 31 ∧ x.bits.toNat < y.bits.toNat) ∨
      (2 ^ 31 ≤ y.bits.toNat ∧ y.bits.toNat < x.bits.toNat) := by
  constructor
  · rintro (⟨low, high⟩ | ⟨high, less⟩ | ⟨low, less⟩)
    · exact .inl ⟨low, high⟩
    · exact .inr (.inl ⟨high, less⟩)
    · exact .inr (.inr ⟨low, less⟩)
  · rintro (⟨low, high⟩ | ⟨high, less⟩ | ⟨low, less⟩)
    · exact .signs low high
    · exact .positive high less
    · exact .negative low less

theorem order_key_patterns (x : Single) :
    x.orderKey = if x.bits.toNat < 2 ^ 31 then x.bits.toNat + 2 ^ 31 else 2 ^ 32 - 1 - x.bits.toNat := rfl

theorem order_key_below (x y : Single) : x.orderKey < y.orderKey ↔ Below x y := by
  have first := x.bits.toNat_lt
  have second := y.bits.toNat_lt
  rw [below_patterns, order_key_patterns, order_key_patterns]
  split <;> split <;> omega

/-- Numbers with one key are one number, down to the last bit. -/
theorem order_key_same (x y : Single) (same : x.orderKey = y.orderKey) : x = y := by
  have first := x.bits.toNat_lt
  have second := y.bits.toNat_lt
  rw [order_key_patterns, order_key_patterns] at same
  have patterns : x.bits.toNat = y.bits.toNat := by
    split at same <;> split at same <;> omega
  cases x
  cases y
  exact congrArg mk (UInt32.toNat.inj patterns)

end Decimal.Single

namespace Store

variable (s : Store)

def row (position : Nat) : Vector32 := (s.vectors.drop (position * s.dim)).take s.dim

def Nearer (a b : Single × Nat) : Prop := a.1.Below b.1 ∨ a.1 = b.1 ∧ a.2 < b.2

def Hit.rank (hit : Hit) : Single × Nat := (hit.distance, hit.position)

def Admits (tag : Option String) : Prop :=
  tag = none ∨ tag = some "" ∨ tag = s.embedder ∨ s.embedder = none

instance (tag : Option String) : Decidable (s.Admits tag) := inferInstanceAs (Decidable (_ ∨ _))

/-- The hits are the `k` nearest rows, or all if there are fewer, nearest first. -/
structure Nearest (query : Vector32) (k : Nat) (hits : List Hit) : Prop where
  count : hits.length = min k s.size
  apart : (hits.map Hit.position).Nodup
  own : ∀ hit ∈ hits, s.documents[hit.position]? = some hit.document ∧
    (s.row hit.position).length = s.dim ∧
    hit.distance = squaredDistance (s.row hit.position) query
  ascending : hits.Pairwise fun a b => Nearer a.rank b.rank
  others : ∀ position < s.size, position ∉ hits.map Hit.position →
    ∀ hit ∈ hits, Nearer hit.rank (squaredDistance (s.row position) query, position)

section Rows

theorem rows_of_nth (dim count : Nat) (vectors : List Single) (position : Nat)
    (inside : position < count) :
    (rowsOf dim count vectors)[position]? = some ((vectors.drop (position * dim)).take dim) := by
  induction count generalizing vectors position with
  | zero => omega
  | succ n ih =>
      cases position with
      | zero => simp [rowsOf]
      | succ p =>
          have next : dim + p * dim = (p + 1) * dim := by rw [Nat.add_mul, Nat.one_mul, Nat.add_comm]
          rw [rowsOf, List.getElem?_cons_succ, ih (vectors.drop dim) p (by omega), List.drop_drop, next]

theorem row_length (valid : s.Valid) (position : Nat) (inside : position < s.size) :
    (s.row position).length = s.dim := by
  have room : (position + 1) * s.dim ≤ s.size * s.dim := Nat.mul_le_mul_right s.dim inside
  rw [row, List.length_take, List.length_drop, valid.rectangular]
  rw [Nat.add_mul, Nat.one_mul] at room
  omega

variable (query : Vector32)

theorem scored_nth (position : Nat) (hit : Hit) (found : (s.scored query)[position]? = some hit) :
    hit.position = position ∧ position < s.size ∧
      hit.distance = squaredDistance (s.row position) query := by
  have inside : position < s.size := by
    rw [← scored_length s query]
    exact (List.getElem?_eq_some_iff.mp found).1
  have row := rows_of_nth s.dim s.size s.vectors position inside
  rw [scored, List.getElem?_map, Option.map_eq_some_iff] at found
  obtain ⟨⟨⟨document, given⟩, index⟩, there, rfl⟩ := found
  rw [List.getElem?_zipIdx, Option.map_eq_some_iff] at there
  obtain ⟨pair, paired, same⟩ := there
  cases same
  obtain ⟨-, same⟩ := List.getElem?_zip_eq_some.mp paired
  rw [rows, row] at same
  cases same
  exact ⟨Nat.zero_add position, inside, rfl⟩

end Rows

section Ranking

variable (query : Vector32)

def ranked : List Hit := (s.scored query).mergeSort Hit.isBefore

theorem ranked_apart : ((s.ranked query).map Hit.position).Nodup := by
  have order := (List.mergeSort_perm (s.scored query) Hit.isBefore).map Hit.position
  rw [scored_positions] at order
  exact order.nodup_iff.mpr List.nodup_range

theorem before_trans (a b c : Hit) (first : a.isBefore b = true) (second : b.isBefore c = true) :
    a.isBefore c = true := by
  simp only [Hit.isBefore, decide_eq_true_eq] at first second ⊢
  exact first.trans second

theorem before_total (a b : Hit) : (a.isBefore b || b.isBefore a) = true := by
  simpa [Hit.isBefore] using Nat.le_total a.distance.orderKey b.distance.orderKey

/-- Rows at one distance keep their order, since sorting is as if each carried its place along. -/
theorem ranked_stable :
    (s.ranked query).Pairwise fun a b =>
      a.distance.orderKey < b.distance.orderKey ∨
        a.distance.orderKey = b.distance.orderKey ∧ a.position ≤ b.position := by
  have sorted := List.pairwise_mergeSort (List.zipIdxLE_trans before_trans)
    (List.zipIdxLE_total before_total) (s.scored query).zipIdx
  rw [ranked, ← List.mergeSort_zipIdx, List.pairwise_map]
  apply sorted.imp_of_mem
  intro a b first second before
  have place : ∀ pair ∈ (s.scored query).zipIdx.mergeSort (List.zipIdxLE Hit.isBefore),
      pair.1.position = pair.2 := by
    intro pair member
    have found := List.mem_zipIdx_iff_getElem?.mp (List.mem_mergeSort.mp member)
    exact (scored_nth s query pair.2 pair.1 found).1
  rw [place a first, place b second]
  simp only [List.zipIdxLE, Hit.isBefore, decide_eq_true_eq] at before
  split at before
  · split at before
    · next less more =>
        exact .inr ⟨Nat.le_antisymm less more, of_decide_eq_true before⟩
    · next less more => exact .inl (Nat.lt_of_not_le more)
  · cases before

theorem ranked_ascending : (s.ranked query).Pairwise fun a b => Nearer a.rank b.rank := by
  have apart := List.pairwise_map.mp (ranked_apart s query)
  refine ((ranked_stable s query).and apart).imp ?_
  rintro a b ⟨less | ⟨same, before⟩, different⟩
  · exact .inl ((Single.order_key_below _ _).mp less)
  · exact .inr ⟨Single.order_key_same _ _ same, Nat.lt_of_le_of_ne before different⟩

theorem ranked_position (position : Nat) (inside : position < s.size) :
    ∃ hit ∈ s.ranked query, hit.rank = (squaredDistance (s.row position) query, position) := by
  rw [← scored_length s query] at inside
  have found := List.getElem?_eq_getElem inside
  obtain ⟨same, -, distance⟩ := scored_nth s query position _ found
  refine ⟨_, List.mem_mergeSort.mpr (List.getElem_mem inside), ?_⟩
  rw [Hit.rank, distance, same]

theorem ranked_nearest (valid : s.Valid) (k : Nat) :
    s.Nearest query k ((s.ranked query).take k) where
  count := by rw [List.length_take, ranked, List.length_mergeSort, scored_length]
  apart := (ranked_apart s query).sublist ((List.take_sublist k _).map Hit.position)
  own := by
    intro hit member
    have among := List.mem_mergeSort.mp (List.mem_of_mem_take member)
    obtain ⟨position, found⟩ := List.getElem?_of_mem among
    obtain ⟨rfl, inside, distance⟩ := scored_nth s query position hit found
    exact ⟨scored_documents s query hit among, row_length s valid _ inside, distance⟩
  ascending := (ranked_ascending s query).sublist (List.take_sublist k _)
  others := by
    intro position inside absent hit member
    obtain ⟨other, among, rank⟩ := ranked_position s query position inside
    have parts := ranked_ascending s query
    rw [← List.take_append_drop k (s.ranked query)] at among parts
    rw [← rank]
    apply (List.pairwise_append.mp parts).2.2 hit member
    -- what is not among the first rows is among the rest
    rcases List.mem_append.mp among with taken | left
    · have here : position ∈ ((s.ranked query).take k).map Hit.position :=
        List.mem_map.mpr ⟨other, taken, congrArg Prod.snd rank⟩
      exact absurd here absent
    · exact left

end Ranking

section Searching

variable (query : Vector32) (k : Nat) (tag : Option String)

theorem admits_peace (admits : s.Admits tag) : s.conflict? tag = none := by
  unfold conflict?
  rcases admits with rfl | rfl | rfl | none
  · rfl
  · rfl
  · cases s.embedder with
    | none => rfl
    | some own => by_cases empty : own.isEmpty <;> simp [knownName, Option.filter, empty]
  · rw [none]
    split <;> simp_all

theorem refuses_conflict (refuses : ¬ s.Admits tag) :
    ∃ name own, tag = some name ∧ s.embedder = some own ∧
      s.conflict? tag = some (.embedderMismatch name own) := by
  simp only [Admits, not_or] at refuses
  obtain ⟨given, filled, other, tagged⟩ := refuses
  obtain ⟨name, rfl⟩ := Option.ne_none_iff_exists'.mp given
  obtain ⟨own, own_⟩ := Option.ne_none_iff_exists'.mp tagged
  have different : name ≠ own := by
    intro same
    exact other (by rw [own_, same])
  refine ⟨name, own, rfl, own_, ?_⟩
  rw [conflict?, known_name_kept (some name) filled, own_]
  simp [different]

theorem empty_exact : s.isEmpty = true ↔ s.size = 0 :=
  List.isEmpty_iff.trans List.length_eq_zero_iff.symm

theorem search_empty (none : s.size = 0) : s.search query k tag = .ok [] := by
  rw [search, if_pos (s.empty_exact.mpr none)]

theorem search_misfit (some_ : s.size ≠ 0) (misfit : query.length ≠ s.dim) :
    s.search query k tag = .error (.dimensionMismatch query.length s.dim) := by
  rw [search, if_neg fun none => some_ (s.empty_exact.mp none), if_pos misfit]

theorem search_fitting (some_ : s.size ≠ 0) (fits : query.length = s.dim) :
    s.search query k tag =
      match s.conflict? tag with
      | some e => .error e
      | none => .ok ((s.ranked query).take k) := by
  rw [search, if_neg fun none => some_ (s.empty_exact.mp none), if_neg (not_not.mpr fits)]
  rfl

end Searching

section Exact

variable (query : Vector32) (tag : Option String)

/-- A search of a store with something in it finds the nearest rows, each with its own document and
distance, and of more that are asked for the first are the same. Only a query of another dimension, and
then one under another name, is refused; where nothing is stored nothing is found. -/
theorem search_finds_nearest (valid : s.Valid) :
    (s.size = 0 → ∀ k, s.search query k tag = .ok []) ∧
    (s.size ≠ 0 → query.length ≠ s.dim →
      ∀ k, s.search query k tag = .error (.dimensionMismatch query.length s.dim)) ∧
    (s.size ≠ 0 → query.length = s.dim → ¬ s.Admits tag →
      ∃ name own, tag = some name ∧ s.embedder = some own ∧
        ∀ k, s.search query k tag = .error (.embedderMismatch name own)) ∧
    (s.size ≠ 0 → query.length = s.dim → s.Admits tag →
      ∃ found : Nat → List Hit,
        (∀ k, s.search query k tag = .ok (found k) ∧ s.Nearest query k (found k)) ∧
        ∀ k k', k ≤ k' → found k <+: found k') := by
  refine ⟨?_, ?_, ?_, ?_⟩
  · intro none k
    exact search_empty s query k tag none
  · intro some_ misfit k
    exact search_misfit s query k tag some_ misfit
  · intro some_ fits refuses
    obtain ⟨name, own, given, tagged, conflict⟩ := refuses_conflict s tag refuses
    refine ⟨name, own, given, tagged, ?_⟩
    intro k
    rw [search_fitting s query k tag some_ fits, conflict]
  · intro some_ fits admits
    refine ⟨fun k => (s.ranked query).take k, ?_, ?_⟩
    · intro k
      constructor
      · rw [search_fitting s query k tag some_ fits, admits_peace s tag admits]
      · exact ranked_nearest s query valid k
    · intro k k' fewer
      exact List.take_prefix_take_left fewer

def tied : Store where
  dim := 1
  vectors := [.ofNat 2, .ofNat 1, .ofNat 2]
  documents := [{ source := "a" }, { source := "b" }, { source := "c" }]
  embedder := some "m"

theorem search_finds_nearest_tied :
    (∃ found : Nat → List Hit,
      (∀ k, tied.search [.ofNat 0] k (some "m") = .ok (found k) ∧
        tied.Nearest [.ofNat 0] k (found k)) ∧
      (found 1).map Hit.position = [1] ∧ found 1 <+: found 3) ∧
      tied.search [.ofNat 0] 2 (some "n") = .error (.embedderMismatch "n" "m") ∧
      tied.search [] 2 (some "n") = .error (.dimensionMismatch 0 1) := by
  have valid : tied.Valid := ⟨rfl, by decide, by decide, by decide⟩
  refine ⟨?_, ?_, ?_⟩
  · obtain ⟨-, -, -, finds⟩ := search_finds_nearest tied [.ofNat 0] (some "m") valid
    obtain ⟨found, each, grows⟩ := finds (by decide) rfl (by decide)
    refine ⟨found, each, ?_, grows 1 3 (by decide)⟩
    have nearest := (each 1).2
    obtain ⟨hit, only⟩ := List.length_eq_one_iff.mp nearest.count
    rw [only] at nearest ⊢
    have inside : hit.position < 3 :=
      (List.getElem?_eq_some_iff.mp (nearest.own hit List.mem_cons_self).1).1
    -- no row is nearer than the one in the middle
    have far : ∀ position < 3, ¬ (squaredDistance (tied.row position) [.ofNat 0]).orderKey <
        (squaredDistance (tied.row 1) [.ofNat 0]).orderKey := by
      decide +kernel
    have different : ∀ position < 3, squaredDistance (tied.row position) [.ofNat 0] =
        squaredDistance (tied.row 1) [.ofNat 0] → position = 1 := by
      decide +kernel
    by_contra other
    have absent : 1 ∉ [hit].map Hit.position := by
      simpa [eq_comm] using other
    rcases nearest.others 1 (by decide) absent hit List.mem_cons_self with before | ⟨same, -⟩
    · apply far hit.position inside
      rw [← (nearest.own hit List.mem_cons_self).2.2]
      exact (Single.order_key_below _ _).mpr before
    · have here := different hit.position inside
        ((nearest.own hit List.mem_cons_self).2.2.symm.trans same)
      exact other (by simp [here])
  · obtain ⟨-, -, refused, -⟩ := search_finds_nearest tied [.ofNat 0] (some "n") valid
    obtain ⟨name, own, same, tagged, fails⟩ := refused (by decide) rfl (by decide)
    cases same
    cases tagged
    exact fails 2
  · obtain ⟨-, misfit, -⟩ := search_finds_nearest tied [] (some "n") valid
    exact misfit (by decide) (by decide) 2

end Exact

end Store

end CodeReview
