import CodeReview.Review.Merge
import Mathlib.Data.List.Induction
import Mathlib.Data.List.Nodup

/-!
What merging makes of a list of findings. Each identity is left once, where it stood first, and the finding
kept for it is the first of its most severe ones. The two facts together determine the result. They are
kept by every finding that is absorbed, so they hold of the findings taken in so far, whatever comes later.
What leads in a part, and what leads among the leaders of the parts, makes it possible to merge in parts.
-/

namespace CodeReview

/-- Among the findings of its identity nothing before it is as severe, and nothing after it more so. -/
def Finding.Leads (kept : Finding) (findings : List Finding) : Prop :=
  ∃ before after, findings = before ++ kept :: after ∧
    (∀ f ∈ before, f.identity = kept.identity → f.severity < kept.severity) ∧
    ∀ f ∈ after, f.identity = kept.identity → ¬ kept.severity < f.severity

structure Merged (findings merged : List Finding) : Prop where
  identities : merged.map Finding.identity = (findings.map Finding.identity).eraseDups
  distinct : (merged.map Finding.identity).Nodup
  leads : ∀ kept ∈ merged, kept.Leads findings

section Severities

theorem severity_irrefl (a : Severity) : ¬ a < a := Nat.lt_irrefl a.rank

theorem severity_same {a b : Severity} (above : ¬ a < b) (below : ¬ b < a) : a = b := by
  have ranks : a.rank = b.rank := Nat.le_antisymm (Nat.not_lt.mp below) (Nat.not_lt.mp above)
  cases a <;> cases b <;> cases ranks <;> rfl

end Severities

section Leading

variable {findings others : List Finding} {kept f : Finding}

theorem leads_member (leads : kept.Leads findings) : kept ∈ findings := by
  obtain ⟨before, after, rfl, -, -⟩ := leads
  simp

/-- No finding of the identity is more severe than the one that leads. -/
theorem leads_maximum (leads : kept.Leads findings) (member : f ∈ findings)
    (same : f.identity = kept.identity) : ¬ kept.severity < f.severity := by
  obtain ⟨before, after, rfl, earlier, later⟩ := leads
  rcases List.mem_append.mp member with first | rest
  · intro more
    exact Nat.lt_asymm more (earlier f first same)
  · rcases List.mem_cons.mp rest with rfl | last
    · exact severity_irrefl _
    · exact later f last same

/-- Further findings take nothing away from one that leads, unless one of them is of its identity and more
severe. -/
theorem leads_append (leads : kept.Leads findings)
    (weaker : ∀ f ∈ others, f.identity = kept.identity → ¬ kept.severity < f.severity) :
    kept.Leads (findings ++ others) := by
  obtain ⟨before, after, rfl, earlier, later⟩ := leads
  refine ⟨before, after ++ others, by simp, earlier, ?_⟩
  intro f member same
  rcases List.mem_append.mp member with old | new
  · exact later f old same
  · exact weaker f new same

theorem leads_behind (leads : kept.Leads others)
    (weaker : ∀ f ∈ findings, f.identity = kept.identity → f.severity < kept.severity) :
    kept.Leads (findings ++ others) := by
  obtain ⟨before, after, rfl, earlier, later⟩ := leads
  refine ⟨findings ++ before, after, by simp, ?_, later⟩
  intro f member same
  rcases List.mem_append.mp member with first | next
  · exact weaker f first same
  · exact earlier f next same

theorem leads_alone (f : Finding) : f.Leads [f] :=
  ⟨[], [], rfl, fun _ none => absurd none List.not_mem_nil, fun _ none => absurd none List.not_mem_nil⟩

theorem leads_later (leads : kept.Leads (findings ++ others)) (absent : kept ∉ findings) :
    ∀ f ∈ findings, f.identity = kept.identity → f.severity < kept.severity := by
  obtain ⟨before, after, split, earlier, -⟩ := leads
  rcases List.append_eq_append_iff.mp split with ⟨between, rfl, -⟩ | ⟨between, rfl, rest⟩
  · intro f member same
    exact earlier f (List.mem_append_left _ member) same
  · cases between with
    | nil =>
        intro f member same
        exact earlier f (by simpa using member) same
    | cons g between =>
        obtain ⟨rfl, -⟩ := List.cons.inj rest
        exact absurd (by simp) absent

theorem leads_unique {other : Finding} (leads : kept.Leads findings) (leads' : other.Leads findings)
    (same : other.identity = kept.identity) : other = kept := by
  obtain ⟨before, after, split, earlier, later⟩ := leads
  obtain ⟨before', after', split', earlier', later'⟩ := leads'
  -- of two that stand apart the first is less severe than the second, and not so
  rw [split] at split'
  rcases List.append_eq_append_iff.mp split' with ⟨between, rfl, rest⟩ | ⟨between, rfl, rest⟩
  · cases between with
    | nil => exact (List.cons.inj rest).1.symm
    | cons g between =>
        obtain ⟨rfl, rfl⟩ := List.cons.inj rest
        have less := earlier' kept (by simp) same.symm
        exact absurd less (later other (by simp) same)
  · cases between with
    | nil => exact (List.cons.inj rest).1
    | cons g between =>
        obtain ⟨rfl, rfl⟩ := List.cons.inj rest
        have less := earlier other (by simp) same
        exact absurd less (later' kept (by simp) same.symm)

end Leading

section Absorbing

theorem absorb_identities (f : Finding) (merged : List Finding) :
    (f.absorb merged).map Finding.identity =
      if f.identity ∈ merged.map Finding.identity then merged.map Finding.identity
      else merged.map Finding.identity ++ [f.identity] := by
  induction merged with
  | nil => rfl
  | cons kept rest ih =>
      by_cases same : kept.identity = f.identity
      · rw [Finding.absorb, if_pos same]
        split <;> simp [same]
      · have other : ¬ f.identity = kept.identity := fun h => same h.symm
        rw [Finding.absorb, if_neg same, List.map_cons, ih]
        simp only [List.map_cons, List.mem_cons, other, false_or]
        split <;> rfl

theorem absorb_fresh (f : Finding) (merged : List Finding)
    (fresh : f.identity ∉ merged.map Finding.identity) : f.absorb merged = merged ++ [f] := by
  induction merged with
  | nil => rfl
  | cons kept rest ih =>
      obtain ⟨other, more⟩ := List.ne_and_not_mem_of_not_mem_cons fresh
      rw [Finding.absorb, if_neg other.symm, ih more, List.cons_append]

/-- What is there after a finding was absorbed: the findings of before that it does not outdo, and the
finding itself if it outdoes one or is the first of its identity. -/
theorem absorb_member (f kept : Finding) (merged : List Finding)
    (distinct : (merged.map Finding.identity).Nodup) (member : kept ∈ f.absorb merged) :
    (kept ∈ merged ∧ (f.identity = kept.identity → ¬ kept.severity < f.severity)) ∨
      kept = f ∧ (f.identity ∉ merged.map Finding.identity ∨
        ∃ old ∈ merged, old.identity = f.identity ∧ old.severity < f.severity) := by
  induction merged with
  | nil => exact .inr ⟨List.mem_singleton.mp member, .inl List.not_mem_nil⟩
  | cons old rest ih =>
      obtain ⟨fresh, others⟩ := List.nodup_cons.mp distinct
      by_cases same : old.identity = f.identity
      · -- the rest is not looked at, and nothing in it has the identity
        rw [Finding.absorb, if_pos same] at member
        rcases List.mem_cons.mp member with first | later
        · split at first
          · next less => exact .inr ⟨first, .inr ⟨old, List.mem_cons_self, same, less⟩⟩
          · next notLess =>
              subst first
              exact .inl ⟨List.mem_cons_self, fun _ => notLess⟩
        · refine .inl ⟨List.mem_cons_of_mem old later, fun again => absurd ?_ fresh⟩
          rw [same, again]
          exact List.mem_map_of_mem later
      · rw [Finding.absorb, if_neg same] at member
        rcases List.mem_cons.mp member with rfl | later
        · exact .inl ⟨List.mem_cons_self, fun again => absurd again.symm same⟩
        · rcases ih others later with ⟨there, weaker⟩ | ⟨rfl, absent | ⟨outdone, there, facts⟩⟩
          · exact .inl ⟨List.mem_cons_of_mem old there, weaker⟩
          · refine .inr ⟨rfl, .inl ?_⟩
            simpa [Ne.symm same] using absent
          · exact .inr ⟨rfl, .inr ⟨outdone, List.mem_cons_of_mem old there, facts⟩⟩

theorem erase_dups_append (ids : List (String × Nat × String)) (id : String × Nat × String) :
    (ids ++ [id]).eraseDups = if id ∈ ids then ids.eraseDups else ids.eraseDups ++ [id] := by
  rw [List.eraseDups_append]
  split
  · next known => simp [List.removeAll, known]
  · next new => simp [List.removeAll, new, List.eraseDups_cons]

theorem merged_nil : Merged [] [] := ⟨rfl, List.nodup_nil, fun kept member => by cases member⟩

theorem absorb_merged (f : Finding) (findings merged : List Finding) (so : Merged findings merged) :
    Merged (findings ++ [f]) (f.absorb merged) := by
  obtain ⟨identities, distinct, leads⟩ := so
  have known : f.identity ∈ merged.map Finding.identity ↔ f.identity ∈ findings.map Finding.identity := by
    rw [identities, List.mem_eraseDups]
  refine ⟨?_, ?_, ?_⟩
  · rw [absorb_identities, List.map_append, List.map_singleton, erase_dups_append]
    simp only [known]
    rw [identities]
  · rw [absorb_identities]
    split
    · exact distinct
    · next absent =>
        rw [List.nodup_append]
        refine ⟨distinct, by simp, ?_⟩
        rintro id member _ new rfl
        exact absent (List.mem_singleton.mp new ▸ member)
  · intro kept member
    rcases absorb_member f kept merged distinct member with ⟨there, weaker⟩ | ⟨rfl, reason⟩
    · apply leads_append (leads kept there)
      intro g last
      rw [List.mem_singleton.mp last]
      exact weaker
    · apply leads_behind (leads_alone kept)
      intro g old same
      rcases reason with absent | ⟨outdone, there, alike, less⟩
      · exact absurd (same ▸ List.mem_map_of_mem old) (mt known.mpr absent)
      · have most := leads_maximum (leads outdone there) old (same.trans alike.symm)
        exact Nat.lt_of_le_of_lt (Nat.not_lt.mp most) less

theorem merge_merged (findings : List Finding) : Merged findings (merge findings) := by
  have run : ∀ rest done merged, Merged done merged →
      Merged (done ++ rest) (rest.foldl (fun merged f => f.absorb merged) merged) := by
    intro rest
    induction rest with
    | nil =>
        intro done merged so
        simpa using so
    | cons f rest ih =>
        intro done merged so
        simpa using ih (done ++ [f]) (f.absorb merged) (absorb_merged f done merged so)
  exact run findings [] [] merged_nil

end Absorbing

section Results

theorem merge_identities (findings : List Finding) :
    (merge findings).map Finding.identity = (findings.map Finding.identity).eraseDups :=
  (merge_merged findings).identities

/-- Every finding is still there under its identity, as severe as it was or more. -/
theorem merge_keeps (findings : List Finding) (f : Finding) (member : f ∈ findings) :
    ∃ kept ∈ merge findings, kept.identity = f.identity ∧ ¬ kept.severity < f.severity := by
  have there : f.identity ∈ (merge findings).map Finding.identity := by
    rw [merge_identities, List.mem_eraseDups]
    exact List.mem_map_of_mem member
  obtain ⟨kept, keptMember, same⟩ := List.mem_map.mp there
  exact ⟨kept, keptMember, same,
    leads_maximum ((merge_merged findings).leads kept keptMember) member same.symm⟩

theorem merged_unique (findings : List Finding) : ∀ merged other : List Finding,
    merged.map Finding.identity = other.map Finding.identity →
    (∀ kept ∈ merged, kept.Leads findings) → (∀ kept ∈ other, kept.Leads findings) → merged = other
  | [], [], _, _, _ => rfl
  | kept :: merged, kept' :: other, same, leads, leads' => by
      obtain ⟨first, rest⟩ := List.cons.inj same
      have head := leads_unique (leads' kept' List.mem_cons_self) (leads kept List.mem_cons_self) first
      rw [head, merged_unique findings merged other rest
        (fun k member => leads k (List.mem_cons_of_mem _ member))
        (fun k member => leads' k (List.mem_cons_of_mem _ member))]

/-- Merging groups findings by identity, in the order in which the identities first stand, and keeps the
first of the most severe ones of each, as it is. It is the only list of which both are true. -/
theorem merge_groups (findings : List Finding) :
    (merge findings).map Finding.identity = (findings.map Finding.identity).eraseDups ∧
      (∀ kept ∈ merge findings, kept.Leads findings) ∧
      (∀ merged : List Finding,
        merged.map Finding.identity = (findings.map Finding.identity).eraseDups →
        (∀ kept ∈ merged, kept.Leads findings) → merged = merge findings) ∧
      ((merge findings).map Finding.identity).Nodup ∧
      (∀ f ∈ findings, ∃ kept ∈ merge findings, kept.identity = f.identity) ∧
      (∀ kept ∈ merge findings, kept ∈ findings ∧
        ∀ f ∈ findings, f.identity = kept.identity → f.severity.rank ≤ kept.severity.rank) := by
  obtain ⟨identities, distinct, leads⟩ := merge_merged findings
  refine ⟨identities, leads, ?_, distinct, ?_, ?_⟩
  · intro merged same leading
    exact merged_unique findings merged _ (same.trans identities.symm) leading leads
  · intro f member
    obtain ⟨kept, there, same, -⟩ := merge_keeps findings f member
    exact ⟨kept, there, same⟩
  · intro kept member
    refine ⟨leads_member (leads kept member), ?_⟩
    intro f there same
    exact Nat.not_lt.mp (leads_maximum (leads kept member) there same)

theorem merge_distinct (findings : List Finding) (distinct : (findings.map Finding.identity).Nodup) :
    merge findings = findings := by
  induction findings using List.reverseRecOn with
  | nil => rfl
  | append_singleton findings f ih =>
      rw [List.map_append, List.map_singleton, List.nodup_append] at distinct
      obtain ⟨before, -, apart⟩ := distinct
      have fresh : f.identity ∉ findings.map Finding.identity :=
        fun member => apart _ member _ List.mem_cons_self rfl
      have kept := ih before
      rw [merge] at kept
      rw [merge, List.foldl_append, kept]
      exact absorb_fresh f findings fresh

example :
    (merge [.lint "a.py" 1 .info "x", .lint "b.py" 2 .info "y", .llm "a.py" 1 .critical " x "]).map
      (fun f => (f.filename, f.source)) = [("a.py", .llm), ("b.py", .lint)] := by decide +kernel

end Results

section Parts

variable (xs ys : List Finding)

/-- What leads when two parts were merged first leads in the parts themselves. -/
theorem leads_parts (kept : Finding) (leads : kept.Leads (merge xs ++ merge ys)) :
    kept.Leads (xs ++ ys) := by
  -- the finding of a part that has the identity stands for all of that part
  have most : ∀ part : List Finding, ∀ f ∈ part, f.identity = kept.identity →
      ∃ best ∈ merge part, best.identity = kept.identity ∧ ¬ best.severity < f.severity := by
    intro part f member same
    obtain ⟨best, there, alike, least⟩ := merge_keeps part f member
    exact ⟨best, there, alike.trans same, least⟩
  by_cases first : kept ∈ merge xs
  · apply leads_append ((merge_merged xs).leads kept first)
    intro f member same more
    obtain ⟨best, there, alike, least⟩ := most ys f member same
    have top := leads_maximum leads (List.mem_append_right _ there) alike
    exact least (Nat.lt_of_le_of_lt (Nat.not_lt.mp top) more)
  · have second : kept ∈ merge ys := (List.mem_append.mp (leads_member leads)).resolve_left first
    apply leads_behind ((merge_merged ys).leads kept second)
    intro f member same
    obtain ⟨best, there, alike, least⟩ := most xs f member same
    exact Nat.lt_of_le_of_lt (Nat.not_lt.mp least) (leads_later leads first best there alike)

theorem erase_dups_twice (ids : List (String × Nat × String)) : ids.eraseDups.eraseDups = ids.eraseDups := by
  induction ids using List.reverseRecOn with
  | nil => rfl
  | append_singleton ids id ih =>
      rw [erase_dups_append]
      split
      · exact ih
      · next new => rw [erase_dups_append, if_neg (mt List.mem_eraseDups.mp new), ih]

theorem erase_dups_parts (first second : List (String × Nat × String)) :
    (first.eraseDups ++ second.eraseDups).eraseDups = (first ++ second).eraseDups := by
  induction second using List.reverseRecOn with
  | nil => simpa using erase_dups_twice first
  | append_singleton second id ih =>
      rw [← List.append_assoc, erase_dups_append second, erase_dups_append (first ++ second)]
      by_cases known : id ∈ second
      · rw [if_pos known, if_pos (List.mem_append_right _ known), ih]
      · rw [if_neg known, ← List.append_assoc, erase_dups_append, ih]
        simp only [List.mem_append, List.mem_eraseDups]

theorem merge_append : merge (xs ++ ys) = merge (merge xs ++ merge ys) := by
  refine (merged_unique (xs ++ ys) _ _ ?_ ?_ (merge_merged (xs ++ ys)).leads).symm
  · rw [merge_identities, merge_identities, List.map_append, List.map_append, merge_identities,
      merge_identities, erase_dups_parts]
  · intro kept member
    exact leads_parts xs ys kept ((merge_merged _).leads kept member)

theorem merge_twice : merge (merge xs) = merge xs := by
  have parts := merge_append xs []
  simpa [merge] using parts.symm

/-- An identity is left with a severity exactly when that is the greatest there was for it. -/
theorem merge_pair (id : String × Nat × String) (severity : Severity) :
    (id, severity) ∈ (merge xs).map (fun f => (f.identity, f.severity)) ↔
      (∃ f ∈ xs, f.identity = id ∧ f.severity = severity) ∧
        ∀ f ∈ xs, f.identity = id → ¬ severity < f.severity := by
  constructor
  · intro pair
    obtain ⟨kept, there, same⟩ := List.mem_map.mp pair
    obtain ⟨rfl, rfl⟩ := Prod.mk.inj same
    have leads := (merge_merged xs).leads kept there
    exact ⟨⟨kept, leads_member leads, rfl, rfl⟩, fun f member alike => leads_maximum leads member alike⟩
  · rintro ⟨⟨f, member, rfl, rfl⟩, greatest⟩
    obtain ⟨kept, there, same, least⟩ := merge_keeps xs f member
    have among := leads_member ((merge_merged xs).leads kept there)
    rw [← same, ← severity_same least (greatest kept among same)]
    exact List.mem_map_of_mem there

theorem merge_pairs_distinct : ((merge xs).map fun f => (f.identity, f.severity)).Nodup := by
  apply List.Nodup.of_map Prod.fst
  rw [List.map_map]
  exact (merge_merged xs).distinct

theorem merge_flatten (parts : List (List Finding)) :
    merge parts.flatten = merge (parts.flatMap merge) := by
  induction parts with
  | nil => rfl
  | cons part parts ih =>
      calc merge (part :: parts).flatten
          = merge (merge part ++ merge (parts.flatMap merge)) := by
            rw [List.flatten_cons, merge_append, ih]
        _ = merge (merge (merge part) ++ merge (parts.flatMap merge)) := by rw [merge_twice part]
        _ = merge ((part :: parts).flatMap merge) := by rw [← merge_append, List.flatMap_cons]

theorem merge_reordered (order : xs.Perm ys) :
    ((merge xs).map fun f => (f.identity, f.severity)).Perm
      ((merge ys).map fun f => (f.identity, f.severity)) := by
  rw [List.perm_ext_iff_of_nodup (merge_pairs_distinct xs) (merge_pairs_distinct ys)]
  rintro ⟨id, severity⟩
  rw [merge_pair, merge_pair]
  simp only [order.mem_iff]

/-- A list may be merged in parts, and what was merged already stays as it is. In another order the same
identities are left with the same severities. -/
theorem merge_in_parts :
    (∀ xs ys : List Finding, merge (xs ++ ys) = merge (merge xs ++ merge ys)) ∧
      (∀ xs : List Finding, merge (merge xs) = merge xs) ∧
      (∀ parts : List (List Finding), merge parts.flatten = merge (parts.flatMap merge)) ∧
      ∀ xs ys : List Finding, xs.Perm ys →
        ((merge xs).map fun f => (f.identity, f.severity)).Perm
          ((merge ys).map fun f => (f.identity, f.severity)) :=
  ⟨merge_append, merge_twice, merge_flatten, merge_reordered⟩

/-- Of two findings that are as severe the other one is kept when their order changes. -/
theorem merge_in_parts_reversed :
    [Finding.lint "a.py" 1 .info "x", .llm "a.py" 1 .info "x "].Perm
        [.llm "a.py" 1 .info "x ", .lint "a.py" 1 .info "x"] ∧
      merge [Finding.lint "a.py" 1 .info "x", .llm "a.py" 1 .info "x "] ≠
        merge [.llm "a.py" 1 .info "x ", .lint "a.py" 1 .info "x"] ∧
      ((merge [Finding.lint "a.py" 1 .info "x", .llm "a.py" 1 .info "x "]).map
          fun f => (f.identity, f.severity)).Perm
        ((merge [Finding.llm "a.py" 1 .info "x ", .lint "a.py" 1 .info "x"]).map
          fun f => (f.identity, f.severity)) :=
  ⟨List.Perm.swap _ _ _, by decide +kernel, merge_in_parts.2.2.2 _ _ (List.Perm.swap _ _ _)⟩

end Parts

end CodeReview
