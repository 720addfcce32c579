import CodeReview.Proofs.Text.Trimming
import Mathlib.Data.List.TakeDrop

/-!
What a text begins with, and which words are inside it. A lead of one kind of characters ends where the
first of another kind stands. A word is found on one side of any characters that are not in it.
-/

namespace CodeReview.Text

section Leading

variable {p : Char → Bool} {lead lead' rest rest' : List Char}

theorem span_lead (each : ∀ c ∈ lead, p c = true) (stops : ∀ c ∈ rest.head?, p c = false) :
    (lead ++ rest).span p = (lead, rest) := by
  rw [List.span_eq_takeWhile_dropWhile, List.takeWhile_append_of_pos each,
    List.dropWhile_append_of_pos each]
  cases rest with
  | nil => simp
  | cons c rest =>
      have stop := stops c rfl
      simp [stop]

theorem span_parts {cs : List Char} (spans : cs.span p = (lead, rest)) :
    cs = lead ++ rest ∧ (∀ c ∈ lead, p c = true) ∧ ∀ c ∈ rest.head?, p c = false := by
  rw [List.span_eq_takeWhile_dropWhile] at spans
  obtain ⟨rfl, rfl⟩ := Prod.mk.inj spans
  refine ⟨(List.takeWhile_append_dropWhile ..).symm, fun c member => List.mem_takeWhile_imp member, ?_⟩
  intro c first
  have stopped := List.head?_dropWhile_not p cs
  rw [first] at stopped
  exact stopped

theorem lead_same (each : ∀ c ∈ lead, p c = true) (each' : ∀ c ∈ lead', p c = true)
    (stops : ∀ c ∈ rest.head?, p c = false) (stops' : ∀ c ∈ rest'.head?, p c = false)
    (same : lead ++ rest = lead' ++ rest') : lead = lead' ∧ rest = rest' := by
  have spans := congrArg (List.span p) same
  rw [span_lead each stops, span_lead each' stops'] at spans
  exact Prod.mk.inj spans

theorem drop_lead (lead rest : List Char) : dropLead? (lead ++ rest) lead = some rest := by
  induction lead with
  | nil => cases rest <;> rfl
  | cons c lead ih => simp [dropLead?, ih]

theorem dropped_lead (cs lead rest : List Char) (found : dropLead? cs lead = some rest) :
    cs = lead ++ rest := by
  induction lead generalizing cs with
  | nil => cases cs <;> simpa [dropLead?] using found
  | cons d lead ih =>
      cases cs with
      | nil => cases found
      | cons c cs =>
          rw [dropLead?] at found
          split at found
          · next same =>
              rw [eq_of_beq same, List.cons_append, ih cs found]
          · cases found

theorem no_lead {cs lead : List Char} (other : ¬ lead <+: cs) : dropLead? cs lead = none := by
  cases found : dropLead? cs lead with
  | none => rfl
  | some rest => exact absurd ⟨rest, (dropped_lead _ _ _ found).symm⟩ other

end Leading

section Kinds

theorem blank_no_digit (c : Char) (blank : isBlank c = true) : isDecimalDigit c = false := by
  have low : ∀ n < 14, isDecimalDigit (Char.ofNat n) = false := by decide
  have wide : ∀ i < 11, isDecimalDigit (Char.ofNat (0x2000 + i)) = false := by decide
  have back := Char.ofNat_toNat c
  simp only [isBlank, Bool.or_eq_true, Bool.and_eq_true, beq_iff_eq, decide_eq_true_eq] at blank
  rcases blank with (((((((((rfl | ⟨-, most⟩) | rfl) | rfl) | rfl) | ⟨least, most⟩) | rfl) | rfl) | rfl) |
    rfl) | rfl
  · decide
  · rw [← back]
    exact low c.toNat (Nat.lt_succ_of_le most)
  · decide
  · decide
  · decide
  · have least : 0x2000 ≤ c.toNat := least
    have most : c.toNat ≤ 0x200a := most
    have inside := wide (c.toNat - 0x2000) (by omega)
    rwa [Nat.add_sub_cancel' least, back] at inside
  · decide
  · decide
  · decide
  · decide
  · decide

end Kinds

section Words

variable {word front rest before after : List Char} {c : Char}

/-- A word that begins before a character that is not in it ends before it. -/
theorem word_before (same : front ++ (word ++ rest) = before ++ c :: after) (apart : c ∉ word)
    (early : front.length ≤ before.length) :
    ∃ more, before = front ++ (word ++ more) ∧ rest = more ++ c :: after := by
  obtain ⟨middle, rfl⟩ : front <+: before := by
    refine List.prefix_of_prefix_length_le ?_ (List.prefix_append before (c :: after)) early
    rw [← same]
    exact List.prefix_append front _
  rw [List.append_assoc] at same
  rcases List.append_eq_append_iff.mp (List.append_cancel_left same) with
    ⟨more, rfl, ends⟩ | ⟨left, rfl, ends⟩
  · exact ⟨more, rfl, ends⟩
  · cases left with
    | nil => exact ⟨[], by simp, by simpa using ends.symm⟩
    | cons d left =>
        obtain ⟨rfl, -⟩ := List.cons.inj ends
        exact absurd (by simp) apart

theorem infix_divided (inside : word <:+: before ++ c :: after) (apart : c ∉ word) :
    word <:+: before ∨ word <:+: after := by
  obtain ⟨front, rest, same⟩ := inside
  rw [List.append_assoc] at same
  by_cases early : front.length ≤ before.length
  · obtain ⟨more, rfl, -⟩ := word_before same apart early
    exact .inl (List.infix_append' ..)
  · rcases List.append_eq_append_iff.mp same with ⟨middle, rfl, -⟩ | ⟨middle, rfl, ends⟩
    · exact absurd (by simp) early
    · cases middle with
      | nil => exact absurd (by simp) early
      | cons d middle =>
          obtain ⟨-, rfl⟩ := List.cons.inj ends
          exact .inr (List.infix_append' ..)

theorem infix_beside {between : List Char} (some_ : between ≠ []) (apart : ∀ c ∈ between, c ∉ word)
    (inside : word <:+: before ++ (between ++ after)) : word <:+: before ∨ word <:+: after := by
  induction between generalizing before with
  | nil => exact absurd rfl some_
  | cons c more ih =>
      rcases infix_divided inside (apart c List.mem_cons_self) with first | later
      · exact .inl first
      · cases more with
        | nil => exact .inr later
        | cons d more =>
            have others := fun e member => apart e (List.mem_cons_of_mem c member)
            rcases @ih [] (List.cons_ne_nil d more) others later with none | last
            · exact .inl (List.infix_nil.mp none ▸ List.nil_infix)
            · exact .inr last

theorem starts_with_iff (cs lead : List Char) : startsWith cs lead = true ↔ lead <+: cs := by
  induction lead generalizing cs with
  | nil => cases cs <;> simp [startsWith]
  | cons d lead ih =>
      cases cs with
      | nil => simp [startsWith]
      | cons c cs => rw [startsWith, Bool.and_eq_true, ih, beq_iff_eq, List.cons_prefix_cons, eq_comm]

theorem contains_iff (cs part : List Char) : contains cs part = true ↔ part <:+: cs := by
  induction cs with
  | nil => simp [contains]
  | cons c cs ih => rw [contains, Bool.or_eq_true, ih, starts_with_iff, List.infix_cons_iff]

end Words

end CodeReview.Text
