import CodeReview.Model.Provider

/-!
Answers that may be errors: what is known of the steps of a chain from how the whole chain ends. Of answers
that were asked of a provider, the value is what the steps come to one after the other.
-/

namespace CodeReview

section Chains

variable {ε α β : Type}

theorem ok_bind (value : α) (next : α → Except ε β) : (.ok value >>= next) = next value := rfl

theorem bind_ok {first : Except ε α} {next : α → Except ε β} {answer : β}
    (ends : (first >>= next) = .ok answer) : ∃ value, first = .ok value ∧ next value = .ok answer := by
  cases first with
  | error refusal => cases ends
  | ok value => exact ⟨value, rfl, ends⟩

theorem map_error_ok {δ : Type} {first : Except ε α} {change : ε → δ} {answer : α}
    (ends : first.mapError change = .ok answer) : first = .ok answer := by
  cases first with
  | error refusal => cases ends
  | ok value =>
      cases ends
      rfl

end Chains

section Asking

variable {α β : Type}

@[simp] theorem asked_pure_value (a : α) : (pure a : Asked α).value = a := rfl

@[simp] theorem asked_bind_value (x : Asked α) (f : α → Asked β) :
    (x >>= f).value = (f x.value).value := rfl

end Asking

end CodeReview
