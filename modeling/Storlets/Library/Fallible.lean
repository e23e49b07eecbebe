import Mathlib.Data.List.Forall2

set_option autoImplicit false

/-!
# Computations that may raise
-/

universe u v

namespace Fallible

variable {ε : Type u} {α β : Type v}

theorem bind_eq_ok {first : Except ε α} {next : α → Except ε β} {final : β}
    (ends : first >>= next = .ok final) : ∃ value, first = .ok value ∧ next value = .ok final := by
  cases first with
  | error exception => cases ends
  | ok value => exact ⟨value, rfl, ends⟩

/-- A loop that ends has done each of its steps. -/
theorem forall₂_of_mapM {step : α → Except ε β} {items : List α} {results : List β}
    (ends : items.mapM step = .ok results) :
    List.Forall₂ (fun item result => step item = .ok result) items results := by
  induction items generalizing results with
  | nil =>
    obtain rfl := Except.ok.inj ends
    exact .nil
  | cons item rest ih =>
    rw [List.mapM_cons] at ends
    obtain ⟨result, here, ends⟩ := bind_eq_ok ends
    obtain ⟨others, later, ends⟩ := bind_eq_ok ends
    obtain rfl := Except.ok.inj ends
    exact .cons here (ih later)

/-- A loop each of whose steps returns. -/
theorem mapM_of_forall {step : α → Except ε β} {result : α → β} {items : List α}
    (each : ∀ item ∈ items, step item = .ok (result item)) :
    items.mapM step = .ok (items.map result) := by
  induction items with
  | nil => rfl
  | cons item rest ih =>
    obtain ⟨here, later⟩ := List.forall_mem_cons.mp each
    rw [List.mapM_cons, here, ih later]
    rfl

end Fallible
