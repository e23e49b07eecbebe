import Mathlib.Data.Finset.Card
import Storlets.Library.PyDict

set_option autoImplicit false

/-!
# The descriptor table of a process

Each open descriptor belongs to somebody. A new one gets the lowest free number.
-/

namespace Descriptors

variable {O : Type}

/-- The open descriptors, each with its owner. -/
abbrev Table (O : Type) := PyDict Nat O

def lowestFree (table : Table O) : Nat :=
  ((List.range (table.keys.length + 1)).find? fun fd => fd ∉ table.keys).getD table.keys.length

/-- Among one number more than there are descriptors one is free. -/
theorem lowestFree_fresh (table : Table O) : table.get? (lowestFree table) = none := by
  have free : ∃ fd ∈ List.range (table.keys.length + 1), fd ∉ table.keys := by
    by_contra taken
    have inside : Finset.range (table.keys.length + 1) ⊆ table.keys.toFinset := by
      intro fd member
      by_contra outside
      apply taken
      exact ⟨fd, by simpa using member, by simpa using outside⟩
    have bound := Finset.card_le_card inside
    have length := table.keys.toFinset_card_le
    rw [Finset.card_range] at bound
    omega
  obtain ⟨fd, found⟩ : ∃ fd, (List.range (table.keys.length + 1)).find?
      (fun fd => fd ∉ table.keys) = some fd := by
    obtain ⟨fd, listed, outside⟩ := free
    apply Option.isSome_iff_exists.mp
    rw [List.find?_isSome]
    exact ⟨fd, listed, by simpa using outside⟩
  have outside : fd ∉ table.keys := by simpa using List.find?_some found
  rw [lowestFree, found, Option.getD_some]
  rwa [← PyDict.get?_isSome, Option.not_isSome_iff_eq_none] at outside

/-- `open`: the new descriptor, and the table with it. -/
def install (owner : O) (table : Table O) : Nat × Table O :=
  (lowestFree table, table.set (lowestFree table) owner)

theorem get?_install (owner : O) (table : Table O) (fd : Nat) :
    (install owner table).2.get? fd =
      if fd = (install owner table).1 then some owner else table.get? fd :=
  PyDict.get?_set ..

end Descriptors
