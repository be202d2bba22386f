import Mathlib

/-!
# Checked machine amounts and finite maps of amounts

Sums and differences of 64-bit amounts that report when the exact result does
not fit, and the total of what a finite map holds. A map that gains an entry
under a fresh key gains its amount; a map that loses an entry loses its amount.
-/

namespace Accounts

def checkedAdd (a b : UInt64) : Option UInt64 :=
  if a.toNat + b.toNat < 2 ^ 64 then some (a + b) else none

def checkedSub (a b : UInt64) : Option UInt64 :=
  if b ≤ a then some (a - b) else none

variable {a b : UInt64}

theorem checkedAdd_eq_some (fits : a.toNat + b.toNat < 2 ^ 64) :
    checkedAdd a b = some (a + b) :=
  if_pos fits

theorem checkedSub_eq_some (within : b ≤ a) : checkedSub a b = some (a - b) :=
  if_pos within

theorem toNat_add_of_fits (fits : a.toNat + b.toNat < 2 ^ 64) :
    (a + b).toNat = a.toNat + b.toNat := by
  rw [UInt64.toNat_add, Nat.mod_eq_of_lt fits]

theorem toNat_sub_add (within : b ≤ a) : (a - b).toNat + b.toNat = a.toNat := by
  have exact_difference := UInt64.toNat_sub_of_le a b within
  have ordered := UInt64.le_iff_toNat_le.mp within
  omega

/-- A sum that was reported is exact. -/
theorem toNat_of_checkedAdd (h : checkedAdd a b = some c) : c.toNat = a.toNat + b.toNat := by
  rw [checkedAdd] at h
  split at h
  case isTrue fits =>
    cases h
    exact toNat_add_of_fits fits
  case isFalse => cases h

section Totals
universe u v
variable {κ : Type u} {β : Type v} [DecidableEq κ]

/-- The sum of an amount over the entries of a map. -/
def total (amount : β → Nat) (m : Finmap fun _ : κ => β) : Nat :=
  (m.entries.map fun entry => amount entry.2).sum

omit [DecidableEq κ] in
@[simp] theorem total_empty (amount : β → Nat) : total amount (∅ : Finmap fun _ : κ => β) = 0 := rfl

variable {m : Finmap fun _ : κ => β}

theorem total_insert (amount : β → Nat) (value : β) (fresh : key ∉ m) :
    total amount (m.insert key value) = amount value + total amount m := by
  simp [total, Finmap.entries_insert_of_notMem fresh]

/-- Putting back what was taken out restores the map. -/
theorem insert_erase (found : m.lookup key = some value) : (m.erase key).insert key value = m := by
  apply Finmap.ext_lookup
  intro other
  by_cases same : other = key
  · subst same
    rw [Finmap.lookup_insert, found]
  · rw [Finmap.lookup_insert_of_ne _ same, Finmap.lookup_erase_ne same]

theorem total_erase (amount : β → Nat) (found : m.lookup key = some value) :
    total amount m = amount value + total amount (m.erase key) := by
  rw [← total_insert amount value Finmap.notMem_erase_self, insert_erase found]

end Totals

end Accounts
