import Mathlib

/-!
# Justified histories

A history is the list of what happened, oldest first. It is justified when every entry
of it is, by the entries before it.
-/

namespace Histories

variable {κ : Type}

/-- Every entry of the history is justified by the entries before it. -/
def Justified (P : List κ → κ → Prop) (history : List κ) : Prop :=
  ∀ earlier entry later, history = earlier ++ entry :: later → P earlier entry

theorem Justified.nil (P : List κ → κ → Prop) : Justified P [] := by
  intro earlier entry later h
  cases earlier <;> cases h

variable {P : List κ → κ → Prop} {history : List κ}

/-- A history with one entry more is justified when it was and the entry is. -/
theorem justified_snoc {entry : κ} :
    Justified P (history ++ [entry]) ↔ Justified P history ∧ P history entry := by
  constructor
  · intro whole
    refine ⟨fun earlier e later h =>
      whole earlier e (later ++ [entry]) ?_, whole history entry [] rfl⟩
    rw [h, List.append_assoc, List.cons_append]
  · rintro ⟨old, new⟩ earlier e later h
    rcases List.eq_nil_or_concat later with rfl | ⟨rest, last, rfl⟩
    · obtain ⟨rfl, same⟩ := List.append_inj' h rfl
      obtain rfl : entry = e := by simpa using same
      exact new
    · have tails : history ++ [entry] = (earlier ++ e :: rest) ++ [last] := by simpa using h
      obtain ⟨shorter, _⟩ := List.append_inj' tails rfl
      exact old earlier e rest shorter

theorem Justified.snoc {entry : κ} (old : Justified P history) (new : P history entry) :
    Justified P (history ++ [entry]) :=
  justified_snoc.mpr ⟨old, new⟩

/-- Entries that need no justification can be added in any number. -/
theorem Justified.append {added : List κ}
    (old : Justified P history) (free : ∀ entry ∈ added, ∀ earlier, P earlier entry) :
    Justified P (history ++ added) := by
  induction added generalizing history with
  | nil => rwa [List.append_nil]
  | cons entry rest ih =>
    rw [List.append_cons]
    exact ih (old.snoc (free entry (List.mem_cons_self ..) history))
      fun later mem => free later (List.mem_cons_of_mem _ mem)

end Histories
