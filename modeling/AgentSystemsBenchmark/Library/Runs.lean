import Mathlib

/-!
# Finite runs of labelled step relations

A run lists the labels of its steps in order. An invariant of one step is an
invariant of every run; restricting the step relation restricts the runs, so a
property that needs a condition at each step is stated over the restricted
relation.
-/

namespace Runs

universe u v
variable {σ : Type u} {ι : Type v}

inductive Run (step : σ → ι → σ → Prop) : σ → List ι → σ → Prop where
  | nil (s : σ) : Run step s [] s
  | snoc {s t u} {labels} {i} :
      Run step s labels t → step t i u → Run step s (labels ++ [i]) u

variable {labels : List ι} {s : σ}

/-- A property that holds at the start and survives each step holds at the end. -/
theorem Run.invariant {step : σ → ι → σ → Prop} {P : σ → Prop}
    (preserved : ∀ s i t, P s → step s i t → P t) {t : σ}
    (run : Run step s labels t) (start : P s) : P t := by
  induction run with
  | nil => exact start
  | snoc _ last ih => exact preserved _ _ _ ih last

/-- A deterministic system has exactly one run for each list of labels. -/
theorem Run.foldl (step : σ → ι → σ) (s : σ) (labels : List ι) :
    Run (fun before i after => after = step before i) s labels (labels.foldl step s) := by
  induction labels using List.reverseRecOn with
  | nil => exact .nil s
  | append_singleton labels i ih =>
    rw [List.foldl_append]
    exact .snoc ih rfl

/-- The step of a deterministic system, where a condition on the state before it holds. -/
def Guarded (step : σ → ι → σ) (ok : σ → ι → Bool) (s : σ) (i : ι) (t : σ) : Prop :=
  t = step s i ∧ ok s i = true

variable {step : σ → ι → σ} {ok : σ → ι → Bool}

theorem Run.unguarded {t : σ} (run : Run (Guarded step ok) s labels t) :
    Run (fun before i after => after = step before i) s labels t := by
  induction run with
  | nil => exact .nil _
  | snoc _ last ih => exact .snoc ih last.1

/-- The condition holds at every step of the run these labels describe. -/
def allows (step : σ → ι → σ) (ok : σ → ι → Bool) : σ → List ι → Bool
  | _, [] => true
  | s, i :: labels => ok s i && allows step ok (step s i) labels

theorem Run.cons {step : σ → ι → σ → Prop} {t u : σ} {i : ι}
    (first : step s i t) (run : Run step t labels u) : Run step s (i :: labels) u := by
  induction run with
  | nil => exact .snoc (.nil s) first
  | snoc _ last ih => exact .snoc ih last

theorem Run.of_allows (h : allows step ok s labels = true) :
    Run (Guarded step ok) s labels (labels.foldl step s) := by
  induction labels generalizing s with
  | nil => exact .nil s
  | cons i labels ih =>
    rw [allows, Bool.and_eq_true] at h
    exact .cons ⟨rfl, h.1⟩ (ih h.2)

/-- What survives each permitted step holds after any permitted labels. -/
theorem allows_invariant {P : σ → Prop}
    (preserved : ∀ s i, P s → ok s i = true → P (step s i))
    (h : allows step ok s labels = true) (start : P s) : P (labels.foldl step s) := by
  refine Run.invariant ?_ (Run.of_allows h) start
  rintro s i _ held ⟨rfl, permitted⟩
  exact preserved s i held permitted

end Runs
