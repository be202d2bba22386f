import AgentSystemsBenchmark.Library.Effects

/-!
# Lockstep of a step with its erased copy

`erase` forgets a part of the state that a step may write but should not depend
on. A step is in lockstep at a state when running it and then erasing gives the
result of running it on the erased state: the same value or the same failure.
The rules mirror those of the weakest precondition.
-/

namespace Effects

universe u
variable {ε σ α β : Type u}

/-- The erased run returns what the full run returns, and the full run meets its
postcondition. -/
def lockstep (erase : σ → σ) (x : EStateM ε σ α) (Q : α → σ → Prop) (E : ε → σ → Prop) (s : σ) :
    Prop :=
  match x s with
  | .ok a t => x (erase s) = .ok a (erase t) ∧ Q a t
  | .error e t => x (erase s) = .error e (erase t) ∧ E e t

variable {erase : σ → σ} {E : ε → σ → Prop} {Q : α → σ → Prop} {x : EStateM ε σ α} {s : σ}

namespace lockstep

theorem of_ok (full : x s = .ok a t) (erased : x (erase s) = .ok a (erase t)) (hQ : Q a t) :
    lockstep erase x Q E s := by
  simpa only [lockstep, full] using ⟨erased, hQ⟩

theorem pure (h : Q a s) : lockstep erase (pure a : EStateM ε σ α) Q E s := ⟨rfl, h⟩

theorem throw (h : E e s) : lockstep erase (throw e : EStateM ε σ α) Q E s := ⟨rfl, h⟩

variable {f : α → EStateM ε σ β}

theorem bind {Q : β → σ → Prop}
    (h : lockstep erase x (fun a t => lockstep erase (f a) Q E t) E s) :
    lockstep erase (x >>= f) Q E s := by
  unfold lockstep at h
  cases hx : x s with
  | error e t =>
    rw [hx] at h
    have full : (x >>= f) s = .error e t := by simp only [Bind.bind, EStateM.bind, hx]
    have erased : (x >>= f) (erase s) = .error e (erase t) := by
      simp only [Bind.bind, EStateM.bind, h.1]
    simpa only [lockstep, full] using ⟨erased, h.2⟩
  | ok a t =>
    rw [hx] at h
    obtain ⟨first, second⟩ := h
    have full : (x >>= f) s = f a t := by simp only [Bind.bind, EStateM.bind, hx]
    have erased : (x >>= f) (erase s) = f a (erase t) := by
      simp only [Bind.bind, EStateM.bind, first]
    unfold lockstep
    rw [full, erased]
    exact second

/-- The first two of three steps taken together. -/
theorem seq {γ : Type u} {g : β → EStateM ε σ γ} {Q : γ → σ → Prop}
    (h : lockstep erase (x >>= f) (fun b t => lockstep erase (g b) Q E t) E s) :
    lockstep erase (x >>= fun a => f a >>= g) Q E s := by
  rw [← bind_assoc]
  exact .bind h

/-- The state may be read where the continuation does not see the erased part. -/
theorem get (blind : k (erase s) = k s) (h : lockstep erase (k s) Q E s) :
    lockstep erase (get >>= k) Q E s := by
  have full : (MonadState.get >>= k) s = k s s := rfl
  have erased : (MonadState.get >>= k) (erase s) = k s (erase s) := by
    rw [← blind]
    rfl
  unfold lockstep at h ⊢
  rw [full, erased]
  exact h

/-- What a lockstep says about the two runs. -/
theorem run (h : lockstep erase x Q E s) :
    (∃ a t, x s = .ok a t ∧ x (erase s) = .ok a (erase t) ∧ Q a t) ∨
      ∃ e t, x s = .error e t ∧ x (erase s) = .error e (erase t) ∧ E e t := by
  unfold lockstep at h
  cases hx : x s with
  | ok a t =>
    rw [hx] at h
    exact .inl ⟨a, t, rfl, h.1, h.2⟩
  | error e t =>
    rw [hx] at h
    exact .inr ⟨e, t, rfl, h.1, h.2⟩

end lockstep

end Effects
