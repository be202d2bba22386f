import Mathlib

/-!
# Weakest preconditions of state-and-exception steps

A step that may fail keeps the state it has reached, so a postcondition has a
normal part and an abnormal part. The rules below push a postcondition through
the sequencing operators; a proof about a composite step never unfolds the
steps it is composed of.
-/

namespace Effects

open List

universe u
variable {ε σ α β : Type u}

/-- What must hold before `x` for `Q` after a normal return and `E` after a failure. -/
def wp (x : EStateM ε σ α) (Q : α → σ → Prop) (E : ε → σ → Prop) (s : σ) : Prop :=
  match x s with
  | .ok a t => Q a t
  | .error e t => E e t

variable {E : ε → σ → Prop} {x : EStateM ε σ α} {Q : α → σ → Prop} {s : σ}

theorem wp_of_ok (h : x s = .ok a t) (hQ : Q a t) : wp x Q E s := by
  simpa only [wp, h] using hQ

theorem wp_ok (hw : wp x Q E s) (h : x s = .ok a t) : Q a t := by
  simpa only [wp, h] using hw

theorem wp_error (hw : wp x Q E s) (h : x s = .error e t) : E e t := by
  simpa only [wp, h] using hw

/-- Weaken both parts of a postcondition. -/
theorem wp_mono {Q' : α → σ → Prop} {E' : ε → σ → Prop}
    (h : wp x Q E s) (hQ : ∀ a t, Q a t → Q' a t) (hE : ∀ e t, E e t → E' e t) :
    wp x Q' E' s := by
  unfold wp at h ⊢
  cases hx : x s with
  | ok a t => rw [hx] at h; exact hQ a t h
  | error e t => rw [hx] at h; exact hE e t h

/-- Two facts about one step, established apart. -/
theorem wp_and {Q' : α → σ → Prop} {E' : ε → σ → Prop} (h : wp x Q E s) (h' : wp x Q' E' s) :
    wp x (fun a t => Q a t ∧ Q' a t) (fun e t => E e t ∧ E' e t) s := by
  unfold wp at h h' ⊢
  cases hx : x s with
  | ok | error => rw [hx] at h h'; exact ⟨h, h'⟩

theorem wp_trivial (hQ : ∀ a t, Q a t) (hE : ∀ e t, E e t) : wp x Q E s := by
  unfold wp
  cases x s with
  | ok a t => exact hQ a t
  | error e t => exact hE e t

@[simp] theorem wp_pure (a : α) (Q : α → σ → Prop) (E : ε → σ → Prop) (s : σ) :
    wp (pure a : EStateM ε σ α) Q E s ↔ Q a s := Iff.rfl

@[simp] theorem wp_throw (e : ε) (Q : α → σ → Prop) (E : ε → σ → Prop) (s : σ) :
    wp (throw e : EStateM ε σ α) Q E s ↔ E e s := Iff.rfl

@[simp] theorem wp_get (Q : σ → σ → Prop) (E : ε → σ → Prop) (s : σ) :
    wp (get : EStateM ε σ σ) Q E s ↔ Q s s := Iff.rfl

@[simp] theorem wp_set (t : σ) (Q : PUnit → σ → Prop) (E : ε → σ → Prop) (s : σ) :
    wp (set t : EStateM ε σ PUnit) Q E s ↔ Q ⟨⟩ t := Iff.rfl

@[simp] theorem wp_modify (f : σ → σ) (Q : PUnit → σ → Prop) (E : ε → σ → Prop) (s : σ) :
    wp (modify f : EStateM ε σ PUnit) Q E s ↔ Q ⟨⟩ (f s) := Iff.rfl

@[simp] theorem wp_bind (x : EStateM ε σ α) (f : α → EStateM ε σ β)
    (Q : β → σ → Prop) (E : ε → σ → Prop) (s : σ) :
    wp (x >>= f) Q E s ↔ wp x (fun a t => wp (f a) Q E t) E s := by
  simp only [wp, bind, EStateM.bind]
  cases x s <;> rfl

@[simp] theorem wp_ite (c : Prop) [Decidable c] (x y : EStateM ε σ α)
    (Q : α → σ → Prop) (E : ε → σ → Prop) (s : σ) :
    wp (if c then x else y) Q E s ↔ (c → wp x Q E s) ∧ (¬ c → wp y Q E s) := by
  by_cases h : c <;> simp [h]

/-- Sequencing: establish the intermediate assertion, then continue from it. -/
theorem wp_seq {M : α → σ → Prop} {Q : β → σ → Prop} (hx : wp x M E s)
    (hf : ∀ a t, M a t → wp (f a) Q E t) : wp (x >>= f) Q E s :=
  (wp_bind x f Q E s).mpr (wp_mono hx hf fun _ _ h => h)

section Results
universe v
variable {ι : Type u} {γ δ : Type v}

/-- A sequence of checks succeeds exactly when each of them does. -/
theorem bind_eq_ok {x : Except ι γ} {f : γ → Except ι δ} {b : δ} :
    x >>= f = .ok b ↔ ∃ a, x = .ok a ∧ f a = .ok b := by
  cases x with
  | error | ok => simp [bind, Except.bind]

/-- A check, then the rest. -/
theorem seq_eq_ok {x : Except ι PUnit.{v + 1}} {y : Except ι δ} {b : δ} :
    (x >>= fun _ => y) = .ok b ↔ x = .ok ⟨⟩ ∧ y = .ok b := by
  cases x with
  | error e => exact ⟨fun h => (nomatch h), fun h => (nomatch h.1)⟩
  | ok u => exact ⟨fun h => ⟨rfl, h⟩, fun h => h.2⟩

variable {e : ι}

/-- A sequence of checks fails where its first failing check does. -/
theorem bind_eq_error {x : Except ι γ} {f : γ → Except ι δ} :
    x >>= f = .error e ↔ x = .error e ∨ ∃ a, x = .ok a ∧ f a = .error e := by
  cases x with
  | error | ok => simp [bind, Except.bind]

/-- Stop with an error when the condition holds. -/
def refuse (c : Prop) [Decidable c] (e : ι) : Except ι PUnit.{v + 1} :=
  if c then .error e else .ok ⟨⟩

@[simp] theorem refuse_eq_ok {c : Prop} [Decidable c] : refuse c e = .ok u ↔ ¬ c := by
  by_cases h : c <;> simp [refuse, h]

/-- A check that may refuse, then the rest. -/
theorem guard_eq_ok {c : Prop} [Decidable c] :
    (refuse c e >>= fun _ => y) = .ok b ↔ ¬ c ∧ y = .ok b :=
  seq_eq_ok.trans (and_congr_left' refuse_eq_ok)

@[simp] theorem refuse_eq_error {c : Prop} [Decidable c] :
    (refuse c e : Except ι PUnit.{v + 1}) = .error e' ↔ c ∧ e = e' := by
  by_cases h : c <;> simp [refuse, h]

theorem pure_eq_ok : (pure a : Except ι γ) = .ok b ↔ a = b := by
  simp [pure, Except.pure]

/-- A value that must be there. -/
theorem getDM_eq_ok {γ : Type v} {value : Option γ} {a : γ} :
    value.getDM (Except.error e) = .ok a ↔ value = some a := by
  cases value with
  | none => exact ⟨fun h => (nomatch h), fun h => (nomatch h)⟩
  | some b => simp [Option.getDM, pure, Except.pure]

/-- Run a check on each element in turn. -/
def checkAll {κ : Type v} (check : κ → Except ι PUnit.{v + 1}) : List κ → Except ι PUnit.{v + 1}
  | [] => .ok ⟨⟩
  | x :: xs => check x >>= fun _ => checkAll check xs

theorem checkAll_eq_ok {κ : Type v} {check : κ → Except ι PUnit.{v + 1}} {xs : List κ} :
    checkAll check xs = .ok ⟨⟩ ↔ ∀ x ∈ xs, check x = .ok ⟨⟩ := by
  induction xs with
  | nil => simp [checkAll]
  | cons x xs ih =>
    rw [checkAll, bind_eq_ok, forall_mem_cons]
    constructor
    · rintro ⟨⟨⟩, first, rest⟩
      exact ⟨first, ih.mp rest⟩
    · rintro ⟨first, rest⟩
      exact ⟨⟨⟩, first, ih.mpr rest⟩

/-- An invariant of a fold of fallible steps, in terms of the elements it has passed. -/
theorem foldlM_trace {κ τ : Type v} {step : τ → κ → Except ι τ} {P : List κ → τ → Prop}
    (kept : ∀ done x s t, P done s → step s x = .ok t → P (done ++ [x]) t)
    {xs : List κ} {s t : τ} (start : P [] s) (h : xs.foldlM step s = .ok t) : P xs t := by
  have general : ∀ (rest done : List κ) (s : τ), P done s →
      rest.foldlM step s = .ok t → P (done ++ rest) t := by
    intro rest
    induction rest with
    | nil =>
      intro done s held ended
      rw [append_nil]
      exact Except.ok.inj ended ▸ held
    | cons x rest ih =>
      intro done s held ended
      rw [foldlM_cons] at ended
      obtain ⟨next, stepped, ended⟩ := bind_eq_ok.mp ended
      rw [append_cons]
      exact ih (done ++ [x]) next (kept done x s next held stepped) ended
  exact general xs [] s start h

end Results

/-! ## Fallible steps on a state -/

section States
variable {ε σ α β : Type}

theorem run_bind_eq_ok {x : StateT σ (Except ε) α} {f : α → StateT σ (Except ε) β} {s : σ}
    {r : β × σ} : (x >>= f) s = .ok r ↔ ∃ a t, x s = .ok (a, t) ∧ f a t = .ok r := by
  change (x s >>= fun p => f p.1 p.2) = .ok r ↔ _
  rw [bind_eq_ok, Prod.exists]

theorem run_pure_eq_ok {a : α} {s : σ} {r : α × σ} :
    (pure a : StateT σ (Except ε) α) s = .ok r ↔ (a, s) = r := pure_eq_ok

/-- What each step keeps and what it relates, over a list. -/
theorem mapM_related {step : α → StateT σ (Except ε) β} {I : σ → Prop} {R : α → β → Prop}
    {xs : List α} (kept : ∀ x ∈ xs, ∀ s y t, I s → step x s = .ok (y, t) → I t ∧ R x y)
    {ys : List β} {s t : σ} (start : I s) (h : xs.mapM step s = .ok (ys, t)) :
    I t ∧ Forall₂ R xs ys := by
  induction xs generalizing s ys with
  | nil =>
    rw [mapM_nil, run_pure_eq_ok] at h
    cases h
    exact ⟨start, .nil⟩
  | cons x xs ih =>
    obtain ⟨kept, later⟩ := forall_mem_cons.mp kept
    rw [mapM_cons, run_bind_eq_ok] at h
    obtain ⟨y, u, first, h⟩ := h
    obtain ⟨ys, v, rest, h⟩ := run_bind_eq_ok.mp h
    cases run_pure_eq_ok.mp h
    obtain ⟨held, related⟩ := kept s y u start first
    obtain ⟨held, others⟩ := ih later held rest
    exact ⟨held, .cons related others⟩

theorem forall_mem_iff {P : α → Prop} {Q : β → Prop} {xs : List α} {ys : List β}
    (h : Forall₂ (fun x y => Q y ↔ P x) xs ys) : (∀ y ∈ ys, Q y) ↔ ∀ x ∈ xs, P x := by
  induction h with
  | nil => exact ⟨fun _ => nofun, fun _ => nofun⟩
  | cons first _ ih => rw [forall_mem_cons, forall_mem_cons, first, ih]

/-- An invariant of a fold with a state, in terms of the elements it has passed. -/
theorem foldlM_related {step : β → α → StateT σ (Except ε) β} {P : List α → β → σ → Prop}
    (kept : ∀ done x b s c t, P done b s → step b x s = .ok (c, t) → P (done ++ [x]) c t)
    {xs : List α} {b c : β} {s t : σ} (start : P [] b s) (h : xs.foldlM step b s = .ok (c, t)) :
    P xs c t := by
  have general : ∀ (rest done : List α) (b : β) (s : σ), P done b s →
      rest.foldlM step b s = .ok (c, t) → P (done ++ rest) c t := by
    intro rest
    induction rest with
    | nil =>
      intro done b s held ended
      rw [foldlM_nil, run_pure_eq_ok] at ended
      cases ended
      rwa [append_nil]
    | cons x rest ih =>
      intro done b s held ended
      rw [foldlM_cons, run_bind_eq_ok] at ended
      obtain ⟨d, u, stepped, ended⟩ := ended
      rw [append_cons]
      exact ih (done ++ [x]) d u (kept done x b s d u held stepped) ended
  exact general xs [] b s start h

end States

/-- What is found in a map after one key has been written. -/
theorem insert_cases {κ : Type*} [DecidableEq κ] {β : Type*} {m : AList fun _ : κ => β} {k k' : κ}
    {v x : β} (found : (m.insert k v).lookup k' = some x) :
    (k' = k ∧ v = x) ∨ (k' ≠ k ∧ m.lookup k' = some x) := by
  by_cases own : k' = k
  · rw [own, AList.lookup_insert, Option.some.injEq] at found
    exact .inl ⟨own, found⟩
  · rw [AList.lookup_insert_ne own] at found
    exact .inr ⟨own, found⟩

end Effects
