import AgentSystemsBenchmark.Runtime.PointRecords

/-!
# The order of the capacity points

A search for capacity tests every concurrency up to a maximum. It explores the powers of two and
the maximum first, in a seeded order, and then what lies between them, in another one.
-/

namespace AgentSystemsBenchmark.Scheduler

open List

def u32Max : Nat := 2 ^ 32 - 1

/-- Double the point until it reaches the maximum. -/
def exploratory (max : UInt32) (point : Nat) (positive : 0 < point) : List Nat :=
  point :: if reached : max.toNat ≤ point then []
    else exploratory max (min (min (point * 2) u32Max) max.toNat) (by
      unfold u32Max
      omega)
termination_by max.toNat - point
decreasing_by
  have bound : max.toNat < 2 ^ 32 := max.toNat_lt
  unfold u32Max
  omega

def refinement (max : UInt32) : List Nat :=
  (List.range' 1 max.toNat).filter fun candidate =>
    ! (exploratory max 1 Nat.one_pos).contains candidate

def capacityOrder (max : UInt32) (seed : UInt64) : Except PlanError (List Nat) :=
  if max.toNat = 0 ∨ max.toNat > maxInFlight then .error .invalidInFlight
  else .ok (shuffle (exploratory max 1 Nat.one_pos) (seed ^^^ 0xffffffffffffffff) ++
    shuffle (refinement max) seed)

/-! ## The explored points -/

section Explored
variable {max : UInt32} {point : Nat} {positive : 0 < point}

/-- Below the maximum the doubled point is a 32-bit number. -/
theorem exploratory_of_lt (less : point < max.toNat) (next : 0 < min (point * 2) max.toNat) :
    exploratory max point positive =
      point :: exploratory max (min (point * 2) max.toNat) next := by
  have bound : max.toNat < 2 ^ 32 := max.toNat_lt
  have same : min (min (point * 2) u32Max) max.toNat = min (point * 2) max.toNat := by
    unfold u32Max
    omega
  rw [exploratory, dif_neg (Nat.not_le.mpr less)]
  simp only [same]

theorem exploratory_of_ge (last : max.toNat ≤ point) :
    exploratory max point positive = [point] := by
  rw [exploratory, dif_pos last]

theorem mem_exploratory (within : point ≤ max.toNat) (value : Nat) :
    value ∈ exploratory max point positive ↔ ∃ k, value = min (point * 2 ^ k) max.toNat := by
  induction distance : max.toNat - point using Nat.strongRecOn generalizing point with
  | ind distance ih =>
    rcases Nat.lt_or_ge point max.toNat with less | last
    · have next : 0 < min (point * 2) max.toNat := by omega
      have later : value ∈ exploratory max (min (point * 2) max.toNat) next ↔
          ∃ k, value = min (min (point * 2) max.toNat * 2 ^ k) max.toNat :=
        ih _ (by omega) (Nat.min_le_right ..) rfl
      rw [exploratory_of_lt less next, mem_cons, later]
      constructor
      · rintro (rfl | ⟨k, rfl⟩)
        · exact ⟨0, by omega⟩
        · refine ⟨k + 1, ?_⟩
          have grows : max.toNat ≤ max.toNat * 2 ^ k :=
            Nat.le_mul_of_pos_right _ (Nat.two_pow_pos k)
          rw [← Nat.mul_min_mul_right, Nat.pow_succ', ← Nat.mul_assoc]
          omega
      · rintro ⟨k, rfl⟩
        cases k with
        | zero => exact .inl (by omega)
        | succ k =>
          refine .inr ⟨k, ?_⟩
          have grows : max.toNat ≤ max.toNat * 2 ^ k :=
            Nat.le_mul_of_pos_right _ (Nat.two_pow_pos k)
          rw [← Nat.mul_min_mul_right, Nat.pow_succ', ← Nat.mul_assoc]
          omega
    · obtain rfl : point = max.toNat := by omega
      rw [exploratory_of_ge last, mem_singleton]
      have grows : ∀ k, max.toNat ≤ max.toNat * 2 ^ k :=
        fun k => Nat.le_mul_of_pos_right _ (Nat.two_pow_pos k)
      constructor
      · rintro rfl
        exact ⟨0, (Nat.min_eq_right (grows 0)).symm⟩
      · rintro ⟨k, rfl⟩
        exact Nat.min_eq_right (grows k)

theorem le_of_mem_exploratory (within : point ≤ max.toNat) {value : Nat}
    (member : value ∈ exploratory max point positive) : point ≤ value := by
  obtain ⟨k, rfl⟩ := (mem_exploratory within value).mp member
  exact Nat.le_min.mpr ⟨Nat.le_mul_of_pos_right _ (Nat.two_pow_pos k), within⟩

theorem nodup_exploratory (within : point ≤ max.toNat) :
    (exploratory max point positive).Nodup := by
  induction distance : max.toNat - point using Nat.strongRecOn generalizing point with
  | ind distance ih =>
    rcases Nat.lt_or_ge point max.toNat with less | last
    · have next : 0 < min (point * 2) max.toNat := by omega
      rw [exploratory_of_lt less next, nodup_cons]
      refine ⟨fun again => ?_, ih _ (by omega) (Nat.min_le_right ..) rfl⟩
      have higher := le_of_mem_exploratory (Nat.min_le_right ..) again
      omega
    · rw [exploratory_of_ge last]
      exact nodup_singleton _

end Explored

variable {max : UInt32}

/-- The powers of two up to the maximum, and the maximum. -/
theorem mem_exploratory_one (positive : max.toNat ≠ 0) (value : Nat) :
    value ∈ exploratory max 1 Nat.one_pos ↔
      value ≤ max.toNat ∧ ((∃ k, value = 2 ^ k) ∨ value = max.toNat) := by
  rw [mem_exploratory (by omega)]
  simp only [Nat.one_mul]
  constructor
  · rintro ⟨k, rfl⟩
    refine ⟨Nat.min_le_right .., ?_⟩
    rcases Nat.le_total (2 ^ k) max.toNat with below | above
    · exact .inl ⟨k, Nat.min_eq_left below⟩
    · exact .inr (Nat.min_eq_right above)
  · rintro ⟨below, ⟨k, rfl⟩ | rfl⟩
    · exact ⟨k, (Nat.min_eq_left below).symm⟩
    · exact ⟨max.toNat, (Nat.min_eq_right (Nat.le_of_lt Nat.lt_two_pow_self)).symm⟩

/-- The explored points and those left over make up the whole range. -/
theorem exploratory_append_refinement_perm (positive : max.toNat ≠ 0) :
    (exploratory max 1 Nat.one_pos ++ refinement max).Perm (List.range' 1 max.toNat) := by
  have inRange : ∀ value ∈ exploratory max 1 Nat.one_pos, value ∈ List.range' 1 max.toNat := by
    intro value member
    have low := le_of_mem_exploratory (by omega) member
    have high := ((mem_exploratory_one positive value).mp member).1
    rw [mem_range'_1]
    omega
  have rest : ∀ value, value ∈ refinement max ↔
      value ∈ List.range' 1 max.toNat ∧ value ∉ exploratory max 1 Nat.one_pos := by
    intro value
    rw [refinement, mem_filter, Bool.not_eq_true', ← Bool.not_eq_true, contains_iff_mem]
  have nodup : (exploratory max 1 Nat.one_pos ++ refinement max).Nodup := by
    rw [nodup_append]
    refine ⟨nodup_exploratory (by omega), (nodup_range' ..).filter _, ?_⟩
    rintro value explored _ left rfl
    exact ((rest value).mp left).2 explored
  rw [perm_ext_iff_of_nodup nodup (nodup_range' ..)]
  intro value
  rw [mem_append, rest]
  constructor
  · rintro (explored | ⟨listed, -⟩)
    · exact inRange value explored
    · exact listed
  · intro listed
    by_cases explored : value ∈ exploratory max 1 Nat.one_pos
    · exact .inl explored
    · exact .inr ⟨listed, explored⟩

/-- Every concurrency is tested once, the powers of two and the maximum before all others. -/
theorem capacityOrder_exhaustive (positive : 1 ≤ max.toNat) (bounded : max.toNat ≤ maxInFlight)
    (seed : UInt64) :
    ∃ first others, capacityOrder max seed = .ok (first ++ others) ∧
      (first ++ others).Perm (List.range' 1 max.toNat) ∧
      ∀ value, value ∈ first ↔
        value ≤ max.toNat ∧ ((∃ k, value = 2 ^ k) ∨ value = max.toNat) := by
  have accepted : ¬ (max.toNat = 0 ∨ max.toNat > maxInFlight) := by omega
  refine ⟨_, _, if_neg accepted, ?_, fun value => ?_⟩
  · exact ((shuffle_perm _ _).append (shuffle_perm _ _)).trans
      (exploratory_append_refinement_perm (by omega))
  · rw [(shuffle_perm _ _).mem_iff]
    exact mem_exploratory_one (by omega) value

theorem capacityOrder_exhaustive_five : ∃ first others,
    capacityOrder 5 7 = .ok (first ++ others) ∧ (first ++ others).Perm [1, 2, 3, 4, 5] ∧
      ∀ value, value ∈ first ↔ value ≤ 5 ∧ ((∃ k, value = 2 ^ k) ∨ value = 5) :=
  @capacityOrder_exhaustive 5 (by decide) (by decide) 7

end AgentSystemsBenchmark.Scheduler
