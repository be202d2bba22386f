import AgentSystemsBenchmark.Core.Budget

/-!
# The Pareto frontier of a report

A point has a quality and three intervals: latency, resources and cost. One point dominates another
conservatively when even its upper bounds are no worse than the other's lower bounds. The report
keeps the points that no point of the list dominates. Each such point of the frontier stands for
the ones it dominates, because dominance goes down a number: what the lower bounds and the missing
quality add up to.
-/

namespace AgentSystemsBenchmark.Economics

open Budget Effects

def maxParetoPoints : Nat := 4096
def maxQuality : Nat := 1000000

inductive EconomicsError where
  | invalidPoint | tooManyPoints | duplicatePoint | noSuccesses | overflow
  deriving DecidableEq, Repr

structure TradeoffPoint where
  id : String
  qualityMillionths : UInt32
  latencyNs : QuantityEvidence
  resourceUnits : QuantityEvidence
  costMicros : QuantityEvidence
  valid : token id = true ∧ qualityMillionths.toNat ≤ maxQuality

def TradeoffPoint.new (id : String) (qualityMillionths : UInt32)
    (latencyNs resourceUnits costMicros : QuantityEvidence) :
    Except EconomicsError TradeoffPoint :=
  if valid : token id = true ∧ qualityMillionths.toNat ≤ maxQuality then
    .ok ⟨id, qualityMillionths, latencyNs, resourceUnits, costMicros, valid⟩
  else .error .invalidPoint

def conservativelyDominates (left right : TradeoffPoint) : Bool :=
  let quality := left.qualityMillionths ≥ right.qualityMillionths
  let latency := left.latencyNs.upper ≤ right.latencyNs.lower
  let resources := left.resourceUnits.upper ≤ right.resourceUnits.lower
  let cost := left.costMicros.upper ≤ right.costMicros.lower
  let strict := left.qualityMillionths > right.qualityMillionths ∨
    left.latencyNs.upper < right.latencyNs.lower ∨
    left.resourceUnits.upper < right.resourceUnits.lower ∨
    left.costMicros.upper < right.costMicros.lower
  quality ∧ latency ∧ resources ∧ cost ∧ strict

def paretoFrontier (points : List TradeoffPoint) : Except EconomicsError (List TradeoffPoint) := do
  refuse (points.length > maxParetoPoints) .tooManyPoints
  refuse (¬ (points.map (·.id)).Nodup) .duplicatePoint
  pure (points.filter fun candidate =>
    ! points.any fun other => other.id ≠ candidate.id && conservativelyDominates other candidate)

/-! ## Dominance is a strict order -/

section Dominance
variable {a b c : TradeoffPoint}

/-- Dominance in natural numbers. -/
theorem conservativelyDominates_iff : conservativelyDominates a b = true ↔
    b.qualityMillionths.toNat ≤ a.qualityMillionths.toNat ∧
      a.latencyNs.upper.toNat ≤ b.latencyNs.lower.toNat ∧
      a.resourceUnits.upper.toNat ≤ b.resourceUnits.lower.toNat ∧
      a.costMicros.upper.toNat ≤ b.costMicros.lower.toNat ∧
      (b.qualityMillionths.toNat < a.qualityMillionths.toNat ∨
        a.latencyNs.upper.toNat < b.latencyNs.lower.toNat ∨
        a.resourceUnits.upper.toNat < b.resourceUnits.lower.toNat ∨
        a.costMicros.upper.toNat < b.costMicros.lower.toNat) := by
  simp only [conservativelyDominates, decide_eq_true_eq]
  rfl

theorem lower_le_upper (quantity : QuantityEvidence) :
    quantity.lower.toNat ≤ quantity.upper.toNat := quantity.ordered

theorem conservativelyDominates_trans (first : conservativelyDominates a b = true)
    (second : conservativelyDominates b c = true) : conservativelyDominates a c = true := by
  rw [conservativelyDominates_iff] at *
  have latency := lower_le_upper b.latencyNs
  have resources := lower_le_upper b.resourceUnits
  have cost := lower_le_upper b.costMicros
  omega

/-- What a dominating point has less of. -/
def deficit (point : TradeoffPoint) : Nat :=
  (maxQuality - point.qualityMillionths.toNat) + point.latencyNs.lower.toNat +
    point.resourceUnits.lower.toNat + point.costMicros.lower.toNat

theorem deficit_lt (dominates : conservativelyDominates a b = true) : deficit a < deficit b := by
  rw [conservativelyDominates_iff] at dominates
  have latency := lower_le_upper a.latencyNs
  have resources := lower_le_upper a.resourceUnits
  have cost := lower_le_upper a.costMicros
  have possible := a.valid.2
  unfold deficit
  omega

end Dominance

/-! ## The frontier covers -/

section Frontier
variable {points frontier : List TradeoffPoint}

/-- Ids are distinct, so a point that dominates another has another id. -/
theorem paretoFrontier_eq_ok (few : points.length ≤ maxParetoPoints)
    (distinct : (points.map (·.id)).Nodup) :
    ∃ frontier, paretoFrontier points = .ok frontier ∧ frontier.Sublist points ∧
      ∀ point, point ∈ frontier ↔ point ∈ points ∧
        ∀ other ∈ points, conservativelyDominates other point = false := by
  have computed : paretoFrontier points = .ok (points.filter fun candidate =>
      ! points.any fun other =>
        other.id ≠ candidate.id && conservativelyDominates other candidate) := by
    rw [paretoFrontier, seq_eq_ok, seq_eq_ok]
    exact ⟨refuse_eq_ok.mpr (Nat.not_lt.mpr few), refuse_eq_ok.mpr (not_not.mpr distinct), rfl⟩
  refine ⟨_, computed, List.filter_sublist, fun point => ?_⟩
  rw [List.mem_filter, Bool.not_eq_true', List.any_eq_false]
  refine and_congr_right fun listed => forall₂_congr fun other member => ?_
  rw [Bool.and_eq_true, not_and, decide_eq_true_iff, Bool.not_eq_true]
  refine ⟨fun free => ?_, fun free _ => free⟩
  by_cases same : other.id = point.id
  · obtain rfl := List.inj_on_of_nodup_map distinct member listed same
    cases dominates : conservativelyDominates other other with
    | false => rfl
    | true => exact absurd (deficit_lt dominates) (Nat.lt_irrefl _)
  · exact free same

/-- Going from a point to one that dominates it ends on the frontier. -/
theorem exists_frontier_dominates
    (kept : ∀ point, point ∈ frontier ↔ point ∈ points ∧
      ∀ other ∈ points, conservativelyDominates other point = false)
    {point other : TradeoffPoint} (listed : other ∈ points)
    (dominates : conservativelyDominates other point = true) :
    ∃ best ∈ frontier, conservativelyDominates best point = true := by
  induction height : deficit other using Nat.strongRecOn generalizing other with
  | ind height ih =>
    by_cases undominated : ∀ third ∈ points, conservativelyDominates third other = false
    · exact ⟨other, (kept other).mpr ⟨listed, undominated⟩, dominates⟩
    · push Not at undominated
      obtain ⟨third, member, above⟩ := undominated
      have above := Bool.eq_true_of_not_eq_false above
      exact ih _ (height ▸ deficit_lt above) member
        (conservativelyDominates_trans above dominates) rfl

end Frontier

/-- The frontier keeps the order of the report, is not empty unless the report is, and leaves out
just what one of its own points dominates: the worst that point may be is as good in everything
as the best the other may be, and better in something. Another order of the points gives the
same set. -/
theorem paretoFrontier_covers (points : List TradeoffPoint) (few : points.length ≤ maxParetoPoints)
    (distinct : (points.map (·.id)).Nodup) :
    ∃ frontier, paretoFrontier points = .ok frontier ∧ frontier.Sublist points ∧
      (∀ point ∈ points, point ∉ frontier ↔ ∃ best ∈ frontier,
        point.qualityMillionths.toNat ≤ best.qualityMillionths.toNat ∧
        best.latencyNs.upper.toNat ≤ point.latencyNs.lower.toNat ∧
        best.resourceUnits.upper.toNat ≤ point.resourceUnits.lower.toNat ∧
        best.costMicros.upper.toNat ≤ point.costMicros.lower.toNat ∧
        (point.qualityMillionths.toNat < best.qualityMillionths.toNat ∨
          best.latencyNs.upper.toNat < point.latencyNs.lower.toNat ∨
          best.resourceUnits.upper.toNat < point.resourceUnits.lower.toNat ∨
          best.costMicros.upper.toNat < point.costMicros.lower.toNat)) ∧
      (points ≠ [] → frontier ≠ []) ∧
      ∀ reordered, reordered.Perm points → ∃ frontier', paretoFrontier reordered = .ok frontier' ∧
        ∀ point, point ∈ frontier' ↔ point ∈ frontier := by
  obtain ⟨frontier, computed, sublist, kept⟩ := paretoFrontier_eq_ok few distinct
  have covers : ∀ point ∈ points, point ∉ frontier →
      ∃ best ∈ frontier, conservativelyDominates best point = true := by
    intro point listed omitted
    rw [kept] at omitted
    push Not at omitted
    obtain ⟨other, member, above⟩ := omitted listed
    exact exists_frontier_dominates kept member (Bool.eq_true_of_not_eq_false above)
  simp only [← conservativelyDominates_iff]
  refine ⟨frontier, computed, sublist, fun point listed => ⟨covers point listed, ?_⟩, ?_, ?_⟩
  · rintro ⟨best, chosen, above⟩ member
    have free := ((kept point).mp member).2 best ((kept best).mp chosen).1
    rw [free] at above
    cases above
  · intro inhabited empty
    obtain ⟨point, listed⟩ := List.exists_mem_of_ne_nil points inhabited
    obtain ⟨best, chosen, -⟩ := covers point listed (by rw [empty]; exact List.not_mem_nil)
    rw [empty] at chosen
    cases chosen
  · intro reordered same
    have few' : reordered.length ≤ maxParetoPoints := same.length_eq ▸ few
    have distinct' : (reordered.map (·.id)).Nodup := (same.map _).nodup_iff.mpr distinct
    obtain ⟨frontier', computed', -, kept'⟩ := paretoFrontier_eq_ok few' distinct'
    refine ⟨frontier', computed', fun point => ?_⟩
    rw [kept', kept, same.mem_iff]
    simp only [same.mem_iff]

section Sample

def samplePoint (id : String) (valid : token id = true) (latency : UInt64) : TradeoffPoint :=
  ⟨id, 500000, .measured latency, .measured 1, .measured 1, valid, by decide⟩

/-- The slower of two points is left out of either order. -/
theorem paretoFrontier_covers_sample :
    let fast := samplePoint "fast" (by decide +kernel) 1
    let slow := samplePoint "slow" (by decide +kernel) 2
    ∀ points ∈ [[slow, fast], [fast, slow]], ∃ frontier, paretoFrontier points = .ok frontier ∧
      fast ∈ frontier ∧ slow ∉ frontier := by
  intro fast slow
  obtain ⟨frontier, computed, sublist, covers, -, reordered⟩ :=
    paretoFrontier_covers [slow, fast] (by decide) (by decide +kernel)
  have kept : fast ∈ frontier := by
    by_contra omitted
    obtain ⟨best, chosen, -, latency, -, -, better⟩ := (covers fast (by simp)).mp omitted
    rcases List.mem_pair.mp (sublist.subset chosen) with rfl | rfl
    · exact absurd latency (by decide)
    · exact absurd better (by decide)
  have omitted : slow ∉ frontier := (covers slow (by simp)).mpr ⟨fast, kept, by decide⟩
  obtain ⟨frontier', computed', same⟩ := reordered [fast, slow] (.swap _ _ _)
  rw [List.forall_mem_cons, List.forall_mem_singleton]
  exact ⟨⟨frontier, computed, kept, omitted⟩, frontier', computed', (same fast).mpr kept,
    mt (same slow).mp omitted⟩

end Sample

end AgentSystemsBenchmark.Economics
