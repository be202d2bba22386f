import Mathlib

/-!
# Metric collections of an attempt

While the agent runs, a loop polls it and collects the selected metrics when a sampling slot is
due: slot 0 before the loop, and slot `k` after `k` intervals. A late poll collects once, for the
latest slot that is due, and counts those it has missed as lost.
-/

namespace AgentSystemsBenchmark.Collections

open List

/-- The sums and products of the counters saturate. -/
def saturate (n : Nat) : Nat := min n (2 ^ 64 - 1)

inductive Fate where
  | completed | lost
  deriving DecidableEq, Repr

/-- The counters of the loop, with what became of each slot they count. -/
structure Counters where
  nextMeasurementSlot : Nat
  scheduled : Nat
  completed : Nat
  lost : Nat
  fates : List (Nat × Fate)
  deriving DecidableEq

/-- A turn of the loop that finds the agent running after its sleep. -/
structure Poll where
  elapsedNs : Nat
  /-- The collection succeeds, if one is due. -/
  collects : Bool

/-- The counters before the loop. A selection without metrics has no interval. -/
def start : Option Nat → Counters
  | none => ⟨1, 0, 0, 0, []⟩
  | some _ => ⟨1, 1, 1, 0, [(0, .completed)]⟩

/-- A collection that fails ends the attempt with an error. -/
def poll (interval : Nat) (s : Counters) (turn : Poll) : Option Counters :=
  if turn.elapsedNs ≥ saturate (interval * s.nextMeasurementSlot) then
    let dueSlot := turn.elapsedNs / interval
    let dueCollections := saturate (dueSlot - s.nextMeasurementSlot + 1)
    if turn.collects then
      some {
        nextMeasurementSlot := saturate (dueSlot + 1)
        scheduled := saturate (s.scheduled + dueCollections)
        completed := saturate (s.completed + 1)
        lost := saturate (s.lost + (dueCollections - 1))
        fates := s.fates ++ ((range' s.nextMeasurementSlot (dueCollections - 1)).map (·, .lost) ++
          [(dueSlot, .completed)]) }
    else none
  else some s

/-- The collection before the loop and the loop. -/
def collect (cadence : Option Nat) (first : Bool) (polls : List Poll) : Option Counters :=
  if first then polls.foldlM (fun s turn => cadence.elim (some s) (poll · s turn)) (start cadence)
  else none

/-- The slots due at a time, each counted once with its fate. -/
structure Accounted (interval elapsed : Nat) (s : Counters) : Prop where
  next : s.nextMeasurementSlot = elapsed / interval + 1
  scheduled : s.scheduled = s.nextMeasurementSlot
  slots : s.fates.map Prod.fst = range s.scheduled
  completed : s.completed = (s.fates.map Prod.snd).count .completed
  lost : s.lost = (s.fates.map Prod.snd).count .lost
  total : s.scheduled = s.completed + s.lost

section Loop

variable {interval elapsed : Nat} {s : Counters}

theorem accounted_start (interval : Nat) : Accounted interval 0 (start (some interval)) :=
  ⟨by simp [start], rfl, rfl, rfl, rfl, rfl⟩

/-- The slots of a poll follow those counted before. -/
theorem range_append_due (n missed : Nat) :
    range n ++ (range' n missed ++ [n + missed]) = range (n + (missed + 1)) := by
  rw [← range'_1_concat, range_eq_range', range_eq_range']
  simpa using range'_append_1 (s := 0) (m := n) (n := missed + 1)

variable (positive : 0 < interval)
include positive

/-- A poll collects for every slot that has fallen due since the one before, or fails. -/
theorem Accounted.step (accounted : Accounted interval elapsed s) {turn : Poll}
    (later : elapsed ≤ turn.elapsedNs) (bounded : turn.elapsedNs < 2 ^ 64 - 1) :
    (poll interval s turn = none ∧ turn.collects = false) ∨
      ∃ t, poll interval s turn = some t ∧ Accounted interval turn.elapsedNs t := by
  obtain ⟨next, scheduled, slots, completed, lost, total⟩ := accounted
  unfold poll
  split
  case isTrue due =>
    have reached : s.nextMeasurementSlot ≤ turn.elapsedNs / interval := by
      rw [Nat.le_div_iff_mul_le positive, Nat.mul_comm]
      unfold saturate at due
      omega
    have small := Nat.div_le_self turn.elapsedNs interval
    obtain ⟨missed, slot⟩ := Nat.exists_eq_add_of_le reached
    have exact : ∀ n ≤ turn.elapsedNs + 1, saturate n = n := fun n h => min_eq_left (by omega)
    have count : turn.elapsedNs / interval - s.nextMeasurementSlot + 1 = missed + 1 := by omega
    dsimp only
    rw [count, exact (missed + 1) (by omega), Nat.add_sub_cancel]
    split
    case isFalse fails => exact .inl ⟨rfl, by simpa using fails⟩
    case isTrue =>
      refine .inr ⟨_, rfl, ?_⟩
      rw [exact _ (by omega), exact _ (by omega), exact _ (by omega), exact _ (by omega), slot]
      refine ⟨by dsimp only; rw [slot], by dsimp only; omega, ?_, ?_, ?_, by dsimp only; omega⟩
      · simp only [map_append, slots, map_map, map_cons, map_nil, scheduled]
        exact (congrArg₂ _ rfl (by simp [Function.comp_def])).trans (range_append_due _ _)
      · simp [completed, Function.comp_def, count_replicate]
      · simp [lost, Function.comp_def]
  case isFalse early =>
    refine .inr ⟨s, rfl, ⟨?_, scheduled, slots, completed, lost, total⟩⟩
    have before : turn.elapsedNs / interval < s.nextMeasurementSlot := by
      rw [Nat.div_lt_iff_lt_mul positive, Nat.mul_comm]
      unfold saturate at early
      omega
    have grown := Nat.div_le_div_right (c := interval) later
    omega

/-- The loop from any time on. -/
theorem Accounted.loop (accounted : Accounted interval elapsed s) {polls : List Poll}
    (ordered : (elapsed :: polls.map Poll.elapsedNs).Pairwise (· ≤ ·))
    (bounded : ∀ turn ∈ polls, turn.elapsedNs < 2 ^ 64 - 1) :
    (polls.foldlM (poll interval) s = none ∧ ∃ turn ∈ polls, turn.collects = false) ∨
      ∃ t, polls.foldlM (poll interval) s = some t ∧
        Accounted interval ((polls.map Poll.elapsedNs).getLastD elapsed) t := by
  induction polls generalizing elapsed s with
  | nil => exact .inr ⟨s, rfl, accounted⟩
  | cons turn polls ih =>
    rw [map_cons, pairwise_cons] at ordered
    rw [foldlM_cons, map_cons, getLastD_cons]
    rcases accounted.step positive (ordered.1 _ mem_cons_self) (bounded _ mem_cons_self) with
      ⟨stopped, failed⟩ | ⟨t, went, accounted⟩
    · exact .inl ⟨by rw [stopped]; rfl, turn, mem_cons_self, failed⟩
    · rw [went]
      refine (ih accounted ordered.2 fun turn mem =>
        bounded turn (mem_cons_of_mem _ mem)).imp_left ?_
      exact fun ⟨stopped, turn, mem, failed⟩ => ⟨stopped, turn, mem_cons_of_mem _ mem, failed⟩

end Loop

/-- Either a collection fails and the attempt with it, or each slot due at the last poll was counted
once, as completed or as lost. These are the slots due before the attempt ended exactly if none fell
due after the last poll. -/
theorem metric_slots_accounted (interval : Nat) (positive : 0 < interval) (first : Bool)
    (polls : List Poll) (ordered : (polls.map Poll.elapsedNs).Pairwise (· ≤ ·))
    (unsaturated : ∀ turn ∈ polls, turn.elapsedNs < 2 ^ 64 - 1) :
    match collect (some interval) first polls with
    | none => first = false ∨ ∃ turn ∈ polls, turn.collects = false
    | some s => s.fates.map Prod.fst = range s.scheduled ∧
        s.completed = (s.fates.map Prod.snd).count .completed ∧
        s.lost = (s.fates.map Prod.snd).count .lost ∧ s.scheduled = s.completed + s.lost ∧
        ∀ ended, s.scheduled = 1 + ended / interval ↔
          ended / interval = (polls.map Poll.elapsedNs).getLastD 0 / interval := by
  cases first with
  | false => exact .inl rfl
  | true =>
    rcases (accounted_start interval).loop positive (pairwise_cons.mpr ⟨by simp, ordered⟩)
      unsaturated with ⟨stopped, failed⟩ | ⟨t, went, accounted⟩
    · rw [show collect (some interval) true polls = none from stopped]
      exact .inr failed
    · rw [show collect (some interval) true polls = some t from went]
      refine ⟨accounted.slots, accounted.completed, accounted.lost, accounted.total,
        fun ended => ?_⟩
      rw [accounted.scheduled, accounted.next]
      omega

/-- Polls at one and at four and a half intervals. -/
theorem metric_slots_accounted_sample :
    ∃ s, collect (some 10) true [⟨10, true⟩, ⟨45, true⟩] = some s ∧
      s.scheduled = s.completed + s.lost ∧ (s.scheduled = 1 + 49 / 10 ↔ 49 / 10 = 45 / 10) := by
  have h :=
    metric_slots_accounted 10 (by decide) true [⟨10, true⟩, ⟨45, true⟩] (by decide) (by decide)
  exact ⟨_, rfl, h.2.2.2.1, h.2.2.2.2 49⟩

/-- The agent runs on for almost two intervals after the last poll, and slot 3 is not counted. -/
theorem not_metric_slots_accounted :
    (collect (some 10000000) true [⟨20000000, true⟩]).map Counters.scheduled = some 3 ∧
      1 + 39000000 / 10000000 = 4 := by
  decide

end AgentSystemsBenchmark.Collections
